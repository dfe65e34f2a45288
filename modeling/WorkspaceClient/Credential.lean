import WorkspaceClient.Bytes.Base64
import WorkspaceClient.Failure

/-
  This file defines the credentials of a session: the cookie
  that the Dashboard sets, the token that stores it, and the
  identity token that the platform mounts.

  Key definitions include:
    * `Credential.sessionCookie`
    * `Credential.encodeToken`
    * `Credential.TokenFault`
    * `Credential.decodeToken`
    * `Credential.readIdentity`
-/

namespace WorkspaceClient
namespace Credential

------------------------------------------------------------
-- Cookies
------------------------------------------------------------

/- The first part of a cookie header, without its attributes. -/
def cookiePair
    (header : String) : String :=
  Text.trim (String.ofList
    (header.toList.takeWhile (· != ';')))

/- Whether a text is a name, an equals sign and a value. -/
def isPair
    (s : String) : Bool :=
  s.toList.contains '=' && s.toList.head? != some '='

/- The pairs that several cookie headers carry. -/
def cookiePairs
    (headers : List String) : List String :=
  (headers.map cookiePair).filter isPair

/-
  The cookie of a session: the pairs of all headers in
  order, if there are any.
-/
def sessionCookie
    (headers : List String) : Option String :=
  match cookiePairs headers with
  | [] => none
  | pairs => some (Text.join "; " pairs)

------------------------------------------------------------
-- Tokens
------------------------------------------------------------

/- The token that stores a cookie. -/
def encodeToken
    (cookie : String) : String :=
  Base64.encode (Bytes.ofText cookie)

/- The reasons why a token stores no cookie. -/
inductive TokenFault where
  | badEncoding (fault : Base64.Fault)
  | badText
  deriving DecidableEq, Repr

/- The text of a fault. -/
def TokenFault.message : TokenFault → String
  | badEncoding fault =>
      "stored session token is corrupt (" ++ fault.message
        ++ "): run 'burrow login'"
  | badText =>
      "stored session token is corrupt: run 'burrow login'"

/- The cookie that a token stores. -/
def decodeToken
    (token : String) : Except TokenFault String :=
  match Base64.decode (Bytes.ofText (Text.trim token)) with
  | .error fault => .error (.badEncoding fault)
  | .ok bytes =>
      match Bytes.toText? bytes with
      | some cookie => .ok cookie
      | none => .error .badText

/- The cookie that a token stores, to be sent. -/
def replay
    (token : String) : Except Failure String :=
  match decodeToken token with
  | .ok cookie => .ok cookie
  | .error fault => .error (.validation fault.message)

------------------------------------------------------------
-- Platform identity
------------------------------------------------------------

/- Where the platform mounts the identity token. -/
def usualIdentityPath : String :=
  "/var/run/secrets/kubernetes.io/serviceaccount/token"

/- Read the identity token in the file at a path. -/
def readIdentity
    (fs : Files)
    (path : String) : Except Failure String :=
  match fs.readText (Path.ofText path) with
  | .error fault =>
      .error (.auth
        ("cannot read platform identity token " ++ path ++ ": "
          ++ fault.message))
  | .ok raw =>
      let token := Text.trim raw
      if token.isEmpty then
        .error (.auth
          ("platform identity token " ++ path ++ " is empty"))
      else
        .ok token

end Credential
end WorkspaceClient
