import WorkspaceClient.Bytes.Base64
import WorkspaceClient.Json.Decode
import WorkspaceClient.Json.Printer
import WorkspaceClient.Text.Blank

/-
  This file defines the cached session of a person or of the
  platform itself.

  Key definitions include:
    * `Session`
    * `Session.isEmpty`
    * `Session.caBytes`
    * `Session.withCa`
    * `Session.shape`
    * `Session.document`
    * `Session.redacted`
-/

namespace WorkspaceClient

------------------------------------------------------------
-- Sessions
------------------------------------------------------------

/-
  What is known about the connection to the Dashboard: its
  URL, the encoded session cookie, the user, whether the
  user is the platform itself, and the encoded certificate
  of the authority that the Dashboard is trusted by.
-/
structure Session where
  endpoint : String
  token : String
  user : String
  isPlatform : Bool
  ca : String
  deriving DecidableEq, Repr

namespace Session

/- The session before any login. -/
def empty : Session :=
  { endpoint := ""
    token := ""
    user := ""
    isPlatform := false
    ca := "" }

/- Whether nothing has ever been stored. -/
def isEmpty
    (s : Session) : Bool :=
  s.endpoint.isEmpty && s.token.isEmpty && s.user.isEmpty

/- Whether there is a token to replay. -/
def hasToken
    (s : Session) : Bool :=
  !s.token.isEmpty

------------------------------------------------------------
-- Certificates
------------------------------------------------------------

/-
  The bytes of the cached certificate, or `none` if there is
  no certificate.
-/
def caBytes
    (s : Session) : Except Base64.Fault (Option Bytes) :=
  if s.ca.isEmpty then
    .ok none
  else
    some <$> Base64.decode (Bytes.ofText (Text.trim s.ca))

/- The session with another cached certificate. -/
def withCa
    (s : Session)
    (pem : Bytes) : Session :=
  { s with ca := Base64.encode pem }

------------------------------------------------------------
-- JSON
------------------------------------------------------------

/- How a session is read from JSON. -/
def shape : Json.Shape Session where
  title := "Session"
  initial := empty
  fields :=
    [ .of "endpoint" .string fun s x =>
        { s with endpoint := x },
      .of "token" .string fun s x => { s with token := x },
      .of "user" .string fun s x => { s with user := x },
      .of "usePlatformIdentity" .bool fun s b =>
        { s with isPlatform := b },
      .of "cacert" .string fun s x => { s with ca := x } ]

/-
  The JSON value of a session. The platform flag and the
  certificate are left out when they are not set.
-/
def toJson
    (s : Session) : Json :=
  .ofMembers
    ([("endpoint", .ofText s.endpoint),
      ("token", .ofText s.token),
      ("user", .ofText s.user)]
      ++ (if s.isPlatform then
            [("usePlatformIdentity", .bool true)]
          else
            [])
      ++ (if s.ca.isEmpty then
            []
          else
            [("cacert", .ofText s.ca)]))

/- The document that a session file holds. -/
def document
    (s : Session) : Bytes :=
  Bytes.ofText (s.toJson.pretty ++ "\n")

------------------------------------------------------------
-- Showing
------------------------------------------------------------

/- What is shown in place of a secret. -/
def redact
    (secret : String) : String :=
  if secret.isEmpty then "" else "<redacted>"

/- A session with its secrets hidden. -/
def redacted
    (s : Session) : String :=
  let ca := if s.ca.isEmpty then "" else "<present>"
  "Session \x7b endpoint: " ++ Text.quoted s.endpoint
    ++ ", token: " ++ Text.quoted (redact s.token)
    ++ ", user: " ++ Text.quoted s.user
    ++ ", use_platform_identity: " ++ toString s.isPlatform
    ++ ", ca_cert: " ++ Text.quoted ca ++ " \x7d"

end Session
end WorkspaceClient
