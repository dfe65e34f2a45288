import WorkspaceClient.Credential
import WorkspaceClient.Http.ContentType
import WorkspaceClient.Trust

/-
  This file defines clients of the Dashboard and the calling
  of its procedures.

  A procedure is called by posting a JSON document to its
  path below the base URL. The session travels as a cookie.

  Key definitions include:
    * `Dashboard.Client`
    * `Dashboard.Client.create`
    * `Dashboard.Client.withToken`
    * `Dashboard.Client.shown`
    * `Dashboard.Procedure`
    * `Dashboard.statusFailure`
    * `Dashboard.charset?`
    * `Dashboard.Client.call`
-/

namespace WorkspaceClient
namespace Dashboard

------------------------------------------------------------
-- Clients
------------------------------------------------------------

/-
  A client: the authorities it trusts, the base URL, which
  ends in a slash, and the cookie of the session.
-/
structure Client where
  roots : Http.Roots
  base : Url
  cookie : Option String
  deriving DecidableEq, Repr

namespace Client

/- The base URL that a text names. -/
def parseBase
    (text : String) : Except Failure Url :=
  match Url.parse text with
  | .ok u => .ok u.asBase
  | .error fault =>
      .error (.validation
        ("invalid dashboard URL '" ++ text ++ "': "
          ++ fault.message))

/-
  A client without a session. The authorities are looked at
  before the URL.
-/
def create
    (roots : Http.Roots)
    (text : String) : Except Failure Client := do
  Trust.checkRoots roots
  let base ← parseBase text
  return { roots, base, cookie := none }

/- The client with the session that a token stores. -/
def withToken
    (client : Client)
    (token : String) : Except Failure Client := do
  let cookie ← Credential.replay token
  return { client with cookie := some cookie }

/- A client as it is shown, without its cookie. -/
def shown
    (client : Client) : String :=
  "DashboardClient \x7b base_url: "
    ++ Text.quoted client.base.text
    ++ ", has_session: " ++ toString client.cookie.isSome
    ++ ", .. \x7d"

end Client

------------------------------------------------------------
-- Procedures
------------------------------------------------------------

/- The procedures of the Dashboard. -/
inductive Procedure where
  | login
  | serviceAccountLogin
  | verify
  | getWorkspaces
  | getUsers
  deriving DecidableEq, Repr

/- The path of a procedure below the base URL. -/
def Procedure.path : Procedure → String
  | login =>
      "dashboard.v1alpha1.AuthService/Login"
  | serviceAccountLogin =>
      "dashboard.v1alpha1.AuthService/ServiceAccountLogin"
  | verify =>
      "dashboard.v1alpha1.AuthService/Verify"
  | getWorkspaces =>
      "dashboard.v1alpha1.WorkspaceService/GetWorkspaces"
  | getUsers =>
      "dashboard.v1alpha1.UserService/GetUsers"

/- The URL of a procedure. -/
def Client.procedureUrl
    (client : Client)
    (procedure : Procedure) : Url :=
  client.base.join procedure.path.toList

------------------------------------------------------------
-- Requests
------------------------------------------------------------

/- Whether a header can carry this byte. -/
def isHeaderByte
    (b : UInt8) : Bool :=
  (0x20 ≤ b && b != 0x7F) || b == 0x09

/- The header of a cookie, if a header can carry it. -/
def cookieHeader? : Option String →
    Option (List (String × Bytes))
  | none => some []
  | some cookie =>
      let bytes := Bytes.ofText cookie
      if bytes.all isHeaderByte then
        some [("cookie", bytes)]
      else
        none

/- The request that calls a procedure, if it can be formed. -/
def Client.request?
    (client : Client)
    (procedure : Procedure)
    (document : Json) : Option Http.Request := do
  let cookie ← cookieHeader? client.cookie
  let u := client.procedureUrl procedure
  return {
    roots := client.roots
    method := "POST"
    origin := Trust.originOf u
    target := u.target
    headers :=
      [("connect-protocol-version", Bytes.ofText "1"),
        ("content-type", Bytes.ofText "application/json")]
        ++ Trust.userHeaders u ++ cookie
    body := document.compact }

------------------------------------------------------------
-- Answers
------------------------------------------------------------

/- How the message of a refusal is read from JSON. -/
def refusalShape : Json.Shape String where
  title := "ConnectError"
  initial := ""
  fields := [.of "message" .string fun _ s => s]

/- The message that the body of a refusal carries. -/
def refusalDetail?
    (body : String) : Option String :=
  match Json.Decoder.ofBytes refusalShape.decode
      (Bytes.ofText body) with
  | .ok message =>
      if message.isEmpty then none else some message
  | .error _ => none

/- The failure of a call that was answered with a refusal. -/
def statusFailure
    (procedure : Procedure)
    (status : Nat)
    (body : String) : Failure :=
  let detail := refusalDetail? body
  let context := procedure.path ++ ": "
  match status, detail with
  | 401, _ | 403, _ =>
      .auth (detail.getD (context ++ Http.statusText status))
  | 404, some message =>
      .notFound message
  | _, some message =>
      .transport (context ++ "unexpected status "
        ++ Http.statusText status ++ ": " ++ message)
  | _, none =>
      .transport (context ++ "unexpected status "
        ++ Http.statusText status)

/- Whether a byte may stand in a header that is read as text. -/
def isTextByte
    (b : UInt8) : Bool :=
  (0x20 ≤ b && b < 0x7F) || b == 0x09

/- The character set that the body of an answer names. -/
def charset?
    (r : Http.Response) : Option Charset := do
  let value ← (r.headerValues "content-type").head?
  if value.all isTextByte then
    let text ← Bytes.toText? value
    Http.ContentType.charset? text.toList
  else
    none

/- The text of the body of a refusal, if it can be read. -/
def refusalText
    (r : Http.Response) : String :=
  match r.body? with
  | some body => Bytes.toTextAs ((charset? r).getD .utf8) body
  | none => ""

/- The readable cookie headers of an answer. -/
def readableCookies
    (r : Http.Response) : List String :=
  ((r.headerValues "set-cookie").filter
    (·.all isTextByte)).filterMap Bytes.toText?

/- The decoded body of an answer, and its cookie headers. -/
def readResponse
    {α : Type}
    (procedure : Procedure)
    (d : Json.Decoder α)
    (r : Http.Response) :
    Except Failure (α × List String) :=
  if !Http.isSuccess r.status then
    .error (statusFailure procedure r.status (refusalText r))
  else
    match r.body? with
    | none => .error (Trust.unfinished procedure.path)
    | some body =>
        match d.ofBytes body with
        | .ok a => .ok (a, readableCookies r)
        | .error fault =>
            .error (.protocol
              (procedure.path ++ ": " ++ fault.message))

/- What the reply to a call means. -/
def readReply
    {α : Type}
    (procedure : Procedure)
    (d : Json.Decoder α)
    (reply : Http.Reply) :
    Except Failure (α × List String) := do
  let r ← Trust.response procedure.path reply
  readResponse procedure d r

------------------------------------------------------------
-- Calls
------------------------------------------------------------

/- Call a procedure. -/
def Client.call
    {α : Type}
    (client : Client)
    (procedure : Procedure)
    (document : Json)
    (d : Json.Decoder α) :
    Task Network (α × List String) := do
  match client.request? procedure document with
  | none => .fail (Trust.unformed procedure.path)
  | some request =>
      let reply ← Network.send request
      .ofExcept (readReply procedure d reply)

end Dashboard
end WorkspaceClient
