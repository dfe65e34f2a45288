import WorkspaceClient.Dashboard.Client
import WorkspaceClient.User
import WorkspaceClient.Workspace

/-
  This file defines what the procedures of the Dashboard are
  called for: logging in, checking a session, and listing
  workspaces and users.

  Key definitions include:
    * `Dashboard.LoginReply`
    * `Dashboard.Client.login`
    * `Dashboard.Client.identityLogin`
    * `Dashboard.Client.verify`
    * `Dashboard.Client.workspaces`
    * `Dashboard.Client.users`
    * `Dashboard.Client.passwordToken`
    * `Dashboard.Client.identityToken`
-/

namespace WorkspaceClient
namespace Dashboard

------------------------------------------------------------
-- Documents
------------------------------------------------------------

/- The answer to a login: a user name and a request. -/
structure LoginAnswer where
  user : String
  wantsNewPassword : Bool
  deriving DecidableEq, Repr

/- How the answer to a password login is read. -/
def loginShape : Json.Shape LoginAnswer where
  title := "LoginResponse"
  initial := { user := "", wantsNewPassword := false }
  fields :=
    [ .of "userName" .string fun a s => { a with user := s },
      .of "requirePasswordUpdate" .bool fun a b =>
        { a with wantsNewPassword := b } ]

/- How the answer to an identity login is read. -/
def identityShape : Json.Shape String where
  title := "ServiceAccountLoginResponse"
  initial := ""
  fields := [.of "userName" .string fun _ s => s]

/- The user of a session and the end of the session. -/
structure Verification where
  user : String
  expireAt : Option String
  deriving DecidableEq, Repr

/- How the answer to a check is read. -/
def verifyShape : Json.Shape Verification where
  title := "VerifyResponse"
  initial := { user := "", expireAt := none }
  fields :=
    [ .of "userName" .string fun a s => { a with user := s },
      .of "expireAt" (.optional .string) fun a s =>
        { a with expireAt := s } ]

/- How an answer with rows is read. -/
def itemsShape
    {α : Type}
    (row : Json.Shape α) : Json.Shape (List α) where
  title := "ItemsResponse"
  initial := []
  fields := [.of "items" (.list row.decode) fun _ rows => rows]

/- The document without members. -/
def emptyDocument : Json :=
  .ofMembers []

------------------------------------------------------------
-- Logging in
------------------------------------------------------------

/- The cookie of a new session and its user. -/
structure LoginReply where
  cookie : String
  user : String
  deriving DecidableEq, Repr

/- The reply of a login that set these cookies. -/
def LoginReply.ofCookies
    (procedure : Procedure)
    (cookies : List String)
    (user : String) : Except Failure LoginReply :=
  match Credential.sessionCookie cookies with
  | some cookie => .ok { cookie, user }
  | none =>
      .error (.protocol
        (procedure.path
          ++ ": response carries no session cookie"))

namespace Client

/-
  Log in with a user name and a password. If the answer
  names no user, the name stays as it was given.
-/
def login
    (client : Client)
    (user password : String) :
    Task Network LoginReply := do
  let document := Json.ofMembers
    [("userName", .ofText user),
      ("password", .ofText password)]
  let (answer, cookies) ←
    client.call .login document loginShape.decode
  .ofExcept (LoginReply.ofCookies .login cookies
    (if answer.user.isEmpty then user else answer.user))

/- Log in with an identity token of the platform. -/
def identityLogin
    (client : Client)
    (identity : String) :
    Task Network LoginReply := do
  let document := Json.ofMembers
    [("token", .ofText identity)]
  let (user, cookies) ←
    client.call .serviceAccountLogin document
      identityShape.decode
  if user.isEmpty then
    .fail (.protocol
      (Procedure.serviceAccountLogin.path
        ++ ": response carries no user name"))
  else
    .ofExcept (LoginReply.ofCookies .serviceAccountLogin
      cookies user)

/- Log in with a password, for a token. -/
def passwordToken
    (client : Client)
    (user password : String) : Task Network String := do
  if user.isEmpty then
    .fail (.validation "user name must not be empty")
  else if password.isEmpty then
    .fail (.validation "password must not be empty")
  else
    let reply ← client.login user password
    return Credential.encodeToken reply.cookie

/-
  Log in with the identity token in the file at a path, for
  a token and the user that the identity belongs to.
-/
def identityToken
    (client : Client)
    (fs : Files)
    (path : String) : Task Network (String × String) := do
  let identity ← .ofExcept (Credential.readIdentity fs path)
  let reply ← client.identityLogin identity
  return (Credential.encodeToken reply.cookie, reply.user)

------------------------------------------------------------
-- Sessions and lists
------------------------------------------------------------

/- Check that the session is still accepted. -/
def verify
    (client : Client) : Task Network Verification := do
  return (← client.call .verify emptyDocument
    verifyShape.decode).1

/- The workspaces of a user. -/
def workspaces
    (client : Client)
    (user : String) : Task Network (List Workspace) := do
  let document := Json.ofMembers [("userName", .ofText user)]
  return (← client.call .getWorkspaces document
    (itemsShape Workspace.shape).decode).1

/- All users. -/
def users
    (client : Client) : Task Network (List User) := do
  return (← client.call .getUsers emptyDocument
    (itemsShape User.shape).decode).1

end Client
end Dashboard
end WorkspaceClient
