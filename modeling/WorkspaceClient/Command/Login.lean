import WorkspaceClient.Output.Report
import WorkspaceClient.Route

/-
  This file defines the login of a person: where the
  password comes from, which authority is trusted, and the
  session that is kept.

  Key definitions include:
    * `Login.Arguments`
    * `Login.readPassword`
    * `Login.authority`
    * `Login.session`
    * `Login.runBy`
    * `Login.run`
-/

namespace WorkspaceClient
namespace Login

------------------------------------------------------------
-- Passwords
------------------------------------------------------------

/-
  The user, where the password comes from, and the file with
  the authority of the Dashboard.
-/
structure Arguments where
  user : String
  fromInput : Bool
  password : Option String
  caFile : Option String
  deriving DecidableEq, Repr

/- The first line of the input with its end, and the rest. -/
def splitLine
    (input : Bytes) : Bytes × Bytes :=
  let line := input.takeWhile (· != 0x0A)
  match input.dropWhile (· != 0x0A) with
  | [] => (line, [])
  | b :: rest => (line ++ [b], rest)

/- A line without its end. -/
def trimEnd
    (line : String) : String :=
  String.ofList
    (line.toList.reverse.dropWhile fun c =>
      c == '\r' || c == '\n').reverse

/- A password that is not empty. -/
def checkPassword
    (password : String) : Except Failure String :=
  if password.isEmpty then
    .error (.validation "password must not be empty")
  else
    .ok password

/-
  The password, from the first line of the input or from the
  arguments, and the input that is left.
-/
def readPassword
    (a : Arguments)
    (input : Bytes) : Except Failure String × Bytes :=
  if a.fromInput then
    let (line, rest) := splitLine input
    match Bytes.toText? line with
    | some text => (checkPassword (trimEnd text), rest)
    | none =>
        (.error (.output Files.Fault.notText.message), rest)
  else
    match a.password with
    | some password => (checkPassword password, input)
    | none =>
        (.error (.validation
          ("no password given: use --password-stdin "
            ++ "or set BURROW_PASSWORD")), input)

------------------------------------------------------------
-- Sessions
------------------------------------------------------------

/-
  The authority that is trusted beside those of the system:
  that of the file, or else the one that is cached for the
  same endpoint.
-/
def authority
    (a : Arguments)
    (fs : Files)
    (existing : Session)
    (url : String) : Except Failure (Option Bytes) :=
  match a.caFile with
  | some path =>
      match fs.read (Path.ofText path) with
      | .ok pem => .ok (some pem)
      | .error fault =>
          .error (.validation
            ("cannot read CA certificate " ++ path ++ ": "
              ++ fault.message))
  | none =>
      if existing.endpoint = url then
        Route.cachedCa existing
      else
        .ok none

/- The session that a login gives. -/
def session
    (a : Arguments)
    (url token : String)
    (ca : Option Bytes) : Session :=
  let s : Session :=
    { Session.empty with
      endpoint := url
      token
      user := a.user }
  match ca with
  | some pem => s.withCa pem
  | none => s

------------------------------------------------------------
-- Command
------------------------------------------------------------

/- The failure of a login that is not needed. -/
def notNeeded : Failure :=
  .validation
    ("login is not needed with --direct: "
      ++ "the kubeconfig carries the credentials")

/- Log in and keep the session in some way. -/
def runBy
    (keeper : SessionFile.Keeper)
    (c : Connection)
    (home : Option String)
    (a : Arguments)
    (input : Bytes) : Task World Report := do
  if c.direct then
    .fail notNeeded
  else
    let password ← .ofExcept (readPassword a input).1
    let path ← .ofExcept (c.storePath home)
    let existing ← World.load path
    match Route.endpoint c.explicitUrl existing c.location with
    | none => .fail Platform.noEndpoint
    | some url => do
        let w ← Task.get
        let ca ← .ofExcept (authority a w.files existing url)
        let client ← .ofExcept
          (Dashboard.Client.create (Route.rootsWith ca) url)
        let token ← World.online
          (client.passwordToken a.user password)
        World.saveBy keeper path (session a url token ca)
        return .ofMessage
          ("logged in as " ++ a.user ++ " to " ++ url)

/- Log in and save the session. -/
def run
    (c : Connection)
    (home : Option String)
    (a : Arguments)
    (input : Bytes) : Task World Report :=
  runBy SessionFile.save c home a input

end Login
end WorkspaceClient
