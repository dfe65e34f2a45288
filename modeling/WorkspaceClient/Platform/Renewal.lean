import WorkspaceClient.Platform.Auth

/-
  This file defines how a session of the platform is made
  valid before it is used.

  A session without a readable authority is established from
  nothing. Any other one is checked, and if it is refused it
  is established once more. The session is saved whenever it
  has changed.

  Key definitions include:
    * `Platform.Outcome`
    * `Platform.State`
    * `Platform.saveBy`
    * `Platform.establish`
    * `Platform.ensureValidBy`
    * `Platform.ensureValid`
-/

namespace WorkspaceClient
namespace Platform

------------------------------------------------------------
-- States
------------------------------------------------------------

/-
  How a valid session came about: it was accepted as it was,
  it was established from nothing, or it was established
  again.
-/
inductive Outcome where
  | verified
  | bootstrapped
  | reauthenticated
  deriving DecidableEq, Repr

/-
  What making a session valid works on: the session, the
  files, the warnings so far, and the state of the
  authentication.
-/
structure State (σ : Type) where
  session : Session
  files : Files
  warnings : List Warning
  auth : σ

variable {σ α : Type}

/- An operation of the authentication. -/
def onAuth
    (t : Task σ α) : Task (State σ) α :=
  Task.within State.auth (fun s a => { s with auth := a }) t

/- Give a warning. -/
def warn
    (warning : Warning) : Task (State σ) Unit :=
  Task.modify fun s =>
    { s with warnings := s.warnings ++ [warning] }

/- Keep the session in the file at a path, in some way. -/
def saveBy
    (keeper : SessionFile.Keeper)
    (path : String) : Task (State σ) Unit :=
  fun s =>
    match keeper path s.session s.files with
    | (.ok (), files) => (.ok (), { s with files })
    | (.error fault, files) =>
        (.error (.sessionFile fault), { s with files })

/- Save the session in the file at a path. -/
def save
    (path : String) : Task (State σ) Unit :=
  saveBy SessionFile.save path

------------------------------------------------------------
-- Steps
------------------------------------------------------------

/- The session that a login with an authority has given. -/
def renewed
    (session : Session)
    (ca : Bytes)
    (login : Login) : Session :=
  { session.withCa ca with
    token := login.token
    user := login.user
    isPlatform := true }

/-
  Fetch the authority and log in. The session changes only
  when both have succeeded.
-/
def establish
    (auth : Auth σ) : Task (State σ) Bytes := do
  let ca ← onAuth auth.bootstrap
  let s ← Task.get
  let login ← onAuth (auth.login s.session.endpoint ca)
  Task.modify fun s =>
    { s with session := renewed s.session ca login }
  return ca

/- Check the session with an authority. -/
def check
    (auth : Auth σ)
    (ca : Bytes) : Task (State σ) Unit := do
  let s ← Task.get
  onAuth (auth.verify s.session.endpoint ca s.session.token)

/-
  The cached authority, if it can be read. It is warned of
  one that cannot.
-/
def cachedCa : Task (State σ) (Option Bytes) := do
  let s ← Task.get
  match s.session.caBytes with
  | .ok ca => return ca
  | .error fault =>
      warn (.unreadableCa
        (SessionFile.Fault.unreadableCa fault.message).message)
      return none

/- The failure of a second login. -/
def reloginFailed
    (failure : Failure) : Failure :=
  .auth ("re-authentication failed: " ++ failure.message)

/- The failure of a check after a second login. -/
def rejectedAgain
    (failure : Failure) : Failure :=
  .auth ("session rejected after re-authentication: "
    ++ failure.message)

/- The failure of a command that knows no Dashboard. -/
def noEndpoint : Failure :=
  .validation
    ("no dashboard endpoint: "
      ++ "set --dashboard-url or BURROW_DASHBOARD_URL")

------------------------------------------------------------
-- Validity
------------------------------------------------------------

/- Establish a session, check it, and keep it. -/
def bootstrapSession
    (auth : Auth σ)
    (keep : Task (State σ) Unit) : Task (State σ) Outcome := do
  let ca ← establish auth
  check auth ca
  keep
  return .bootstrapped

/- Establish a refused session again, keep it, and check it. -/
def renewSession
    (auth : Auth σ)
    (keep : Task (State σ) Unit) : Task (State σ) Outcome := do
  let ca ← (establish auth).mapFailure reloginFailed
  keep
  (check auth ca).mapFailure rejectedAgain
  return .reauthenticated

/-
  Make the session valid, at the endpoint that it names. A
  session that has changed is kept by a task.
-/
def ensureValidBy
    (auth : Auth σ)
    (keep : Task (State σ) Unit) : Task (State σ) Outcome := do
  let s ← Task.get
  if s.session.endpoint.isEmpty then
    .fail noEndpoint
  else
    match ← cachedCa with
    | none => bootstrapSession auth keep
    | some ca =>
        match ← (check auth ca).attempt with
        | .ok () => return .verified
        | .error failure =>
            warn (.sessionRejected failure.message)
            renewSession auth keep

/- Make the session valid, and save it when it has changed. -/
def ensureValid
    (auth : Auth σ)
    (path : String) : Task (State σ) Outcome :=
  ensureValidBy auth (save path)

end Platform
end WorkspaceClient
