import WorkspaceClient.Dashboard.Calls

/-
  This file defines how a session of the platform itself is
  established and checked: by an authority that is fetched,
  a login that trusts only this authority, and a check of
  the token that the login gave.

  Key definitions include:
    * `Platform.Login`
    * `Platform.Auth`
    * `Platform.Call`
    * `Platform.noting`
    * `Platform.Auth.recorded`
    * `Platform.Auth.ofDashboard`
-/

namespace WorkspaceClient
namespace Platform

------------------------------------------------------------
-- Authentication
------------------------------------------------------------

/- The token and the user that a login gives. -/
structure Login where
  token : String
  user : String
  deriving DecidableEq, Repr

/-
  The three operations that a platform session needs. They
  may change a state of their own.
-/
structure Auth (σ : Type) where
  bootstrap : Task σ Bytes
  login : String → Bytes → Task σ Login
  verify : String → Bytes → String → Task σ Unit

------------------------------------------------------------
-- Records
------------------------------------------------------------

/- A call of one of the operations, with its arguments. -/
inductive Call where
  | bootstrap
  | login (endpoint : String) (ca : Bytes)
  | verify (endpoint : String) (ca : Bytes) (token : String)
  deriving DecidableEq, Repr

/- A task with a note of how it ended. -/
def noting
    {σ α ν : Type}
    (note : Except Failure α → ν)
    (t : Task σ α) : Task (σ × List ν) α :=
  fun (s, notes) =>
    match t s with
    | (result, s') => (result, s', notes ++ [note result])

/- The operations, with a record of all calls. -/
def Auth.recorded
    {σ : Type}
    (auth : Auth σ) : Auth (σ × List Call) where
  bootstrap :=
    noting (fun _ => .bootstrap) auth.bootstrap
  login := fun endpoint ca =>
    noting (fun _ => .login endpoint ca)
      (auth.login endpoint ca)
  verify := fun endpoint ca token =>
    noting (fun _ => .verify endpoint ca token)
      (auth.verify endpoint ca token)

------------------------------------------------------------
-- Dashboard
------------------------------------------------------------

/-
  The operations of the Dashboard. The authority is fetched
  from the URL, and the identity token is read from the file
  at the path.
-/
def Auth.ofDashboard
    (bootstrapUrl : String)
    (fs : Files)
    (identityPath : String) : Auth Network where
  bootstrap := Trust.fetchCa bootstrapUrl
  login := fun endpoint ca => do
    let client ←
      .ofExcept (Dashboard.Client.create (.only ca) endpoint)
    let (token, user) ← client.identityToken fs identityPath
    return { token, user }
  verify := fun endpoint ca token => do
    let client ←
      .ofExcept (Dashboard.Client.create (.only ca) endpoint)
    let client ← .ofExcept (client.withToken token)
    let _ ← client.verify
    return ()

end Platform
end WorkspaceClient
