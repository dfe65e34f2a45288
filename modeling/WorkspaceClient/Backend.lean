import WorkspaceClient.Cluster.Client
import WorkspaceClient.Dashboard.Calls

/-
  This file defines what the list commands need, and the two
  backends that offer it: the API of the cluster, and the
  Dashboard with a session.

  Key definitions include:
    * `Catalog`
    * `Backend`
    * `Backend.catalog`
    * `Backend.shown`
-/

namespace WorkspaceClient

------------------------------------------------------------
-- Catalogs
------------------------------------------------------------

/-
  Where workspaces and users are listed, and the user that
  the session belongs to, if there is one.
-/
structure Catalog (σ : Type) where
  workspaces : String → Task σ (List Workspace)
  users : Task σ (List User)
  currentUser : Option String

------------------------------------------------------------
-- Backends
------------------------------------------------------------

/- The API of the cluster, or the Dashboard with a session. -/
inductive Backend where
  | direct (client : Cluster.Client)
  | facade (client : Dashboard.Client) (user : String)
  deriving DecidableEq, Repr

namespace Backend

/- Whether a backend is the API of the cluster. -/
def isDirect : Backend → Bool
  | direct _ => true
  | facade _ _ => false

/- The URL of the server behind a backend. -/
def server : Backend → String
  | direct client => client.server
  | facade client _ => client.base.text

/- The user of the session, if there is one. -/
def currentUser : Backend → Option String
  | direct _ => none
  | facade _ user => if user.isEmpty then none else some user

/- The workspaces of a user. -/
def workspaces
    (user : String) :
    Backend → Task Network (List Workspace)
  | direct client => client.workspaces user
  | facade client _ =>
      (client.workspaces user).mapFailure Failure.classify

/- All users. -/
def users : Backend → Task Network (List User)
  | direct client => client.users
  | facade client _ =>
      client.users.mapFailure Failure.classify

/- The lists that a backend offers. -/
def catalog
    (b : Backend) : Catalog Network where
  workspaces := fun user => b.workspaces user
  users := b.users
  currentUser := b.currentUser

/- A backend as it is shown, without its credentials. -/
def shown : Backend → String
  | direct client => "Direct(" ++ client.shown ++ ")"
  | facade client user =>
      "Facade \x7b client: " ++ client.shown ++ ", user: "
        ++ Text.quoted user ++ " \x7d"

end Backend
end WorkspaceClient
