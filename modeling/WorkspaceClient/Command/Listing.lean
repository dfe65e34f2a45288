import WorkspaceClient.Backend
import WorkspaceClient.Output.Table

/-
  This file defines the listing of workspaces and of users
  from a catalog.

  Key definitions include:
    * `Listing.parseFilters`
    * `Listing.checkFilters`
    * `Listing.owner`
    * `Listing.workspaces`
    * `Listing.users`
    * `Listing.selectWorkspaces`
    * `Listing.selectUsers`
-/

namespace WorkspaceClient
namespace Listing

------------------------------------------------------------
-- Arguments
------------------------------------------------------------

/- The filters that several expressions write. -/
def parseFilters
    (expressions : List String) :
    Except Failure (List Filter) :=
  match Filter.parseAll expressions with
  | .ok filters => .ok filters
  | .error refusal => .error (.filter refusal)

/- Refuse malformed expressions. -/
def checkFilters
    (expressions : List String) : Except Failure Unit :=
  discard (parseFilters expressions)

/-
  The user whose workspaces are listed: the one that is
  named, or else the user of the session.
-/
def owner
    (named current : Option String) :
    Except Failure String :=
  match named.filter (!·.isEmpty), current with
  | some user, _ => .ok user
  | none, some user => .ok user
  | none, none =>
      .error (.validation
        "--user is required when no session user is known")

------------------------------------------------------------
-- Lists
------------------------------------------------------------

/- The workspaces of a user that all filters keep. -/
def workspaces
    {σ : Type}
    (catalog : Catalog σ)
    (user : Option String)
    (filters : List Filter) :
    Task σ (List Workspace × List Warning) := do
  let user ← .ofExcept (owner user catalog.currentUser)
  let rows ← catalog.workspaces user
  return Workspace.columns.filterAll rows filters

/- The users that all filters keep. -/
def users
    {σ : Type}
    (catalog : Catalog σ)
    (filters : List Filter) :
    Task σ (List User × List Warning) := do
  let rows ← catalog.users
  return User.columns.filterAll rows filters

/- The workspaces of a user that all expressions select. -/
def selectWorkspaces
    {σ : Type}
    (catalog : Catalog σ)
    (user : Option String)
    (expressions : List String) :
    Task σ (List Workspace × List Warning) := do
  let filters ← .ofExcept (parseFilters expressions)
  workspaces catalog user filters

/- The users that all expressions select. -/
def selectUsers
    {σ : Type}
    (catalog : Catalog σ)
    (expressions : List String) :
    Task σ (List User × List Warning) := do
  let filters ← .ofExcept (parseFilters expressions)
  users catalog filters

end Listing
end WorkspaceClient
