import WorkspaceClient.Command.Basic
import WorkspaceClient.Proofs.Dashboard

/-
  This file shows what a list command does when its backend
  is the Dashboard: it sends one request for what it asks,
  and it does nothing at all if a filter is malformed.

  Key definitions include:
    * `Listing.isListing`
    * `Listing.expressionsOf`
    * `Listing.Asks`

  Main declarations:
    * `Command.list_eq`
    * `Command.list_malformed`
    * `Listing.workspaces_unowned`
    * `Listing.workspaces_state`
    * `Listing.users_state`
    * `Listing.network_of_online`
    * `Listing.sends_of_asks`
    * `Listing.refuses_of_asks`
-/

namespace WorkspaceClient

------------------------------------------------------------
-- Filters
------------------------------------------------------------

namespace Listing

section

variable {σ : Type}
variable {expressions : List String}
variable {filters : List Filter}

theorem checkFilters_ok
    (h : parseFilters expressions = .ok filters) :
    checkFilters expressions = .ok () := by
  rw [checkFilters, h]
  rfl

theorem checkFilters_error
    {failure : Failure}
    (h : parseFilters expressions = .error failure) :
    checkFilters expressions = .error failure := by
  rw [checkFilters, h]
  rfl

/- Filters that were checked are read once more. -/
theorem selectWorkspaces_eq
    (h : parseFilters expressions = .ok filters)
    (catalog : Catalog σ)
    (user : Option String) :
    selectWorkspaces catalog user expressions =
      workspaces catalog user filters := by
  rw [selectWorkspaces, h]
  rfl

theorem selectUsers_eq
    (h : parseFilters expressions = .ok filters)
    (catalog : Catalog σ) :
    selectUsers catalog expressions =
      users catalog filters := by
  rw [selectUsers, h]
  rfl

end

end Listing

namespace Command

section

variable {α : Type}
variable {expressions : List String}
variable (keeper : SessionFile.Keeper)
variable (c : Connection)
variable (home : Option String)
variable (rows : Backend → Task Network (List α × List Warning))
variable (report : List α → Report)

/- With well-formed filters, the backend is chosen at first. -/
theorem list_eq
    {filters : List Filter}
    (h : Listing.parseFilters expressions = .ok filters) :
    list keeper c home expressions rows report =
      (Route.selectBy keeper c home >>= fun backend =>
        World.online (rows backend) >>=
          fun (rows, warnings) => do
            World.warnAll warnings
            return report rows) := by
  rw [list, Listing.checkFilters_ok h]
  rfl

/- A malformed filter is refused before anything is done. -/
theorem list_malformed
    {failure : Failure}
    (h : Listing.parseFilters expressions = .error failure)
    (w : World) :
    list keeper c home expressions rows report w =
      (.error failure, w) := by
  rw [list, Listing.checkFilters_error h]
  rfl

end

end Command

------------------------------------------------------------
-- List commands
------------------------------------------------------------

namespace Listing

/- Whether a command lists workspaces or users. -/
def isListing : Command → Bool
  | .listWorkspaces _ _ => true
  | .listUsers _ => true
  | _ => false

/- The filter expressions of a list command. -/
def expressionsOf : Command → List String
  | .listWorkspaces _ expressions => expressions
  | .listUsers expressions => expressions
  | _ => []

/-
  What a list command asks the Dashboard for in the session
  of a user: workspaces of this user if no other is named,
  or all users. The command has these filters.
-/
inductive Asks
    (user : String) :
    Command → List String → Dashboard.Procedure → Json → Prop
    where
  | workspaces
      (named : Option String)
      (expressions : List String) :
      Asks user (.listWorkspaces named expressions) expressions
        .getWorkspaces
        (.ofMembers
          [("userName",
            .ofText ((Connection.given named).getD user))])
  | users
      (expressions : List String) :
      Asks user (.listUsers expressions) expressions .getUsers
        Dashboard.emptyDocument

/- The failure of a list of workspaces without an owner. -/
def ownerUnknown : Failure :=
  .validation
    "--user is required when no session user is known"

theorem owner_unknown
    {named : Option String}
    (hNamed : Connection.given named = none) :
    owner named none = .error ownerUnknown := by
  unfold owner
  rw [Connection.given] at hNamed
  rw [hNamed]
  rfl

/- The user of the session is used if no other is named. -/
theorem owner_known
    {named current : Option String}
    (h : ¬ (Connection.given named = none ∧ current = none)) :
    owner named current =
      .ok ((Connection.given named).getD
        (current.getD "")) := by
  unfold Connection.given at h ⊢
  unfold owner
  cases hNamed : named.filter fun s => !s.isEmpty with
  | some user => rfl
  | none =>
      cases current with
      | some user => rfl
      | none => exact absurd ⟨hNamed, rfl⟩ h

theorem currentUser_facade
    (client : Dashboard.Client)
    (user : String) :
    (Backend.facade client user).currentUser.getD "" =
      user := by
  simp only [Backend.currentUser]
  split
  · next hEmpty => simpa using hEmpty.symm
  · rfl

theorem currentUser_eq_none_iff
    {client : Dashboard.Client}
    {user : String} :
    (Backend.facade client user).currentUser = none ↔
      user = "" := by
  simp [Backend.currentUser]

theorem owner_eq
    {user : String}
    (named : Option String)
    (client : Dashboard.Client)
    (hUser : user ≠ "") :
    owner named (Backend.facade client user).currentUser =
      .ok ((Connection.given named).getD user) := by
  rw [owner_known, currentUser_facade]
  rintro ⟨_, hNone⟩
  exact hUser (currentUser_eq_none_iff.mp hNone)

/- Without an owner, no workspaces are asked for. -/
theorem workspaces_unowned
    {b : Backend}
    {named : Option String}
    {failure : Failure}
    (hOwner : owner named b.currentUser = .error failure)
    (filters : List Filter)
    (n : Network) :
    workspaces b.catalog named filters n =
      (.error failure, n) := by
  have hUnknown :
      Task.ofExcept (owner named b.catalog.currentUser) n =
        (.error failure, n) := by
    rw [Task.ofExcept_eq]
    exact congrArg (·, n) hOwner
  exact Task.bind_error hUnknown

/- With an owner, the workspaces of the owner are filtered. -/
theorem workspaces_owned
    {b : Backend}
    {named : Option String}
    {of : String}
    (hOwner : owner named b.currentUser = .ok of)
    (filters : List Filter) :
    workspaces b.catalog named filters =
      (b.workspaces of >>= fun rows =>
        pure (Workspace.columns.filterAll rows filters)) := by
  change
    (Task.ofExcept (owner named b.currentUser) >>= _) = _
  rw [hOwner]
  rfl

/- Workspaces are listed with one call for their owner. -/
theorem workspaces_state
    {client : Dashboard.Client}
    {user : String}
    {named : Option String}
    {of : String}
    (hOwner :
      owner named (Backend.facade client user).currentUser =
        .ok of)
    (filters : List Filter)
    (n : Network) :
    (workspaces (Backend.facade client user).catalog named
        filters n).2 =
      (client.call .getWorkspaces
        (.ofMembers [("userName", .ofText of)])
        (Dashboard.itemsShape Workspace.shape).decode n).2 := by
  rw [workspaces_owned hOwner, Task.bind_state fun _ _ => rfl]
  change
    (Task.mapFailure Failure.classify
      (client.workspaces of) n).2 = _
  rw [Task.mapFailure_state]
  exact client.workspaces_state of n

/- So are users, who have no owner. -/
theorem users_state
    (client : Dashboard.Client)
    (user : String)
    (filters : List Filter)
    (n : Network) :
    (users (Backend.facade client user).catalog filters n).2 =
      (client.call .getUsers Dashboard.emptyDocument
        (Dashboard.itemsShape User.shape).decode n).2 := by
  unfold users
  rw [Task.bind_state fun _ _ => rfl]
  change
    (Task.mapFailure Failure.classify client.users n).2 = _
  rw [Task.mapFailure_state]
  exact client.users_state n

------------------------------------------------------------
-- Reports
------------------------------------------------------------

section

variable {α : Type}
variable (t : Task Network (List α × List Warning))
variable (report : List α → Report)
variable (w : World)

/- Listing rows and reporting them only changes the network. -/
theorem files_of_online :
    ((World.online t >>= fun (rows, warnings) => do
        World.warnAll warnings
        return report rows) w).2.files =
      w.files := by
  have hOnline : (World.online t w).2.files = w.files := rfl
  exact
    Task.bind_keeps
      (P := fun w' : World => w'.files = w.files)
      hOnline fun _ _ hSame => hSame

/- The network after rows were listed and reported. -/
theorem network_of_online :
    ((World.online t >>= fun (rows, warnings) => do
        World.warnAll warnings
        return report rows) w).2.network =
      (t w.network).2 := by
  have hOnline :
      (World.online t w).2.network = (t w.network).2 := rfl
  exact
    Task.bind_keeps
      (P := fun w' : World => w'.network = (t w.network).2)
      hOnline fun _ _ hSame => hSame

end

/- Rows that are listed over the network and then reported. -/
theorem sends_of_online
    {α : Type}
    {t : Task Network (List α × List Warning)}
    {w : World}
    {q : Http.Request}
    (report : List α → Report)
    (h : (t w.network).2 = w.network.after q) :
    World.Sends w
      ((World.online t >>= fun (rows, warnings) => do
        World.warnAll warnings
        return report rows) w).2 q where
  network := (network_of_online t report w).trans h
  files := files_of_online t report w

/-
  A list command with a Dashboard as its backend sends one
  request, the one for what it asks.
-/
theorem sends_of_asks
    {c : Connection}
    {home : Option String}
    {w : World}
    {client : Dashboard.Client}
    {user : String}
    {command : Command}
    {expressions : List String}
    {procedure : Dashboard.Procedure}
    {document : Json}
    {filters : List Filter}
    {q : Http.Request}
    (hSelect :
      Route.select c home w = (.ok (.facade client user), w))
    (hUser : user ≠ "")
    (hAsks : Asks user command expressions procedure document)
    (hFilters : parseFilters expressions = .ok filters)
    (hRequest : client.request? procedure document = some q)
    (format : Format)
    (input : Bytes) :
    World.Sends w
      (Invocation.run { format, connection := c, command } home
        input w).2 q := by
  change
    Route.selectBy SessionFile.save c home w = _ at hSelect
  unfold Invocation.run Invocation.runBy
  rw [Task.bind_state fun _ _ => rfl]
  cases hAsks with
  | workspaces named =>
      simp only [Command.report]
      rw [Command.list_eq _ _ _ _ _ hFilters,
        Task.bind_ok hSelect, selectWorkspaces_eq hFilters]
      have hState :=
        workspaces_state (owner_eq named client hUser) filters
          w.network
      rw [Dashboard.Client.call_state hRequest] at hState
      exact sends_of_online Workspace.report hState
  | users =>
      simp only [Command.report]
      rw [Command.list_eq _ _ _ _ _ hFilters,
        Task.bind_ok hSelect, selectUsers_eq hFilters]
      have hState := users_state client user filters w.network
      rw [Dashboard.Client.call_state hRequest] at hState
      exact sends_of_online User.report hState

/- A list command with a malformed filter does nothing. -/
theorem refuses_of_asks
    {user : String}
    {command : Command}
    {expressions : List String}
    {procedure : Dashboard.Procedure}
    {document : Json}
    {failure : Failure}
    (hAsks : Asks user command expressions procedure document)
    (hFilters : parseFilters expressions = .error failure)
    (format : Format)
    (c : Connection)
    (home : Option String)
    (input : Bytes)
    (w : World) :
    Invocation.run { format, connection := c, command } home
        input w =
      (.error failure, w) := by
  unfold Invocation.run Invocation.runBy
  cases hAsks with
  | workspaces named =>
      exact
        Task.bind_error
          (Command.list_malformed _ _ _ _ _ hFilters w)
  | users =>
      exact
        Task.bind_error
          (Command.list_malformed _ _ _ _ _ hFilters w)

end Listing
end WorkspaceClient
