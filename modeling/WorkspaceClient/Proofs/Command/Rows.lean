import WorkspaceClient.Proofs.Command.Listing
import WorkspaceClient.Proofs.Dashboard.Requests
import WorkspaceClient.Proofs.Late

/-
  This file shows what a list command does after it has
  chosen its backend: it appends requests to the network, it
  leaves the files as they are, and it can only fail before
  its first request if nobody owns the workspaces.

  Key definitions include:
    * `Listing.Unowned`
    * `Listing.Asked`
    * `Listing.ReadsRows`
    * `Listing.ListRun`

  Main declarations:
    * `Cluster.Client.items_state`
    * `Listing.readsRows_workspaces`
    * `Listing.readsRows_users`
    * `Listing.listRun_runBy`
    * `Listing.ListRun.exists_readsRows`
-/

namespace WorkspaceClient

open Failure (IsLate)

variable {α : Type}

------------------------------------------------------------
-- Lists of a cluster
------------------------------------------------------------

namespace Cluster.Client

variable (c : Client)
variable (n : Network)

/- The request for objects is sent if its target is allowed. -/
theorem items_state
    (path what : String) :
    (c.items path what n).2 =
      n.afterAll (c.request? path).toList := by
  unfold items
  cases c.request? path with
  | none => exact n.afterAll_nil.symm
  | some q =>
      simp only
      rw [Task.bind_ok (n.send_eq q), Task.ofExcept_eq]
      rfl

theorem workspaces_state
    (user : String) :
    (c.workspaces user n).2 =
      n.afterAll (c.request? (workspacesPath user)).toList := by
  unfold workspaces
  rw [Task.bind_state fun _ _ => by rw [Task.ofExcept_eq],
    items_state]

theorem users_state :
    (c.users n).2 =
      n.afterAll (c.request? usersPath).toList := by
  unfold users
  rw [Task.bind_state fun _ _ => by rw [Task.ofExcept_eq],
    items_state]

end Cluster.Client

------------------------------------------------------------
-- Rows of a backend
------------------------------------------------------------

namespace Listing

open Dashboard (Calls)

/- A command lists workspaces, and their owner is not known. -/
def Unowned
    (b : Backend) : Command → Prop
  | .listWorkspaces named _ =>
      Connection.given named = none ∧ b.currentUser = none
  | _ => False

/-
  The requests of a list command to the Dashboard: none, or
  the one for what it asks.
-/
inductive Asked
    (client : Dashboard.Client)
    (user : String)
    (command : Command) : List Http.Request → Prop where
  | nothing : Asked client user command []
  | once
      {procedure : Dashboard.Procedure}
      {document : Json}
      {q : Http.Request}
      (hAsks :
        Asks user command (expressionsOf command) procedure
          document)
      (hCalls : Calls client procedure document q) :
      Asked client user command [q]

/-
  How rows are read from a backend: the requests, and the
  failures that are possible.
-/
structure ReadsRows
    (b : Backend)
    (command : Command)
    (requests : List Http.Request)
    (result : Except Failure α) : Prop where
  unowned :
    Unowned b command →
      requests = [] ∧ result = .error ownerUnknown
  late : ¬ Unowned b command → FailsOnly IsLate result
  asked :
    ∀ client user,
      b = .facade client user →
        Asked client user command requests

/- What is asked with one call is asked, or nothing is. -/
theorem asked_call
    {client : Dashboard.Client}
    {user : String}
    {command : Command}
    {procedure : Dashboard.Procedure}
    {document : Json}
    (hAsks :
      Asks user command (expressionsOf command) procedure
        document)
    (d : Json.Decoder α)
    (n : Network) :
    ∃ requests,
      (client.call procedure document d n).2 =
          n.afterAll requests ∧
        Asked client user command requests := by
  rcases client.call_sends procedure document d n with
    hNothing | ⟨q, hCalls, hSent⟩
  · exact ⟨[], by rw [hNothing, Network.afterAll_nil], .nothing⟩
  · exact ⟨[q], hSent, .once hAsks hCalls⟩

theorem asked_workspaces
    {b : Backend}
    {named : Option String}
    (expressions : List String)
    (n : Network) :
    ∃ requests,
      (b.workspaces
          ((Connection.given named).getD
            (b.currentUser.getD "")) n).2 =
        n.afterAll requests ∧
        ∀ client user,
          b = .facade client user →
            Asked client user (.listWorkspaces named expressions)
              requests := by
  cases b with
  | direct client =>
      refine ⟨_, client.workspaces_state n _, ?_⟩
      rintro _ _ ⟨⟩
  | facade client user =>
      have hState :=
        (Task.mapFailure_state Failure.classify _ n).trans
          (client.workspaces_state
            ((Connection.given named).getD user) n)
      rcases asked_call (.workspaces named expressions) _ n with
        ⟨requests, hSent, hAsked⟩
      rw [currentUser_facade]
      refine ⟨requests, hState.trans hSent, ?_⟩
      rintro _ _ ⟨⟩
      exact hAsked

theorem asked_users
    (b : Backend)
    (expressions : List String)
    (n : Network) :
    ∃ requests,
      (b.users n).2 = n.afterAll requests ∧
        ∀ client user,
          b = .facade client user →
            Asked client user (.listUsers expressions)
              requests := by
  cases b with
  | direct client =>
      refine ⟨_, client.users_state n, ?_⟩
      rintro _ _ ⟨⟩
  | facade client user =>
      have hState :=
        (Task.mapFailure_state Failure.classify _ n).trans
          (client.users_state n)
      rcases asked_call (.users expressions) _ n with
        ⟨requests, hSent, hAsked⟩
      refine ⟨requests, hState.trans hSent, ?_⟩
      rintro _ _ ⟨⟩
      exact hAsked

theorem readsRows_workspaces
    (b : Backend)
    (named : Option String)
    (expressions : List String)
    (filters : List Filter)
    (n : Network) :
    ∃ requests,
      (workspaces b.catalog named filters n).2 =
          n.afterAll requests ∧
        ReadsRows b (.listWorkspaces named expressions)
          requests
          (workspaces b.catalog named filters n).1 := by
  by_cases hUnowned :
      Unowned b (.listWorkspaces named expressions)
  · have hOwner :=
      (congrArg (owner named) hUnowned.2).trans
        (owner_unknown hUnowned.1)
    rw [workspaces_unowned hOwner]
    exact
      ⟨[], n.afterAll_nil.symm,
        { unowned := fun _ => ⟨rfl, rfl⟩
          late := fun h => absurd hUnowned h
          asked := fun _ _ _ => .nothing }⟩
  · have hLate :
        (workspaces b.catalog named filters).FailsOnly
          IsLate := by
      rw [workspaces_owned (owner_known hUnowned)]
      exact .bind (b.late_workspaces _) fun _ => .pure _
    have hThis := hLate n
    rw [workspaces_owned (owner_known hUnowned)] at hThis ⊢
    rw [Task.bind_state fun _ _ => rfl]
    rcases asked_workspaces expressions n with
      ⟨requests, hSent, hAsked⟩
    exact
      ⟨requests, hSent,
        { unowned := fun h => absurd h hUnowned
          late := fun _ => hThis
          asked := hAsked }⟩

theorem readsRows_users
    (b : Backend)
    (expressions : List String)
    (filters : List Filter)
    (n : Network) :
    ∃ requests,
      (users b.catalog filters n).2 = n.afterAll requests ∧
        ReadsRows b (.listUsers expressions) requests
          (users b.catalog filters n).1 := by
  have hTask :
      users b.catalog filters =
        (b.users >>= fun rows =>
          pure (User.columns.filterAll rows filters)) := rfl
  have hLate : (users b.catalog filters).FailsOnly IsLate := by
    rw [hTask]
    exact .bind b.late_users fun _ => .pure _
  have hThis := hLate n
  rw [hTask] at hThis ⊢
  rw [Task.bind_state fun _ _ => rfl]
  rcases asked_users b expressions n with
    ⟨requests, hSent, hAsked⟩
  exact
    ⟨requests, hSent,
      { unowned := nofun
        late := fun _ => hThis
        asked := hAsked }⟩

------------------------------------------------------------
-- List commands
------------------------------------------------------------

/- The failures of a step stay what they are. -/
theorem ReadsRows.congr
    {β : Type}
    {b : Backend}
    {command : Command}
    {requests : List Http.Request}
    {result : Except Failure α}
    {result' : Except Failure β}
    (h : ReadsRows b command requests result)
    (hSame :
      ∀ failure,
        result' = .error failure ↔ result = .error failure) :
    ReadsRows b command requests result' where
  unowned := fun hUnowned =>
    ⟨(h.unowned hUnowned).1,
      (hSame _).mpr (h.unowned hUnowned).2⟩
  late := fun hOwned failure hFailure =>
    h.late hOwned failure ((hSame failure).mp hFailure)
  asked := h.asked

/- Rows that are read from a backend are reported. -/
theorem readsRows_list
    {b : Backend}
    {command : Command}
    {expressions : List String}
    {filters : List Filter}
    {keeper : SessionFile.Keeper}
    {c : Connection}
    {home : Option String}
    {rows : Backend → Task Network (List α × List Warning)}
    {w w' : World}
    (hFilters : parseFilters expressions = .ok filters)
    (hSelect : Route.selectBy keeper c home w = (.ok b, w'))
    (hRows :
      ∃ requests,
        (rows b w'.network).2 = w'.network.afterAll requests ∧
          ReadsRows b command requests (rows b w'.network).1)
    (report : List α → Report) :
    ∃ requests result warnings,
      Command.list keeper c home expressions rows report w =
          (result,
            { files := w'.files
              network := w'.network.afterAll requests
              warnings }) ∧
        ReadsRows b command requests result := by
  rcases hRows with ⟨requests, hSent, hReads⟩
  rw [Command.list_eq _ _ _ _ _ hFilters,
    Task.bind_ok hSelect]
  rcases hStep : rows b w'.network with
    ⟨failure | ⟨kept, warnings⟩, n⟩
  · rw [hStep] at hSent hReads
    rw [Task.bind_error (World.online_eq hStep)]
    exact
      ⟨requests, _, _, by rw [← hSent],
        hReads.congr fun _ => by simp⟩
  · rw [hStep] at hSent hReads
    rw [Task.bind_ok (World.online_eq hStep)]
    exact
      ⟨requests, .ok (report kept), _, by rw [← hSent]; rfl,
        hReads.congr fun _ => by simp⟩

/-
  How a list command runs: its filters are refused, or no
  backend is chosen, or rows are read from the backend.
-/
inductive ListRun
    (keeper : SessionFile.Keeper)
    (c : Connection)
    (home : Option String)
    (command : Command)
    (w : World) : Except Failure String → World → Prop where
  | refused
      {failure : Failure}
      (hFilters :
        parseFilters (expressionsOf command) =
          .error failure) :
      ListRun keeper c home command w (.error failure) w
  | unselected
      {filters : List Filter}
      {failure : Failure}
      {w' : World}
      (hFilters :
        parseFilters (expressionsOf command) = .ok filters)
      (hSelect :
        Route.selectBy keeper c home w = (.error failure, w')) :
      ListRun keeper c home command w (.error failure) w'
  | listed
      {filters : List Filter}
      {b : Backend}
      {w' : World}
      {requests : List Http.Request}
      {result : Except Failure String}
      {warnings : List Warning}
      (hFilters :
        parseFilters (expressionsOf command) = .ok filters)
      (hSelect :
        Route.selectBy keeper c home w = (.ok b, w'))
      (hReads : ReadsRows b command requests result) :
      ListRun keeper c home command w result
        { files := w'.files
          network := w'.network.afterAll requests
          warnings }

section

variable {command : Command}
variable {keeper : SessionFile.Keeper}
variable {c : Connection}
variable {home : Option String}
variable {w : World}

/- A report that is rendered tells of the same run. -/
theorem listRun_list
    {expressions : List String}
    {rows : Backend → Task Network (List α × List Warning)}
    {report : List α → Report}
    (hExpressions : expressionsOf command = expressions)
    (hRows :
      ∀ filters b n,
        parseFilters expressions = .ok filters →
          ∃ requests,
            (rows b n).2 = n.afterAll requests ∧
              ReadsRows b command requests (rows b n).1)
    (format : Format) :
    let t : Task World String := do
      let report ←
        Command.list keeper c home expressions rows report
      return report.render format
    ListRun keeper c home command w (t w).1 (t w).2 := by
  intro t
  cases hFilters : parseFilters expressions with
  | error failure =>
      have hRun : t w = (.error failure, w) :=
        Task.bind_error
          (Command.list_malformed _ _ _ _ _ hFilters w)
      rw [hRun]
      exact .refused (by rw [hExpressions, hFilters])
  | ok filters =>
      rcases hSelect : Route.selectBy keeper c home w with
        ⟨failure | b, w'⟩
      · have hRun : t w = (.error failure, w') := by
          unfold t
          rw [Command.list_eq _ _ _ _ _ hFilters]
          exact Task.bind_error (Task.bind_error hSelect)
        rw [hRun]
        exact
          .unselected (by rw [hExpressions, hFilters]) hSelect
      · rcases readsRows_list hFilters hSelect
            (hRows filters b w'.network hFilters) report with
          ⟨requests, result, warnings, hList, hReads⟩
        have hRun :
            t w =
              (result.map fun report => report.render format,
                { files := w'.files
                  network := w'.network.afterAll requests
                  warnings }) := by
          cases result with
          | error failure => exact Task.bind_error hList
          | ok rendered => exact Task.bind_ok hList
        rw [hRun]
        refine
          .listed (by rw [hExpressions, hFilters]) hSelect
            (hReads.congr fun failure => ?_)
        cases result <;> simp [Except.map]

/- Every list command runs in one of these ways. -/
theorem listRun_runBy
    (hListing : isListing command = true)
    (format : Format)
    (input : Bytes) :
    let run :=
      Invocation.runBy keeper { format, connection := c, command }
        home input w
    ListRun keeper c home command w run.1 run.2 := by
  cases command with
  | login arguments => cases hListing
  | viewConfig => cases hListing
  | listWorkspaces named expressions =>
      refine listRun_list rfl (fun filters b n h => ?_) format
      rw [expressionsOf] at h
      rw [selectWorkspaces_eq h]
      exact readsRows_workspaces b named expressions filters n
  | listUsers expressions =>
      refine listRun_list rfl (fun filters b n h => ?_) format
      rw [expressionsOf] at h
      rw [selectUsers_eq h]
      exact readsRows_users b expressions filters n

section

variable {w' : World}
variable {result : Except Failure String}
variable {filters : List Filter}

/- Without a backend, a list command fails as its choice does. -/
theorem ListRun.eq_of_unselected
    {failure : Failure}
    {w'' : World}
    (h : ListRun keeper c home command w result w')
    (hFilters :
      parseFilters (expressionsOf command) = .ok filters)
    (hSelect :
      Route.selectBy keeper c home w = (.error failure, w'')) :
    result = .error failure ∧ w' = w'' := by
  cases h with
  | refused hRefused =>
      rw [hFilters] at hRefused
      cases hRefused
  | unselected _ hThis =>
      rw [hSelect] at hThis
      cases hThis
      exact ⟨rfl, rfl⟩
  | listed _ hThis _ =>
      rw [hSelect] at hThis
      cases hThis

/- With a backend, rows are read from this backend. -/
theorem ListRun.exists_readsRows
    {b : Backend}
    {w'' : World}
    (h : ListRun keeper c home command w result w')
    (hFilters :
      parseFilters (expressionsOf command) = .ok filters)
    (hSelect : Route.selectBy keeper c home w = (.ok b, w'')) :
    ∃ requests,
      ReadsRows b command requests result ∧
        w'.files = w''.files ∧
        w'.network = w''.network.afterAll requests := by
  cases h with
  | refused hRefused =>
      rw [hFilters] at hRefused
      cases hRefused
  | unselected _ hThis =>
      rw [hSelect] at hThis
      cases hThis
  | listed _ hThis hReads =>
      rw [hSelect] at hThis
      cases hThis
      exact ⟨_, hReads, rfl, rfl⟩

end

end

end Listing
end WorkspaceClient
