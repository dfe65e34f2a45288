import WorkspaceClient.Proofs.Command.Endings
import WorkspaceClient.Proofs.Command.Verified
import WorkspaceClient.Proofs.Dashboard.Endings
import WorkspaceClient.Proofs.Route.Choice

/-
  This file shows when the failure of an invocation is a
  validation. Nothing was sent then, but for two cases of a
  list command of the platform: the URL of the Dashboard is
  only read after the authority was fetched, and the owner
  of the workspaces is only missed after the session was
  checked.

  Key definitions include:
    * `Route.Unbased`
    * `Route.Confirmed`
    * `Listing.ValidatesLate`
    * `Invocation.Validates`

  Main declarations:
    * `Route.Choice.unsent_or_unbased`
    * `Listing.ListRun.unsent_or_late`
    * `Listing.ValidatesLate.ends`
    * `Invocation.run_validates`
-/

namespace WorkspaceClient

open Dashboard (Opens Confirms)

------------------------------------------------------------
-- Choosing a backend
------------------------------------------------------------

/- An endpoint that is no URL fails with a validation. -/
theorem Dashboard.Client.isValidation_of_parseBase
    {text : String}
    {failure : Failure}
    (h : parseBase text = .error failure) :
    failure.isValidation = true := by
  unfold parseBase at h
  split at h
  · cases h
  · cases h
    rfl

namespace Route

/-
  The platform has fetched an authority for a URL of the
  Dashboard that is none.
-/
inductive Unbased
    (c : Connection)
    (home : Option String)
    (w : World)
    (requests : List Http.Request)
    (failure : Failure) : Prop where
  | fetched
      {path url : String}
      {session : Session}
      (hPlatform : ActsAsPlatform c home w path session)
      (hUrl :
        endpoint c.explicitUrl session c.location = some url)
      (hCa : ¬ Platform.HasCa session)
      (hUnbased :
        Platform.Unbased c.caUrl w.network url requests
          failure) :
      Unbased c home w requests failure

/-
  The session of the platform was confirmed as it is. Its
  client has sent the request for the check.
-/
inductive Confirmed
    (c : Connection)
    (home : Option String)
    (w : World)
    (session : Session)
    (client : Dashboard.Client)
    (q : Http.Request) : Prop where
  | checked
      {path url : String}
      {ca : Bytes}
      (hPlatform : ActsAsPlatform c home w path session)
      (hUrl :
        endpoint c.explicitUrl session c.location = some url)
      (hCa : session.caBytes = .ok (some ca))
      (hOpens : Opens (.only ca) url session.token client)
      (hRequest :
        client.request? .verify Dashboard.emptyDocument =
          some q)
      (hConfirms :
        Confirms (w.network.answer w.network.sent q)) :
      Confirmed c home w session client q

section

variable {keeper : SessionFile.Keeper}
variable {c : Connection}
variable {home : Option String}
variable {w w' : World}
variable {failure : Failure}
variable {result : Except Failure Backend}

theorem Unbased.exists_eq
    {requests : List Http.Request}
    (h : Unbased c home w requests failure) :
    failure.isValidation = true ∧ ∃ q, requests = [q] := by
  cases h with
  | fetched _ _ _ hUnbased =>
      cases hUnbased with
      | fetched _ _ hBase =>
          exact
            ⟨Dashboard.Client.isValidation_of_parseBase hBase,
              _, rfl⟩

/- A choice validates before it sends, or after a fetch. -/
theorem Choice.unsent_or_unbased
    (h : Choice keeper c home w result w')
    (hResult : result = .error failure)
    (hValidation : failure.isValidation = true) :
    w'.network = w.network ∨
      ∃ requests,
        w'.network = w.network.afterAll requests ∧
          Unbased c home w requests failure := by
  have hNotLate : ¬ failure.IsLate :=
    fun hLate => hLate.not_isValidation hValidation
  cases h with
  | direct _ => exact .inl rfl
  | unloaded _ _ => exact .inl rfl
  | person _ => exact .inl rfl
  | noUrl _ _ => exact .inl rfl
  | platform hPlatform hUrl hChoice =>
      cases hChoice with
      | noEndpoint _ => exact .inl rfl
      | verified _ _ _ _ => cases hResult
      | unbased hCa hUnbased =>
          cases hResult
          exact
            .inr ⟨_, rfl,
              .fetched hPlatform hUrl hCa hUnbased⟩
      | unkept hLate _ _ =>
          cases hResult
          exact absurd hLate hNotLate
      | kept _ _ hLate _ _ _ =>
          exact absurd (hLate failure hResult) hNotLate

/-
  A backend without a user is chosen before anything is
  sent, or with a session that was confirmed.
-/
theorem Choice.unsent_or_confirmed
    {b : Backend}
    (h : Choice keeper c home w result w')
    (hResult : result = .ok b)
    (hNone : b.currentUser = none) :
    w'.network = w.network ∨
      ∃ session client q,
        w'.network = w.network.afterAll [q] ∧
          Confirmed c home w session client q ∧
          session.user = "" := by
  cases h with
  | direct _ => exact .inl rfl
  | unloaded _ _ => cases hResult
  | person _ => exact .inl rfl
  | noUrl _ _ => cases hResult
  | platform hPlatform hUrl hChoice =>
      cases hChoice with
      | noEndpoint _ => cases hResult
      | verified hCa hOpens hRequest hConfirms =>
          cases hResult
          exact
            .inr ⟨_, _, _, rfl,
              .checked hPlatform hUrl hCa hOpens hRequest
                hConfirms,
              Listing.currentUser_eq_none_iff.mp hNone⟩
      | unbased _ _ => cases hResult
      | unkept _ _ _ => cases hResult
      -- a login that gives no user is not accepted
      | kept hIntroduces _ _ hBackend _ _ =>
          rcases hBackend b hResult with ⟨_, rfl⟩
          exact
            absurd (Listing.currentUser_eq_none_iff.mp hNone)
              hIntroduces.user

/- Without a URL, the platform stops after its fetch. -/
theorem Unbased.exists_selectBy
    {requests : List Http.Request}
    (h : Unbased c home w requests failure)
    (keeper : SessionFile.Keeper) :
    ∃ w',
      selectBy keeper c home w = (.error failure, w') ∧
        w'.network = w.network.afterAll requests := by
  cases h with
  | @fetched path url session hPlatform hUrl hCa hUnbased =>
      cases hUnbased with
      | fetched hCaUrl hFetched hBase =>
          rcases Platform.ensureValidBy_unbased c.caUrl
              c.identityPath w.files (startAt session url w)
              (ne_empty_of_endpoint hUrl) hCa hCaUrl hFetched
              hBase (Platform.saveBy keeper path) with
            ⟨warnings, hRun⟩
          rw [hPlatform.selectBy_eq, hUrl, platformBackend_some,
            hRun]
          exact ⟨_, rfl, rfl⟩

/- A session that is confirmed is used as it is. -/
theorem Confirmed.selectBy_eq
    {session : Session}
    {client : Dashboard.Client}
    {q : Http.Request}
    (h : Confirmed c home w session client q)
    (keeper : SessionFile.Keeper) :
    selectBy keeper c home w =
      (.ok (.facade client session.user),
        { w with network := w.network.afterAll [q] }) := by
  cases h with
  | @checked path url ca hPlatform hUrl hCa hOpens hRequest
      hConfirms =>
      have hRun :=
        Platform.ensureValidBy_confirmed c.caUrl c.identityPath
          w.files (startAt session url w)
          (ne_empty_of_endpoint hUrl) hCa hOpens hRequest
          hConfirms (Platform.saveBy keeper path)
      have hBackend :
          validBackend (startAt session url w).session =
            .ok (.facade client session.user) :=
        validBackend_eq hCa hOpens
      rw [hPlatform.selectBy_eq, hUrl, platformBackend_some,
        hRun]
      simp only [Except.bind, hBackend]
      rfl

end

end Route

------------------------------------------------------------
-- Late validations
------------------------------------------------------------

namespace Listing

/-
  A list command of the platform fails with a validation
  after it has sent this request, and no other.
-/
inductive ValidatesLate
    (c : Connection)
    (home : Option String)
    (command : Command)
    (w : World) : Failure → Http.Request → Prop where
  -- the authority was fetched for a URL that is none
  | url
      {filters : List Filter}
      {failure : Failure}
      {q : Http.Request}
      (hListing : isListing command = true)
      (hFilters :
        parseFilters (expressionsOf command) = .ok filters)
      (hUnbased : Route.Unbased c home w [q] failure) :
      ValidatesLate c home command w failure q
  -- the session was confirmed, but it has no user
  | owner
      {named : Option String}
      {expressions : List String}
      {filters : List Filter}
      {session : Session}
      {client : Dashboard.Client}
      {q : Http.Request}
      (hCommand : command = .listWorkspaces named expressions)
      (hNamed : Connection.given named = none)
      (hFilters : parseFilters expressions = .ok filters)
      (hConfirmed : Route.Confirmed c home w session client q)
      (hUser : session.user = "") :
      ValidatesLate c home command w ownerUnknown q

section

variable {keeper : SessionFile.Keeper}
variable {c : Connection}
variable {home : Option String}
variable {command : Command}
variable {w w' : World}
variable {result : Except Failure String}
variable {failure : Failure}

/- Only a list of workspaces has no owner. -/
theorem Unowned.exists_eq
    {b : Backend}
    (h : Unowned b command) :
    ∃ named expressions,
      command = .listWorkspaces named expressions ∧
        Connection.given named = none ∧
        b.currentUser = none := by
  cases command with
  | listWorkspaces named expressions =>
      exact ⟨named, expressions, rfl, h⟩
  | login _ => exact False.elim h
  | viewConfig => exact False.elim h
  | listUsers _ => exact False.elim h

/- A list command validates before it sends, or late. -/
theorem ListRun.unsent_or_late
    (h : ListRun keeper c home command w result w')
    (hListing : isListing command = true)
    (hResult : result = .error failure)
    (hValidation : failure.isValidation = true) :
    w'.network = w.network ∨
      ∃ q,
        w'.network = w.network.afterAll [q] ∧
          ValidatesLate c home command w failure q := by
  have hChoice := Route.choice_selectBy keeper c home w
  cases h with
  | refused _ => exact .inl rfl
  | unselected hFilters hSelect =>
      cases hResult
      rw [hSelect] at hChoice
      rcases hChoice.unsent_or_unbased rfl hValidation with
        hUnsent | ⟨_, hSent, hUnbased⟩
      · exact .inl hUnsent
      · rcases hUnbased.exists_eq with ⟨_, q, rfl⟩
        exact .inr ⟨q, hSent, .url hListing hFilters hUnbased⟩
  | @listed _ b w'' _ _ _ hFilters hSelect hReads =>
      by_cases hUnowned : Unowned b command
      · rw [hSelect] at hChoice
        rcases hReads.unowned hUnowned with ⟨rfl, hUnknown⟩
        rw [hUnknown] at hResult
        cases hResult
        rw [Network.afterAll_nil]
        rcases hUnowned.exists_eq with
          ⟨named, expressions, rfl, hNamed, hNone⟩
        rcases hChoice.unsent_or_confirmed rfl hNone with
          hUnsent | ⟨_, _, q, hSent, hConfirmed, hUser⟩
        · exact .inl hUnsent
        · exact
            .inr ⟨q, hSent,
              .owner rfl hNamed hFilters hConfirmed hUser⟩
      · have hLate := hReads.late hUnowned failure hResult
        exact absurd hValidation hLate.not_isValidation

theorem ValidatesLate.isListing
    {q : Http.Request}
    (h : ValidatesLate c home command w failure q) :
    Listing.isListing command = true := by
  cases h with
  | url hListing _ _ => exact hListing
  | owner hCommand _ _ _ _ =>
      rw [hCommand]
      rfl

/- A late validation is one. -/
theorem ValidatesLate.isValidation
    {q : Http.Request}
    (h : ValidatesLate c home command w failure q) :
    failure.isValidation = true := by
  cases h with
  | url _ _ hUnbased => exact hUnbased.exists_eq.1
  | owner _ _ _ _ _ => rfl

/- A late validation is what the list command ends in. -/
theorem ValidatesLate.ends
    {q : Http.Request}
    (h : ValidatesLate c home command w failure q)
    (hRun : ListRun keeper c home command w result w') :
    result = .error failure ∧
      w'.network = w.network.afterAll [q] := by
  cases h with
  | url _ hFilters hUnbased =>
      rcases hUnbased.exists_selectBy keeper with
        ⟨_, hSelect, hSent⟩
      rcases hRun.eq_of_unselected hFilters hSelect with
        ⟨hResult, rfl⟩
      exact ⟨hResult, hSent⟩
  | owner hCommand hNamed hFilters hConfirmed hUser =>
      subst hCommand
      rcases hRun.exists_readsRows hFilters
          (hConfirmed.selectBy_eq keeper) with
        ⟨requests, hReads, _, hSent⟩
      rcases hReads.unowned
          ⟨hNamed, currentUser_eq_none_iff.mpr hUser⟩ with
        ⟨rfl, hResult⟩
      exact ⟨hResult, hSent.trans (Network.afterAll_nil _)⟩

end

end Listing

------------------------------------------------------------
-- Invocations
------------------------------------------------------------

namespace Invocation

open Listing (ValidatesLate)

/- A login validates before it sends anything. -/
theorem unsent_of_login
    {keeper : SessionFile.Keeper}
    {c : Connection}
    {home : Option String}
    {a : Login.Arguments}
    {input : Bytes}
    {w w' : World}
    {result : Except Failure Report}
    {failure : Failure}
    (h : Login.Ending keeper c home a input w result w')
    (hResult : result = .error failure)
    (hValidation : failure.isValidation = true) :
    w'.network = w.network := by
  cases h with
  | unready => rfl
  | @refused plan _ _ _ hCall =>
      cases hResult
      rcases (plan.client.ends_passwordToken a.user plan.password
          w.network).of_error hCall with
        ⟨requests, rfl, hLate | rfl⟩
      · exact absurd hValidation hLate.not_isValidation
      · exact Network.afterAll_nil _
  | @kept _ _ kept _ _ _ _ _ _ hKept =>
      rw [hKept] at hResult
      cases kept with
      | error fault =>
          cases hResult
          cases hValidation
      | ok _ => cases hResult

/-
  How the validations of an invocation relate to what it has
  sent: nothing, or one request before a late validation.
  And those that are late really are.
-/
structure Validates
    (i : Invocation)
    (home : Option String)
    (w w' : World)
    (result : Except Failure String) : Prop where
  unsent :
    ∀ failure,
      result = .error failure →
      failure.isValidation = true →
        w'.network = w.network ∨
          ∃ q,
            w'.network = w.network.afterAll [q] ∧
              ValidatesLate i.connection home i.command w
                failure q
  late :
    ∀ failure q,
      ValidatesLate i.connection home i.command w failure q →
        result = .error failure ∧
          failure.isValidation = true ∧
          w'.network = w.network.afterAll [q]

/-
  An invocation that fails with a validation has sent
  nothing, apart from the two late validations.
-/
theorem run_validates
    (i : Invocation)
    (home : Option String)
    (input : Bytes)
    (w : World) :
    let run := i.run home input w
    Validates i home w run.2 run.1 := by
  intro run
  have hEnding :
      Ending SessionFile.save i home input w run.1 run.2 :=
    ending_runBy SessionFile.save i home input w
  generalize run.1 = result, run.2 = w' at hEnding
  cases hEnding with
  | listed hListing hRun =>
      exact
        { unsent := fun _ => hRun.unsent_or_late hListing
          late := fun _ _ hLate =>
            ⟨(hLate.ends hRun).1, hLate.isValidation,
              (hLate.ends hRun).2⟩ }
  | @loggedIn _ result _ hCommand hLogin =>
      constructor
      case unsent =>
        intro failure hResult hValidation
        cases result with
        | ok _ => cases hResult
        | error _ =>
            cases hResult
            exact .inl (unsent_of_login hLogin rfl hValidation)
      case late =>
        intro _ _ hLate
        have hListing := hLate.isListing
        rw [hCommand] at hListing
        cases hListing
  | viewed hCommand =>
      constructor
      case unsent => exact fun _ _ _ => .inl rfl
      case late =>
        intro _ _ hLate
        have hListing := hLate.isListing
        rw [hCommand] at hListing
        cases hListing

/- The options of a command whose URL lacks its scheme. -/
def schemelessOptions : Connection :=
  { Listing.platformOptions with
    dashboardUrl := some "dash:8443" }

/- An invocation with these options. -/
def schemeless : Invocation where
  format := .table
  connection := schemelessOptions
  command := .listUsers []

/- Its URL is refused, but the authority was fetched before. -/
theorem run_validates_schemeless :
    ∃ failure q w',
      schemeless.run none [] Listing.acceptingWorld =
          (.error failure, w') ∧
        failure.isValidation = true ∧
        w'.network = Listing.acceptingWorld.network.afterAll [q] ∧
        q.isFetch = true ∧
        ValidatesLate schemelessOptions none (.listUsers [])
          Listing.acceptingWorld failure q := by
  have hRun :
      let run := schemeless.run none [] Listing.acceptingWorld
      (match run.1 with
        | .error failure => failure.isValidation
        | .ok _ => false) = true ∧
        run.2.network.sent.map (·.isFetch) = [true] := by
    decide +kernel
  have hValidates :=
    run_validates schemeless none [] Listing.acceptingWorld
  rcases hSame :
      schemeless.run none [] Listing.acceptingWorld with
    ⟨failure | _, w'⟩
  · rw [hSame] at hRun hValidates
    rcases hRun with ⟨hValidation, hFetch⟩
    rcases hValidates.unsent failure rfl hValidation with
      hUnsent | ⟨q, hSent, hLate⟩
    · simp only at hUnsent hFetch
      rw [hUnsent] at hFetch
      cases hFetch
    · simp only at hSent hFetch
      rw [hSent] at hFetch
      exact
        ⟨failure, q, w', rfl, hValidation, hSent,
          (List.cons.inj hFetch).1, hLate⟩
  · rw [hSame] at hRun
    cases hRun.1

end Invocation
end WorkspaceClient
