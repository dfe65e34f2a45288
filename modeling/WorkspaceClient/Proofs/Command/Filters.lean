import Mathlib.Data.List.Forall2
import WorkspaceClient.Proofs.Command.Rows
import WorkspaceClient.Proofs.Route.Choice

/-
  This file shows that the filters of a list command are
  read before everything else. The first malformed one
  decides the failure, whatever the rest of the world is
  like. If none is malformed, all of them are read in order,
  and no later step fails because of a filter.

  Key definitions include:
    * `Filter.FirstRefused`
    * `Listing.ReadsFiltersFirst`

  Main declarations:
    * `Filter.parseAll_cases`
    * `Listing.ListRun.noFilter`
    * `Listing.run_readsFiltersFirst`
-/

namespace WorkspaceClient

open Failure (IsLate IsNoFilter)

------------------------------------------------------------
-- Several expressions
------------------------------------------------------------

namespace Filter

/- An expression is refused, and none before it is. -/
def FirstRefused
    (expressions : List String)
    (refusal : Refusal) : Prop :=
  ∃ before e after,
    expressions = before ++ e :: after ∧
      (∀ e' ∈ before, ∃ f, parse e' = .ok f) ∧
      parse e = .error refusal

/- Several expressions are read one by one. -/
theorem parseAll_cons
    (e : String)
    (expressions : List String) :
    parseAll (e :: expressions) =
      (parse e >>= fun f =>
        parseAll expressions >>= fun fs => .ok (f :: fs)) :=
  List.mapM_cons

/- All expressions are read, or one is the first that is not. -/
theorem parseAll_cases
    (expressions : List String) :
    (∃ filters,
      parseAll expressions = .ok filters ∧
        List.Forall₂ (fun e f => parse e = .ok f) expressions
          filters) ∨
      ∃ refusal,
        parseAll expressions = .error refusal ∧
          FirstRefused expressions refusal := by
  induction expressions with
  | nil => exact .inl ⟨[], rfl, .nil⟩
  | cons e expressions ih =>
      rw [parseAll_cons]
      cases hFirst : parse e with
      | error refusal =>
          exact
            .inr ⟨refusal, rfl, [], e, expressions, rfl, nofun,
              hFirst⟩
      | ok f =>
          rcases ih with
            ⟨filters, hRest, hEach⟩ |
              ⟨refusal, hRest, before, e', after, rfl, hBefore,
                hThis⟩
          · rw [hRest]
            exact .inl ⟨f :: filters, rfl, .cons hFirst hEach⟩
          · rw [hRest]
            refine
              .inr ⟨refusal, rfl, e :: before, e', after, rfl,
                ?_, hThis⟩
            intro e'' hMem
            rcases List.mem_cons.mp hMem with rfl | hMem
            · exact ⟨f, hFirst⟩
            · exact hBefore e'' hMem

/- An expression that is read is not refused. -/
theorem exists_of_forall₂
    {expressions : List String}
    {filters : List Filter}
    {e : String}
    (h :
      List.Forall₂ (fun e f => parse e = .ok f) expressions
        filters)
    (hMem : e ∈ expressions) :
    ∃ f, parse e = .ok f := by
  induction h with
  | nil => cases hMem
  | cons hThis _ ih =>
      rcases List.mem_cons.mp hMem with rfl | hMem
      · exact ⟨_, hThis⟩
      · exact ih hMem

end Filter

------------------------------------------------------------
-- List commands
------------------------------------------------------------

namespace Listing

theorem parseFilters_ok
    {expressions : List String}
    {filters : List Filter}
    (h : Filter.parseAll expressions = .ok filters) :
    parseFilters expressions = .ok filters := by
  rw [parseFilters, h]

theorem parseFilters_error
    {expressions : List String}
    {refusal : Filter.Refusal}
    (h : Filter.parseAll expressions = .error refusal) :
    parseFilters expressions = .error (.filter refusal) := by
  rw [parseFilters, h]

/- Each expression is read if all of them are. -/
theorem parse_of_parseFilters
    {expressions : List String}
    {filters : List Filter}
    {e : String}
    (h : parseFilters expressions = .ok filters)
    (hMem : e ∈ expressions) :
    ∃ f, Filter.parse e = .ok f := by
  rcases Filter.parseAll_cases expressions with
    ⟨_, _, hEach⟩ | ⟨refusal, hAll, _⟩
  · exact Filter.exists_of_forall₂ hEach hMem
  · rw [parseFilters_error hAll] at h
    cases h

/-
  What a list command does with its filters. It does not
  depend on the options, the files, the input or the
  answers.
-/
structure ReadsFiltersFirst
    (command : Command) : Prop where
  -- nothing is done if an expression is malformed
  refused :
    ∀ e ∈ expressionsOf command,
      ∀ refusal,
        Filter.parse e = .error refusal →
          ∃ first,
            Filter.FirstRefused (expressionsOf command) first ∧
              ∀ format c home input w,
                Invocation.run
                    { format, connection := c, command } home
                    input w =
                  (.error (.filter first), w)
  -- otherwise each one is read, and no later step refuses it
  accepted :
    (∀ e ∈ expressionsOf command, ∃ f, Filter.parse e = .ok f) →
      ∃ filters,
        parseFilters (expressionsOf command) = .ok filters ∧
          List.Forall₂ (fun e f => Filter.parse e = .ok f)
            (expressionsOf command) filters ∧
          ∀ format c home input w refusal,
            (Invocation.run { format, connection := c, command }
                home input w).1 ≠
              .error (.filter refusal)

section

variable {command : Command}

/- A command with a malformed expression does nothing. -/
theorem ListRun.eq_of_refused
    {keeper : SessionFile.Keeper}
    {c : Connection}
    {home : Option String}
    {w w' : World}
    {result : Except Failure String}
    {failure : Failure}
    (h : ListRun keeper c home command w result w')
    (hFilters :
      parseFilters (expressionsOf command) = .error failure) :
    result = .error failure ∧ w' = w := by
  cases h with
  | refused hThis =>
      rw [hFilters] at hThis
      cases hThis
      exact ⟨rfl, rfl⟩
  | unselected hThis _ =>
      rw [hFilters] at hThis
      cases hThis
  | listed hThis _ _ =>
      rw [hFilters] at hThis
      cases hThis

/- With well-formed filters no step fails because of one. -/
theorem ListRun.noFilter
    {keeper : SessionFile.Keeper}
    {c : Connection}
    {home : Option String}
    {w w' : World}
    {result : Except Failure String}
    {filters : List Filter}
    (h : ListRun keeper c home command w result w')
    (hFilters :
      parseFilters (expressionsOf command) = .ok filters) :
    FailsOnly IsNoFilter result := by
  cases h with
  | refused hThis =>
      rw [hFilters] at hThis
      cases hThis
  | unselected _ hSelect =>
      have hChoice := Route.choice_selectBy keeper c home w
      rw [hSelect] at hChoice
      exact .error (hChoice.noFilter _ rfl)
  | @listed _ b _ _ _ _ _ _ hReads =>
      by_cases hUnowned : Unowned b command
      · rw [(hReads.unowned hUnowned).2]
        exact .error nofun
      · exact
          (hReads.late hUnowned).imp fun _ => IsLate.isNoFilter

/- Every list command reads its filters before anything else. -/
theorem run_readsFiltersFirst
    (hListing : isListing command = true) :
    ReadsFiltersFirst command where
  refused := by
    intro e hMem refusal hRefused
    rcases Filter.parseAll_cases (expressionsOf command) with
      ⟨filters, _, hEach⟩ | ⟨first, hAll, hFirst⟩
    · rcases Filter.exists_of_forall₂ hEach hMem with ⟨f, hOk⟩
      rw [hRefused] at hOk
      cases hOk
    · refine ⟨first, hFirst, ?_⟩
      intro format c home input w
      rcases (listRun_runBy hListing format input).eq_of_refused
          (parseFilters_error hAll) with
        ⟨hResult, hWorld⟩
      exact Prod.ext hResult hWorld
  accepted := by
    intro hOk
    rcases Filter.parseAll_cases (expressionsOf command) with
      ⟨filters, hAll, hEach⟩ |
        ⟨first, _, before, e, after, hSplit, _, hRefused⟩
    · have hFilters := parseFilters_ok hAll
      refine ⟨filters, hFilters, hEach, ?_⟩
      intro format c home input w refusal hRun
      exact
        (listRun_runBy hListing format input).noFilter hFilters
          _ hRun refusal rfl
    · rcases hOk e (by simp [hSplit]) with ⟨f, hRead⟩
      rw [hRefused] at hRead
      cases hRead

end

/- The first of two malformed filters is told, not the last. -/
theorem run_readsFiltersFirst_two :
    isListing (.listUsers ["name==a*", "==x", "a"]) = true ∧
      ReadsFiltersFirst (.listUsers ["name==a*", "==x", "a"]) ∧
      Filter.FirstRefused ["name==a*", "==x", "a"]
        { expression := "==x", fault := .emptyKey } := by
  refine ⟨rfl, run_readsFiltersFirst rfl, ?_⟩
  refine ⟨["name==a*"], "==x", ["a"], rfl, ?_, rfl⟩
  intro e hMem
  rw [List.mem_singleton.mp hMem]
  cases hRead : Filter.parse "name==a*" with
  | ok f => exact ⟨f, rfl⟩
  | error refusal =>
      have hOk : (Filter.parse "name==a*").isOk = true := by
        decide +kernel
      rw [hRead] at hOk
      cases hOk

end Listing
end WorkspaceClient
