import Mathlib.Data.List.Forall2

/-
  This file shows when several steps give a value, each of
  which may end in a fault: when each of them does. Else
  they end in the fault of the first that does not.

  Main declarations:
    * `Result.ok_of_bind`
    * `Result.mapM_eq_ok_iff`
    * `Result.exists_forall₂_iff`
    * `Result.mapM_eq_error`
    * `Result.exists_first_of_not_ok`
-/

namespace WorkspaceClient
namespace Result

variable {ε α β : Type}

/- Two steps that give a value as a whole give one each. -/
theorem ok_of_bind
    {x : Except ε α}
    {next : α → Except ε β}
    {b : β}
    (h : (x >>= next) = .ok b) :
    ∃ a, x = .ok a ∧ next a = .ok b := by
  cases x with
  | error fault => cases h
  | ok a => exact ⟨a, rfl, h⟩

/- A step for every item gives the value of each item. -/
theorem mapM_eq_ok_iff
    {f : α → Except ε β}
    {as : List α}
    {bs : List β} :
    as.mapM f = .ok bs ↔
      List.Forall₂ (fun a b => f a = .ok b) as bs := by
  induction as generalizing bs with
  | nil =>
      rw [List.mapM_nil, List.forall₂_nil_left_iff]
      exact ⟨fun h => (Except.ok.inj h).symm, fun h => h ▸ rfl⟩
  | cons a as ih =>
      rw [List.mapM_cons, List.forall₂_cons_left_iff]
      constructor
      · intro h
        rcases ok_of_bind h with ⟨b, hFirst, h⟩
        rcases ok_of_bind h with ⟨rest, hRest, h⟩
        exact
          ⟨b, rest, hFirst, ih.mp hRest,
            (Except.ok.inj h).symm⟩
      · rintro ⟨b, rest, hFirst, hRest, rfl⟩
        rw [hFirst]
        change (as.mapM f >>= fun bs => pure (b :: bs)) = _
        rw [ih.mpr hRest]
        rfl

theorem mapM_eq_some_iff
    {f : α → Option β}
    {as : List α}
    {bs : List β} :
    as.mapM f = some bs ↔
      List.Forall₂ (fun a b => f a = some b) as bs := by
  induction as generalizing bs with
  | nil =>
      rw [List.mapM_nil, List.forall₂_nil_left_iff]
      exact
        ⟨fun h => (Option.some.inj h).symm, fun h => h ▸ rfl⟩
  | cons a as ih =>
      rw [List.mapM_cons, List.forall₂_cons_left_iff]
      simp only [Option.bind_eq_bind, Option.bind_eq_some_iff,
        Option.pure_def, Option.some.injEq, ih]
      constructor
      · rintro ⟨b, hFirst, rest, hRest, rfl⟩
        exact ⟨b, rest, hFirst, hRest, rfl⟩
      · rintro ⟨b, rest, hFirst, hRest, rfl⟩
        exact ⟨b, hFirst, rest, hRest, rfl⟩

/- Every item is related to one of a list in their order. -/
theorem exists_forall₂_iff
    {R : α → β → Prop}
    {as : List α} :
    (∃ bs, List.Forall₂ R as bs) ↔ ∀ a ∈ as, ∃ b, R a b := by
  induction as with
  | nil => simp
  | cons a as ih =>
      simp only [List.forall₂_cons_left_iff,
        List.forall_mem_cons, ← ih]
      constructor
      · rintro ⟨_, b, bs, hFirst, hRest, rfl⟩
        exact ⟨⟨b, hFirst⟩, bs, hRest⟩
      · rintro ⟨⟨b, hFirst⟩, bs, hRest⟩
        exact ⟨_, b, bs, hFirst, hRest, rfl⟩

/- The first step that ends in a fault is the last. -/
theorem mapM_eq_error
    {f : α → Except ε β}
    {before after : List α}
    {a : α}
    {fault : ε}
    (hBefore : ∀ a' ∈ before, ∃ b, f a' = .ok b)
    (hFault : f a = .error fault) :
    (before ++ a :: after).mapM f = .error fault := by
  induction before with
  | nil =>
      rw [List.nil_append, List.mapM_cons, hFault]
      rfl
  | cons a' before ih =>
      rw [List.forall_mem_cons] at hBefore
      rcases hBefore.1 with ⟨b, hFirst⟩
      rw [List.cons_append, List.mapM_cons, hFirst,
        ih hBefore.2]
      rfl

/- Steps that end in a fault have a first one that does. -/
theorem exists_first_of_not_ok
    {f : α → Except ε β}
    {as : List α}
    (h : ¬ ∀ a ∈ as, ∃ b, f a = .ok b) :
    ∃ before a after fault,
      as = before ++ a :: after ∧
      (∀ a' ∈ before, ∃ b, f a' = .ok b) ∧
      f a = .error fault := by
  induction as with
  | nil => exact absurd (by simp) h
  | cons a as ih =>
      cases hFirst : f a with
      | error fault =>
          exact ⟨[], a, as, fault, rfl, by simp, hFirst⟩
      | ok b =>
          rw [List.forall_mem_cons, not_and] at h
          rcases ih (h ⟨b, hFirst⟩) with
            ⟨before, a', after, fault, rfl, hBefore, hFault⟩
          refine
            ⟨a :: before, a', after, fault, rfl, ?_, hFault⟩
          rw [List.forall_mem_cons]
          exact ⟨⟨b, hFirst⟩, hBefore⟩

/- It makes no difference when a fault is put in words. -/
theorem mapM_mapError
    {ε' : Type}
    {f : α → Except ε β}
    (word : ε → ε')
    (as : List α) :
    (as.mapM f).mapError word =
      as.mapM fun a => (f a).mapError word := by
  induction as with
  | nil => rfl
  | cons a as ih =>
      rw [List.mapM_cons, List.mapM_cons, ← ih]
      cases f a with
      | error fault => rfl
      | ok b => cases as.mapM f <;> rfl

end Result
end WorkspaceClient
