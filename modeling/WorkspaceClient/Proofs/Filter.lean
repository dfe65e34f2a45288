import Mathlib.Data.List.Perm.Basic
import WorkspaceClient.Filter

/-
  This file shows which rows are left when filters are
  applied one after another: those that satisfy every filter
  on a column that the rows have. The order of the filters
  does not matter, nor how often each one is applied.

  Key definitions include:
    * `Filter.Satisfied`
    * `Columns.Knows`
    * `Columns.Keeps`
    * `Columns.Selects`

  Main declarations:
    * `Filter.accepts_iff`
    * `Columns.filterAll_rows`
    * `Columns.filterAll_warnings`
    * `Columns.filterAll_splits`
    * `Columns.filterAll_selects`
-/

namespace WorkspaceClient

------------------------------------------------------------
-- Satisfied filters
------------------------------------------------------------

namespace Filter

/-
  Whether the values of a row are what a filter asks for:
  some value matches, or none does.
-/
def Satisfied
    (f : Filter)
    (values : List String) : Prop :=
  match f.operator with
  | .equal => ∃ v ∈ values, f.pattern.isMatch v = true
  | .notEqual => ∀ v ∈ values, f.pattern.isMatch v = false

theorem accepts_iff
    {f : Filter}
    {values : List String} :
    f.accepts values = true ↔ f.Satisfied values := by
  unfold accepts Satisfied
  cases f.operator with
  | equal => exact List.any_eq_true
  | notEqual => simp

instance
    (f : Filter)
    (values : List String) :
    Decidable (f.Satisfied values) :=
  decidable_of_iff _ accepts_iff

/- The filter on a column with an operator. -/
def on
    (key : String)
    (pattern : Glob)
    (operator : Operator) : Filter :=
  { key, operator, pattern }

/- With the other operator the other rows are kept. -/
theorem satisfied_notEqual_iff
    {key : String}
    {pattern : Glob}
    {values : List String} :
    (on key pattern .notEqual).Satisfied values ↔
      ¬ (on key pattern .equal).Satisfied values := by
  simp [Satisfied, on]

end Filter

namespace Columns

variable {α : Type}
variable (columns : Columns α)

/-
  Whether the rows have a column. The case of ASCII letters
  does not matter.
-/
def Knows
    (key : String) : Prop :=
  ∃ name ∈ columns.names,
    Filter.lowerText name = Filter.lowerText key

instance
    (key : String) :
    Decidable (columns.Knows key) := by
  unfold Knows
  infer_instance

theorem knows_iff
    {f : Filter} :
    columns.knows f = true ↔ columns.Knows f.key := by
  unfold knows Knows
  simp only [List.any_eq_true, beq_iff_eq]

/- Whether a filter leaves a row in the list. -/
def Keeps
    (f : Filter)
    (row : α) : Prop :=
  columns.Knows f.key → f.Satisfied (columns.values row f.key)

instance
    (f : Filter)
    (row : α) :
    Decidable (columns.Keeps f row) := by
  unfold Keeps
  infer_instance

------------------------------------------------------------
-- One filter
------------------------------------------------------------

theorem filter_rows
    (rows : List α)
    (f : Filter) :
    (columns.filter rows f).1 =
      rows.filter fun row => columns.Keeps f row := by
  unfold filter
  by_cases hKnown : columns.Knows f.key
  · rw [if_pos (columns.knows_iff.mpr hKnown)]
    apply List.filter_congr
    intro row _
    rw [Bool.eq_iff_iff, Filter.accepts_iff, decide_eq_true_iff]
    exact ⟨fun h _ => h, fun h => h hKnown⟩
  · rw [if_neg (mt columns.knows_iff.mp hKnown)]
    symm
    apply List.filter_eq_self.mpr
    intro row _
    exact decide_eq_true fun h => absurd h hKnown

/- Only a filter on an unknown column is warned of. -/
theorem filter_warnings
    (rows : List α)
    (f : Filter) :
    (columns.filter rows f).2 =
      if columns.Knows f.key then
        []
      else
        [.unknownFilterKey f.text columns.names] := by
  unfold filter
  by_cases hKnown : columns.Knows f.key
  · rw [if_pos (columns.knows_iff.mpr hKnown), if_pos hKnown]
  · rw [if_neg (mt columns.knows_iff.mp hKnown),
      if_neg hKnown]

------------------------------------------------------------
-- Several filters
------------------------------------------------------------

theorem filterAll_cons
    (rows : List α)
    (f : Filter)
    (fs : List Filter) :
    columns.filterAll rows (f :: fs) =
      ((columns.filterAll (columns.filter rows f).1 fs).1,
        (columns.filter rows f).2
          ++ (columns.filterAll (columns.filter rows f).1
            fs).2) := rfl

/- The rows that every filter keeps are left, in order. -/
theorem filterAll_rows
    (rows : List α)
    (fs : List Filter) :
    (columns.filterAll rows fs).1 =
      rows.filter fun row => ∀ f ∈ fs, columns.Keeps f row := by
  induction fs generalizing rows with
  | nil => simp [filterAll]
  | cons f fs ih =>
      rw [filterAll_cons, ih, filter_rows, List.filter_filter]
      apply List.filter_congr
      intro row _
      rw [Bool.eq_iff_iff]
      simp only [Bool.and_eq_true, decide_eq_true_iff,
        List.forall_mem_cons, and_comm]

/- Every filter on an unknown column is warned of, in order. -/
theorem filterAll_warnings
    (rows : List α)
    (fs : List Filter) :
    (columns.filterAll rows fs).2 =
      (fs.filter fun f => ¬ columns.Knows f.key).map fun f =>
        .unknownFilterKey f.text columns.names := by
  induction fs generalizing rows with
  | nil => rfl
  | cons f fs ih =>
      rw [filterAll_cons, ih, filter_warnings]
      by_cases hKnown : columns.Knows f.key <;> simp [hKnown]

/- A row is left if it was there and every filter keeps it. -/
theorem mem_filterAll_iff
    {rows : List α}
    {fs : List Filter}
    {row : α} :
    row ∈ (columns.filterAll rows fs).1 ↔
      row ∈ rows ∧ ∀ f ∈ fs, columns.Keeps f row := by
  rw [filterAll_rows, List.mem_filter, decide_eq_true_iff]

/- Filters that keep the same rows are as good as each other. -/
theorem filterAll_congr
    {rows : List α}
    {fs fs' : List Filter}
    (hSame :
      ∀ row ∈ rows,
        (∀ f ∈ fs, columns.Keeps f row) ↔
          ∀ f ∈ fs', columns.Keeps f row) :
    (columns.filterAll rows fs).1 =
      (columns.filterAll rows fs').1 := by
  rw [filterAll_rows, filterAll_rows]
  apply List.filter_congr
  intro row hRow
  exact decide_eq_decide.mpr (hSame row hRow)

/- Rows that all filters keep are not changed by them. -/
theorem filterAll_again
    (rows : List α)
    (fs : List Filter) :
    (columns.filterAll (columns.filterAll rows fs).1 fs).1 =
      (columns.filterAll rows fs).1 := by
  rw [columns.filterAll_rows (columns.filterAll rows fs).1]
  apply List.filter_eq_self.mpr
  intro row hRow
  exact decide_eq_true (columns.mem_filterAll_iff.mp hRow).2

/- Filters on unknown columns may be left out. -/
theorem filterAll_known
    (rows : List α)
    (fs : List Filter) :
    (columns.filterAll rows
        (fs.filter fun f => columns.Knows f.key)).1 =
      (columns.filterAll rows fs).1 := by
  apply filterAll_congr
  intro row _
  constructor
  · intro hKnown f hf hKnows
    have hMem : f ∈ fs.filter (columns.Knows ·.key) := by
      rw [List.mem_filter, decide_eq_true_iff]
      exact ⟨hf, hKnows⟩
    exact hKnown f hMem hKnows
  · intro hAll f hf
    exact hAll f (List.mem_of_mem_filter hf)

------------------------------------------------------------
-- Both operators
------------------------------------------------------------

/-
  On a known column the two operators split the rows: every
  row is kept by one of them, and none by both.
-/
theorem filterAll_splits
    {key : String}
    {pattern : Glob}
    (hKnown : columns.Knows key)
    (rows : List α) :
    ((columns.filterAll rows [.on key pattern .equal]).1
        ++ (columns.filterAll rows
          [.on key pattern .notEqual]).1).Perm rows ∧
      List.Disjoint
        (columns.filterAll rows [.on key pattern .equal]).1
        (columns.filterAll rows
          [.on key pattern .notEqual]).1 := by
  have hOther :
      ∀ row,
        columns.Keeps (.on key pattern .notEqual) row ↔
          ¬ columns.Keeps (.on key pattern .equal) row := by
    intro row
    change
      (columns.Knows key → _) ↔ ¬ (columns.Knows key → _)
    rw [forall_prop_of_true hKnown,
      forall_prop_of_true hKnown]
    exact Filter.satisfied_notEqual_iff
  constructor
  · rw [filterAll_rows, filterAll_rows]
    simp only [List.forall_mem_singleton, hOther, decide_not]
    exact List.filter_append_perm _ rows
  · intro row hEqual hNotEqual
    rw [mem_filterAll_iff, List.forall_mem_singleton]
      at hEqual hNotEqual
    exact (hOther row).mp hNotEqual.2 hEqual.2

------------------------------------------------------------
-- Selection
------------------------------------------------------------

/-
  What is left of rows after several filters, and what is
  warned of.
-/
structure Selects
    (rows : List α)
    (fs : List Filter) : Prop where
  -- the rows that satisfy all filters on known columns
  kept :
    (columns.filterAll rows fs).1 =
      rows.filter fun row =>
        ∀ f ∈ fs,
          columns.Knows f.key →
            f.Satisfied (columns.values row f.key)
  -- one warning for each filter on an unknown column
  warnings :
    (columns.filterAll rows fs).2 =
      (fs.filter fun f => ¬ columns.Knows f.key).map fun f =>
        .unknownFilterKey f.text columns.names
  unknown :
    (columns.filterAll rows
        (fs.filter fun f => columns.Knows f.key)).1 =
      (columns.filterAll rows fs).1
  -- neither order nor repetition matters
  order :
    ∀ fs',
      (∀ f, f ∈ fs' ↔ f ∈ fs) →
        (columns.filterAll rows fs').1 =
          (columns.filterAll rows fs).1
  again :
    (columns.filterAll (columns.filterAll rows fs).1 fs).1 =
      (columns.filterAll rows fs).1
  -- the two operators split the rows
  splits :
    ∀ key pattern,
      columns.Knows key →
        ((columns.filterAll rows [.on key pattern .equal]).1
            ++ (columns.filterAll rows
              [.on key pattern .notEqual]).1).Perm rows ∧
          List.Disjoint
            (columns.filterAll rows [.on key pattern .equal]).1
            (columns.filterAll rows
              [.on key pattern .notEqual]).1

/- Filters select the rows that satisfy them. -/
theorem filterAll_selects
    (rows : List α)
    (fs : List Filter) :
    Selects columns rows fs where
  kept := columns.filterAll_rows rows fs
  warnings := columns.filterAll_warnings rows fs
  unknown := columns.filterAll_known rows fs
  order := by
    intro fs' hSame
    apply filterAll_congr
    intro row _
    simp only [hSame]
  again := columns.filterAll_again rows fs
  splits := fun _ _ hKnown =>
    columns.filterAll_splits hKnown rows

end Columns
end WorkspaceClient
