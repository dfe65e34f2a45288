import WorkspaceClient.Proofs.Glob.Items
import WorkspaceClient.Proofs.Glob.Scanning

/-
  This file shows which characters a class holds after its
  translation. Two connecting dashes in a row cut the class
  into operands: it holds what is in the ranges of the first
  operand and in no other. Without such dashes that is what
  is in the ranges of its body.

  Key definitions include:
    * `Glob.HasDoubleMark`
    * `Glob.markRanges`
    * `Glob.operands`
    * `Glob.operandsOrdered`
    * `Glob.operandsContain`

  Main declarations:
    * `Glob.markRanges_marks`
    * `Glob.markedSet_operands`
    * `Glob.markedSet_of_apart`
-/

namespace WorkspaceClient
namespace Glob

open Regex

------------------------------------------------------------
-- Marks of members
------------------------------------------------------------

/- A mark shows the character of its member. -/
theorem char_mark
    (first : Bool)
    (others : List Member)
    (m : Member) :
    (mark first others m).char = m.char := by
  cases m with
  | escaped c => rfl
  | plain c =>
      simp only [mark]
      split
      · next hDash =>
          rw [hDash.1]
          rfl
      · rfl

theorem mark_eq_dash_iff
    (first : Bool)
    (others : List Member)
    (m : Member) :
    mark first others m = .dash ↔
      m = .plain '-' ∧ first = false ∧ others ≠ [] := by
  cases m with
  | escaped c => simp [mark]
  | plain c =>
      simp only [mark, Member.plain.injEq]
      split
      · next hDash => exact ⟨fun _ => hDash, fun _ => rfl⟩
      · next hOther =>
          constructor
          · intro hSame
            simp at hSame
          · intro hDash
            exact absurd hDash hOther

/- Whether two connecting dashes are neighbours. -/
def HasDoubleMark
    (ms : List Mark) : Prop :=
  [.dash, .dash] <:+: ms

theorem HasDoubleMark.cons
    {ms : List Mark}
    (h : HasDoubleMark ms)
    (m : Mark) :
    HasDoubleMark (m :: ms) := by
  rcases h with ⟨before, after, rfl⟩
  exact ⟨m :: before, after, rfl⟩

/-
  Neighbouring dashes of a body connect if there are members
  before them and after them.
-/
theorem hasDoubleMark_marks_iff
    (first : Bool)
    (ms : List Member) :
    HasDoubleMark (marks first ms) ↔
      ∃ before after,
        ms = before ++ .plain '-' :: .plain '-' :: after ∧
          (before = [] → first = false) ∧
          after ≠ [] := by
  unfold HasDoubleMark
  induction ms generalizing first with
  | nil => simp [marks]
  | cons m ms ih =>
      rw [marks, List.infix_cons_iff, ih]
      constructor
      · rintro (hPrefix | ⟨before, after, rfl, _, hAfter⟩)
        · rw [List.cons_prefix_cons] at hPrefix
          rcases hPrefix with ⟨hDash, hPrefix⟩
          rcases (mark_eq_dash_iff first ms m).mp hDash.symm with
            ⟨rfl, hFirst, _⟩
          cases ms with
          | nil => simp [marks] at hPrefix
          | cons m' ms' =>
              rw [marks, List.cons_prefix_cons] at hPrefix
              rcases (mark_eq_dash_iff false ms' m').mp
                  hPrefix.1.symm with
                ⟨rfl, _, hMore⟩
              exact ⟨[], ms', rfl, fun _ => hFirst, hMore⟩
        · exact ⟨m :: before, after, rfl, by simp, hAfter⟩
      · rintro ⟨before, after, hSplit, hBefore, hAfter⟩
        cases before with
        | nil =>
            rw [List.nil_append, List.cons.injEq] at hSplit
            rcases hSplit with ⟨rfl, rfl⟩
            refine .inl ⟨marks false after, ?_⟩
            have hHere :
                mark first (.plain '-' :: after)
                    (.plain '-') = .dash := by
              rw [mark_eq_dash_iff]
              exact ⟨rfl, hBefore rfl, by simp⟩
            have hNext :
                mark false after (.plain '-') = .dash := by
              rw [mark_eq_dash_iff]
              exact ⟨rfl, rfl, hAfter⟩
            rw [hHere, marks, hNext]
            rfl
        | cons m' before =>
            rw [List.cons_append, List.cons.injEq] at hSplit
            rcases hSplit with ⟨rfl, rfl⟩
            exact
              .inr ⟨before, after, rfl, fun _ => rfl, hAfter⟩

------------------------------------------------------------
-- Ranges of marks
------------------------------------------------------------

/- The single members and the ranges of marks. -/
def markRanges : List Mark → List CharRange
  | first :: .dash :: last :: ms =>
      ⟨first.char, last.char⟩ :: markRanges ms
  | m :: ms => .single m.char :: markRanges ms
  | [] => []

theorem markRanges_single
    (m : Mark)
    {ms : List Mark}
    (hRange : ∀ n tail, ms ≠ .dash :: n :: tail) :
    markRanges (m :: ms) =
      .single m.char :: markRanges ms := by
  rw [markRanges.eq_2]
  intro n tail hSame
  exact hRange n tail hSame

/- The marks of a body have its ranges. -/
theorem markRanges_marks
    (first : Bool)
    (ms : List Member) :
    markRanges (marks first ms) = ranges ms := by
  fun_induction ranges ms generalizing first with
  | case1 m last rest ih =>
      have hMarks :
          marks first (m :: .plain '-' :: last :: rest) =
            mark first (.plain '-' :: last :: rest) m
              :: .dash :: mark false rest last
              :: marks false rest := rfl
      rw [hMarks, markRanges, char_mark, char_mark, ih]
  | case2 m rest hRange ih =>
      rw [marks, markRanges_single, char_mark, ih]
      intro n tail hSame
      cases rest with
      | nil => simp [marks] at hSame
      | cons m' rest' =>
          rw [marks, List.cons.injEq] at hSame
          rcases hSame with ⟨hDash, hTail⟩
          rw [mark_eq_dash_iff] at hDash
          rcases hDash with ⟨rfl, _, hMore⟩
          cases rest' with
          | nil => exact hMore rfl
          | cons last rest'' => exact hRange last rest'' rfl
  | case3 => rfl

------------------------------------------------------------
-- Operands
------------------------------------------------------------

/-
  The marks before the first two dashes in a row, and the
  marks after each such pair up to the next one.
-/
def operands : List Mark → List Mark × List (List Mark)
  | [] => ([], [])
  | .dash :: .dash :: ms =>
      ([], (operands ms).1 :: (operands ms).2)
  | m :: ms => (m :: (operands ms).1, (operands ms).2)

theorem operands_cons
    (m : Mark)
    {ms : List Mark}
    (hDashes : ∀ tail, m = .dash → ms ≠ .dash :: tail) :
    operands (m :: ms) =
      (m :: (operands ms).1, (operands ms).2) := by
  rw [operands.eq_3]
  intro tail hDash hSame
  exact hDashes tail hDash hSame

/- The first operand starts as the marks do. -/
theorem eq_cons_of_operands
    {m : Mark}
    {ms tail : List Mark}
    (hFirst : (operands ms).1 = m :: tail) :
    ∃ rest,
      ms = m :: rest ∧
        tail = (operands rest).1 ∧
        ∀ others, m = .dash → rest ≠ .dash :: others := by
  unfold operands at hFirst
  split at hFirst
  · simp at hFirst
  · simp at hFirst
  · next m' rest hDashes =>
      simp only [List.cons.injEq] at hFirst
      rcases hFirst with ⟨rfl, rfl⟩
      exact
        ⟨rest, rfl, rfl, fun others hDash hSame =>
          hDashes others hDash hSame⟩

/- Marks without two dashes in a row are one operand. -/
theorem operands_of_apart
    (ms : List Mark)
    (hApart : ¬ HasDoubleMark ms) :
    operands ms = (ms, []) := by
  fun_induction operands ms with
  | case1 => rfl
  | case2 ms ih => exact absurd ⟨[], ms, rfl⟩ hApart
  | case3 m ms hDashes ih =>
      rw [ih fun hDouble => hApart (hDouble.cons m)]

/- Whether a range is not reversed. -/
def isOrdered
    (r : CharRange) : Bool :=
  r.first ≤ r.last

theorem isOrdered_single
    (c : Char) :
    isOrdered (.single c) = true := by
  unfold isOrdered CharRange.single
  exact decide_eq_true (Char.le_refl c)

/- Whether no range of some marks is reversed. -/
def marksOrdered
    (ms : List Mark) : Bool :=
  (markRanges ms).all isOrdered

theorem marksOrdered_range
    (m : Mark)
    (last : Char)
    (ms : List Mark) :
    marksOrdered (m :: .dash :: .member last :: ms) =
      (isOrdered ⟨m.char, last⟩ && marksOrdered ms) := rfl

/- Whether a character lies in a range of some marks. -/
def marksContain
    (c : Char)
    (ms : List Mark) : Bool :=
  (markRanges ms).any (·.contains c)

/- Whether no range of an operand is reversed. -/
def operandsOrdered
    (ms : List Mark) : Bool :=
  marksOrdered (operands ms).1
    && (operands ms).2.all marksOrdered

/-
  Whether a character lies in the first operand and in no
  other.
-/
def operandsContain
    (c : Char)
    (ms : List Mark) : Bool :=
  marksContain c (operands ms).1
    && !(operands ms).2.any (marksContain c)

------------------------------------------------------------
-- Classes
------------------------------------------------------------

/-
  A mark that starts no range in the marks starts none in
  their first operand.
-/
theorem markRanges_operands_cons
    (m : Mark)
    {ms : List Mark}
    (hRange : ∀ last tail, ms ≠ .dash :: .member last :: tail) :
    markRanges (m :: (operands ms).1) =
      .single m.char :: markRanges (operands ms).1 := by
  apply markRanges_single
  intro n tail hFirst
  rcases eq_cons_of_operands hFirst with
    ⟨rest, rfl, hTail, hSingle⟩
  rcases eq_cons_of_operands hTail.symm with ⟨others, rfl, _⟩
  cases n with
  | dash => exact hSingle others rfl rfl
  | member last => exact hRange last others rfl

/- A range of the marks is one of their first operand. -/
theorem operands_range
    {m : Mark}
    (last : Char)
    (ms : List Mark)
    (hMember : m ≠ .dash) :
    operands (m :: .dash :: .member last :: ms) =
      (m :: .dash :: .member last :: (operands ms).1,
        (operands ms).2) := by
  have hLast :
      operands (.member last :: ms) =
        (.member last :: (operands ms).1,
          (operands ms).2) := by
    apply operands_cons
    intro tail hSame
    cases hSame
  have hDash :
      operands (.dash :: .member last :: ms) =
        (.dash :: .member last :: (operands ms).1,
          (operands ms).2) := by
    rw [operands_cons, hLast]
    intro tail _ hSame
    cases hSame
  rw [operands_cons, hDash]
  intro tail hSame
  exact absurd hSame hMember

/-
  Marks are read as a class if no range of an operand is
  reversed.
-/
theorem readMarks_eq_none_iff
    (k : OpenClass)
    (ms : List Mark) :
    readMarks k ms = none ↔ operandsOrdered ms = false := by
  fun_induction readMarks k ms with
  | case1 k =>
      simp [operandsOrdered, operands, marksOrdered, markRanges]
  | case2 k ms ih =>
      rw [ih]
      simp [operandsOrdered, operands, marksOrdered, markRanges]
  | case3 k m last ms hDashes hOrder ih =>
      have hFirst : isOrdered ⟨m.char, last⟩ = true := by
        simpa [isOrdered] using hOrder
      rw [ih, operandsOrdered, operandsOrdered,
        operands_range last ms hDashes, marksOrdered_range,
        hFirst, Bool.true_and]
  | case4 k m last ms hDashes hOrder =>
      have hFirst : isOrdered ⟨m.char, last⟩ = false := by
        simpa [isOrdered] using hOrder
      rw [operandsOrdered, operands_range last ms hDashes,
        marksOrdered_range, hFirst, Bool.false_and,
        Bool.false_and]
      exact ⟨fun _ => rfl, fun _ => rfl⟩
  | case5 k m ms hDashes hRange ih =>
      rw [ih, operandsOrdered, operandsOrdered,
        operands_cons m hDashes, marksOrdered, marksOrdered,
        markRanges_operands_cons m hRange, List.all_cons,
        isOrdered_single, Bool.true_and]

/- A class with more ranges as its members. -/
def addRanges
    (k : OpenClass)
    (rs : List CharRange) : OpenClass :=
  rs.foldl (fun k r => k.add (.range r)) k

/- Ranges are added to the members and nothing else. -/
theorem addRanges_eq
    (k : OpenClass)
    (rs : List CharRange) :
    addRanges k rs =
      { k with members := (addRanges k rs).members } := by
  induction rs generalizing k with
  | nil => rfl
  | cons r rs ih => exact ih (k.add (.range r))

/- The ranges that were added hold their characters. -/
theorem contains_addRanges
    (k : OpenClass)
    (rs : List CharRange)
    (c : Char) :
    (addRanges k rs).members.contains c =
      (k.members.contains c || rs.any (·.contains c)) := by
  induction rs generalizing k with
  | nil => rw [List.any_nil, Bool.or_false]; rfl
  | cons r rs ih =>
      have hAdd :
          addRanges k (r :: rs) =
            addRanges (k.add (.range r)) rs := rfl
      rw [hAdd, ih, List.any_cons, ← Bool.or_assoc]
      rfl

/- An operand that is taken away is no longer held. -/
theorem contains_operate
    (k : OpenClass)
    (rs : List CharRange)
    (c : Char) :
    (addRanges (k.operate .difference) rs).value.contains c =
      (k.value.contains c && !rs.any (·.contains c)) := by
  have hMembers :=
    contains_addRanges (k.operate .difference) rs c
  have hEmpty :
      (k.operate .difference).members.contains c = false :=
    rfl
  rw [hEmpty, Bool.false_or] at hMembers
  rw [addRanges_eq, ← hMembers]
  rfl

/-
  A class that was read holds what it held with the ranges
  of the first operand, without those of the others.
-/
theorem contains_readMarks
    {k k' : OpenClass}
    {ms : List Mark}
    (hRead : readMarks k ms = some k')
    (c : Char) :
    k'.negated = k.negated ∧
      k'.value.contains c =
        ((addRanges k
            (markRanges (operands ms).1)).value.contains c
          && !(operands ms).2.any (marksContain c)) := by
  fun_induction readMarks k ms with
  | case1 k =>
      cases hRead
      simp [operands, markRanges, addRanges]
  | case2 k ms ih =>
      rcases ih hRead with ⟨hNegated, hContains⟩
      refine ⟨hNegated, ?_⟩
      have hFirst :
          marksContain c (operands ms).1 =
            (markRanges (operands ms).1).any
              (·.contains c) := rfl
      rw [hContains, contains_operate, operands,
        List.any_cons, hFirst, Bool.not_or, Bool.and_assoc]
      rfl
  | case3 k m last ms hDashes hOrder ih =>
      rw [operands_range last ms hDashes]
      exact ih hRead
  | case4 k m last ms hDashes hOrder => simp at hRead
  | case5 k m ms hDashes hRange ih =>
      rw [operands_cons m hDashes]
      simp only
      rw [markRanges_operands_cons m hRange]
      exact ih hRead

/-
  The set of a class holds the characters of its operands,
  or all others.
-/
theorem markedSet_operands
    (negated : Bool)
    (ms : List Mark) :
    (markedSet negated ms = none ↔
        operandsOrdered ms = false) ∧
      ∀ set,
        markedSet negated ms = some set →
        ∀ c,
          set.contains c = (operandsContain c ms != negated) := by
  unfold markedSet
  refine ⟨?_, ?_⟩
  · rw [Option.map_eq_none_iff, readMarks_eq_none_iff]
  · intro set hSet c
    rw [Option.map_eq_some_iff] at hSet
    rcases hSet with ⟨k, hRead, rfl⟩
    rcases contains_readMarks hRead c with
      ⟨hNegated, hContains⟩
    have hMembers :=
      contains_addRanges (emptyClass negated)
        (markRanges (operands ms).1) c
    have hValue :
        k.value.contains c = operandsContain c ms := by
      rw [hContains, addRanges_eq, operandsContain,
        marksContain]
      simpa [emptyClass, OpenClass.value, CharSet.contains]
        using congrArg (· && _) hMembers
    rw [OpenClass.close, hNegated, ← hValue]
    cases negated with
    | false => simp [emptyClass]
    | true => simp [emptyClass, CharSet.contains]

/-
  The set of a class without neighbouring dashes holds the
  characters of its ranges, or all others.
-/
theorem markedSet_of_apart
    (negated : Bool)
    (ms : List Mark)
    (hApart : ¬ HasDoubleMark ms) :
    (markedSet negated ms = none ↔
        (markRanges ms).all isOrdered = false) ∧
      ∀ set,
        markedSet negated ms = some set →
        ∀ c,
          set.contains c =
            ((markRanges ms).any (·.contains c) != negated) := by
  have hSet := markedSet_operands negated ms
  unfold operandsOrdered operandsContain at hSet
  rw [operands_of_apart ms hApart] at hSet
  simpa [marksOrdered, marksContain] using hSet

end Glob
end WorkspaceClient
