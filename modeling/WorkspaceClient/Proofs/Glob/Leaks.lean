import WorkspaceClient.Proofs.Glob.Faithful

/-
  This file shows when the class of an expression differs
  from the ranges of the class that it was written for. It
  does when two connecting dashes are neighbours, because
  they are read as an operator that takes characters away.

  Nothing else that is written inside a class can be read as
  an operator or as another class.

  Key definitions include:
    * `Glob.Leaks`
    * `Glob.OperandsAgree`
    * `Glob.Agrees`

  Main declarations:
    * `Glob.operandsAgree_iff`
    * `Glob.compile_class`
    * `Glob.agrees_iff`
-/

namespace WorkspaceClient
namespace Glob

open Regex
open Text (Cut)

------------------------------------------------------------
-- Leaks
------------------------------------------------------------

/-
  Whether a body has two dashes in a row, without
  backslashes, with members before them and after them.
-/
def Leaks
    (ms : List Member) : Prop :=
  ∃ before after,
    ms = before ++ .plain '-' :: .plain '-' :: after ∧
      before ≠ [] ∧ after ≠ []

theorem hasDoubleMark_iff_leaks
    (ms : List Member) :
    HasDoubleMark (marks true ms) ↔ Leaks ms := by
  rw [hasDoubleMark_marks_iff]
  simp [Leaks]

theorem Leaks.ne_nil
    {ms : List Member}
    (h : Leaks ms) :
    ms ≠ [] := by
  rcases h with ⟨before, after, rfl, _, _⟩
  simp

------------------------------------------------------------
-- The last member
------------------------------------------------------------

/- The last mark of a body is a member. -/
theorem getLast?_marks
    (first : Bool)
    {ms : List Member}
    (hMembers : ms ≠ []) :
    ∃ c, (marks first ms).getLast? = some (.member c) := by
  induction ms generalizing first with
  | nil => exact absurd rfl hMembers
  | cons m ms ih =>
      rw [marks, List.getLast?_cons]
      cases ms with
      | nil =>
          refine ⟨m.char, ?_⟩
          cases m with
          | escaped c => rfl
          | plain c => simp [marks, mark, Member.char]
      | cons m' ms' =>
          rcases ih false (by simp) with ⟨c, hLast⟩
          exact ⟨c, by rw [hLast]; rfl⟩

/- A range holds its last character if it is not reversed. -/
theorem contains_last_of_isOrdered
    {r : CharRange}
    (hOrder : isOrdered r = true) :
    r.contains r.last = true := by
  unfold CharRange.contains
  rw [Bool.and_eq_true]
  exact ⟨hOrder, decide_eq_true (Char.le_refl _)⟩

/- The last member lies in a range if none is reversed. -/
theorem marksContain_last
    {ms : List Mark}
    {c : Char}
    (hOrder : marksOrdered ms = true)
    (hLast : ms.getLast? = some (.member c)) :
    marksContain c ms = true := by
  unfold marksOrdered at hOrder
  unfold marksContain
  fun_induction markRanges ms with
  | case1 m last ms ih =>
      rw [List.all_cons, Bool.and_eq_true] at hOrder
      rw [List.getLast?_cons, List.getLast?_cons,
        List.getLast?_cons, Option.getD_some,
        Option.getD_some, Option.some.injEq] at hLast
      rw [List.any_cons, Bool.or_eq_true]
      cases hTail : ms.getLast? with
      | none =>
          rw [hTail, Option.getD_none] at hLast
          subst hLast
          exact .inl (contains_last_of_isOrdered hOrder.1)
      | some m' =>
          rw [hTail, Option.getD_some] at hLast
          subst hLast
          exact .inr (ih hOrder.2 hTail)
  | case2 m ms hRange ih =>
      rw [List.all_cons, Bool.and_eq_true] at hOrder
      rw [List.getLast?_cons, Option.some.injEq] at hLast
      rw [List.any_cons, Bool.or_eq_true]
      cases hTail : ms.getLast? with
      | none =>
          rw [hTail, Option.getD_none] at hLast
          subst hLast
          exact
            .inl
              (contains_last_of_isOrdered
                (isOrdered_single c))
      | some m' =>
          rw [hTail, Option.getD_some] at hLast
          subst hLast
          exact .inr (ih hOrder.2 hTail)
  | case3 => simp at hLast

/-
  The last member after two dashes in a row belongs to an
  operand that is taken away.
-/
theorem exists_operand_last
    {ms : List Mark}
    {m : Mark}
    (hDouble : HasDoubleMark ms)
    (hLast : ms.getLast? = some m)
    (hMember : m ≠ .dash) :
    ∃ o ∈ (operands ms).2, o.getLast? = some m := by
  fun_induction operands ms with
  | case1 => simp at hLast
  | case2 ms ih =>
      have hTail : ms.getLast? = some m := by
        rw [List.getLast?_cons, List.getLast?_cons,
          Option.getD_some, Option.some.injEq] at hLast
        cases hTail : ms.getLast? with
        | none =>
            rw [hTail, Option.getD_none] at hLast
            exact absurd hLast.symm hMember
        | some m' =>
            rw [hTail, Option.getD_some] at hLast
            rw [hLast]
      by_cases hMore : HasDoubleMark ms
      · rcases ih hMore hTail with ⟨o, hOperand, hEnd⟩
        exact ⟨o, List.mem_cons_of_mem _ hOperand, hEnd⟩
      · rw [operands_of_apart ms hMore]
        exact ⟨ms, List.mem_cons_self, hTail⟩
  | case3 m' ms hDashes ih =>
      have hRest : HasDoubleMark ms := by
        unfold HasDoubleMark at hDouble
        rw [List.infix_cons_iff] at hDouble
        rcases hDouble with hPrefix | hInfix
        · rw [List.cons_prefix_cons] at hPrefix
          rcases hPrefix with ⟨hDash, tail, hTail⟩
          exact absurd hTail.symm (hDashes tail hDash.symm)
        · exact hInfix
      apply ih hRest
      cases hTail : ms.getLast? with
      | none =>
          rw [List.getLast?_eq_none_iff] at hTail
          subst hTail
          simp [HasDoubleMark] at hRest
      | some n =>
          rw [List.getLast?_cons, hTail] at hLast
          exact hLast

------------------------------------------------------------
-- Operands of classes
------------------------------------------------------------

/-
  The operands of a class are what the class stands for: a
  range is reversed in one of them if one is in the body,
  and they hold the characters of the ranges.
-/
structure OperandsAgree
    (negated : Bool)
    (ms : List Member) : Prop where
  exists_iff :
    operandsOrdered (marks true ms) = true ↔ IsOrdered ms
  contains_iff :
    operandsOrdered (marks true ms) = true →
    ∀ c,
      (operandsContain c (marks true ms) != negated) = true ↔
        Accepts negated ms c

theorem operandsAgree_of_not_leaks
    (negated : Bool)
    {ms : List Member}
    (hApart : ¬ Leaks ms) :
    OperandsAgree negated ms := by
  rw [← hasDoubleMark_iff_leaks] at hApart
  have hOperands := operands_of_apart _ hApart
  refine ⟨?_, ?_⟩
  · rw [operandsOrdered, hOperands, marksOrdered,
      markRanges_marks, List.all_nil, Bool.and_true,
      isOrdered_iff]
  · intro _ c
    rw [operandsContain, hOperands, marksContain,
      markRanges_marks, List.any_nil, Bool.not_false,
      Bool.and_true, accepts_iff]

/-
  A leaking class that can be read does not hold its last
  member, which the ranges hold.
-/
theorem not_contains_last
    (negated : Bool)
    {ms : List Member}
    (hLeaks : Leaks ms)
    (hOrder : IsOrdered ms)
    (hOperands : operandsOrdered (marks true ms) = true) :
    ∃ c,
      ¬ ((operandsContain c (marks true ms) != negated) =
            true ↔
          Accepts negated ms c) := by
  rcases getLast?_marks true hLeaks.ne_nil with ⟨c, hLast⟩
  refine ⟨c, ?_⟩
  have hIn : (ranges ms).any (·.contains c) = true := by
    rw [← isOrdered_iff, ← markRanges_marks true] at hOrder
    rw [← markRanges_marks true]
    exact marksContain_last hOrder hLast
  have hOut : operandsContain c (marks true ms) = false := by
    rcases exists_operand_last
        ((hasDoubleMark_iff_leaks ms).mpr hLeaks) hLast
        (by simp) with
      ⟨o, hOperand, hEnd⟩
    unfold operandsOrdered at hOperands
    rw [Bool.and_eq_true, List.all_eq_true] at hOperands
    have hTaken :=
      marksContain_last (hOperands.2 o hOperand) hEnd
    unfold operandsContain
    rw [Bool.and_eq_false_iff, Bool.not_eq_false',
      List.any_eq_true]
    exact .inr ⟨o, hOperand, hTaken⟩
  rw [← accepts_iff, hIn, hOut]
  cases negated <;> decide

theorem operandsAgree_iff
    (negated : Bool)
    (ms : List Member) :
    OperandsAgree negated ms ↔
      ¬ Leaks ms ∨
        (¬ IsOrdered ms ∧
          operandsOrdered (marks true ms) = false) := by
  constructor
  · intro hAgrees
    by_cases hLeaks : Leaks ms
    · refine .inr ?_
      cases hOrder : operandsOrdered (marks true ms) with
      | false =>
          refine ⟨?_, rfl⟩
          rw [← hAgrees.exists_iff, hOrder]
          simp
      | true =>
          rcases not_contains_last negated hLeaks
              (hAgrees.exists_iff.mp hOrder) hOrder with
            ⟨c, hDiffers⟩
          exact
            absurd (hAgrees.contains_iff hOrder c) hDiffers
    · exact .inl hLeaks
  · rintro (hApart | ⟨hReversed, hNone⟩)
    · exact operandsAgree_of_not_leaks negated hApart
    · refine ⟨?_, ?_⟩
      · rw [hNone]
        simp [hReversed]
      · intro hSome
        rw [hNone] at hSome
        cases hSome

------------------------------------------------------------
-- Patterns of one class
------------------------------------------------------------

section

variable {source : String}
variable {negated : Bool}
variable {ms : List Member}

/- A class with a reversed range in an operand is no glob. -/
theorem compile_class_reversed
    (hReads :
      Reads 0 source.toList [.oneOf negated ms] .complete)
    (hOrder : operandsOrdered (marks true ms) = false) :
    compile source = .error .unreadable := by
  have hSet :=
    (markedSet_operands negated (marks true ms)).1.mpr hOrder
  apply compile_unreadable hReads
  rw [List.map_singleton, List.mapM_cons, Token.piece,
    Piece.item?, hSet]
  rfl

/-
  The glob of a class matches the single characters that are
  in the first operand and in no other, or all others.
-/
theorem compile_class
    (hReads :
      Reads 0 source.toList [.oneOf negated ms] .complete)
    (hOrder : operandsOrdered (marks true ms) = true) :
    ∃ glob,
      compile source = .ok glob ∧
        ∀ text,
          glob.isMatch text = true ↔
            ∃ c,
              text = String.singleton c ∧
                (operandsContain c (marks true ms) !=
                  negated) = true := by
  have hSets := markedSet_operands negated (marks true ms)
  cases hSet : markedSet negated (marks true ms) with
  | none =>
      rw [hSets.1.mp hSet] at hOrder
      cases hOrder
  | some set =>
      have hItems :
          ([Token.oneOf negated ms].map Token.piece).mapM
              Piece.item? = some [.one set] := by
        rw [List.map_singleton, List.mapM_cons, Token.piece,
          Piece.item?, hSet]
        rfl
      refine ⟨_, compile_items hReads hItems, ?_⟩
      intro text
      unfold Glob.isMatch
      rw [isMatch_iff, Text.cut_singleton_iff]
      constructor
      · rintro ⟨c, hText, hContains⟩
        rw [hSets.2 set hSet c] at hContains
        refine ⟨c, ?_, hContains⟩
        rw [← String.toList_inj, hText,
          String.toList_singleton]
      · rintro ⟨c, rfl, hContains⟩
        refine ⟨c, String.toList_singleton c, ?_⟩
        rw [hSets.2 set hSet c]
        exact hContains

/-
  A pattern that is a single class does what the class
  stands for.
-/
structure Agrees
    (source : String)
    (negated : Bool)
    (ms : List Member) : Prop where
  compiles :
    (∃ glob, compile source = .ok glob) ↔ IsOrdered ms
  accepts :
    ∀ glob,
      compile source = .ok glob →
      ∀ text,
        glob.isMatch text = true ↔
          ∃ c,
            text = String.singleton c ∧ Accepts negated ms c

/- Only the operands of the class matter. -/
theorem agrees_iff_operandsAgree
    (hReads :
      Reads 0 source.toList [.oneOf negated ms] .complete) :
    Agrees source negated ms ↔ OperandsAgree negated ms := by
  cases hOrder : operandsOrdered (marks true ms) with
  | false =>
      have hError := compile_class_reversed hReads hOrder
      constructor
      · rintro ⟨hCompiles, _⟩
        rw [hError] at hCompiles
        refine ⟨?_, ?_⟩
        · rw [← hCompiles, hOrder]
          simp
        · intro hSome
          rw [hOrder] at hSome
          cases hSome
      · rintro ⟨hExists, _⟩
        rw [hOrder] at hExists
        refine ⟨?_, ?_⟩
        · rw [← hExists, hError]
          simp
        · intro glob hOk
          rw [hError] at hOk
          cases hOk
  | true =>
      rcases compile_class hReads hOrder with
        ⟨glob, hGlob, hMatch⟩
      constructor
      · rintro ⟨hCompiles, hAccepts⟩
        refine ⟨?_, ?_⟩
        · rw [← hCompiles, hOrder, hGlob]
          simp
        · intro _ c
          have hSame :=
            (hMatch (String.singleton c)).symm.trans
              (hAccepts glob hGlob (String.singleton c))
          simpa [String.singleton_inj] using hSame
      · rintro ⟨hExists, hContains⟩
        refine ⟨?_, ?_⟩
        · rw [← hExists, hOrder, hGlob]
          simp
        · intro glob' hOk text
          rw [hGlob] at hOk
          cases hOk
          rw [hMatch text]
          constructor
          · rintro ⟨c, hText, hIn⟩
            exact ⟨c, hText, (hContains hOrder c).mp hIn⟩
          · rintro ⟨c, hText, hIn⟩
            exact ⟨c, hText, (hContains hOrder c).mpr hIn⟩

end

/-
  A class does what it stands for unless two connecting
  dashes are neighbours. It still does if it has a reversed
  range and an operand has one, too.
-/
theorem agrees_iff
    (source : String)
    (negated : Bool)
    (ms : List Member)
    (hReads :
      Reads 0 source.toList [.oneOf negated ms] .complete) :
    Agrees source negated ms ↔
      ¬ Leaks ms ∨
        (¬ IsOrdered ms ∧
          operandsOrdered (marks true ms) = false) := by
  rw [agrees_iff_operandsAgree hReads, operandsAgree_iff]

/-
  The range from `+` to a dash and a `z` are read as a `+`
  from which a `z` is taken away.
-/
theorem not_agrees_range_to_dash :
    Reads 0 "[+--z]".toList
        [.oneOf false
          [.plain '+', .plain '-', .plain '-', .plain 'z']]
        .complete ∧
      ¬ Agrees "[+--z]" false
        [.plain '+', .plain '-', .plain '-', .plain 'z'] := by
  have hText :
      "[+--z]".toList = ['[', '+', '-', '-', 'z', ']'] := rfl
  have hSign :
      ReadsSign ['+', '-', '-', 'z', ']'] false
        ['+', '-', '-', 'z', ']'] := by
    refine .unsigned ?_
    intro c rest hSame
    cases hSame
    decide
  have hBody :
      ReadsBody true ['+', '-', '-', 'z', ']']
        [.plain '+', .plain '-', .plain '-', .plain 'z']
        (.closed []) :=
    .plain true '+' (by decide) (by decide)
      (.plain false '-' (by decide) (by decide)
        (.plain false '-' (by decide) (by decide)
          (.plain false 'z' (by decide) (by decide)
            (.closed []))))
  have hReads :
      Reads 0 "[+--z]".toList
        [.oneOf false
          [.plain '+', .plain '-', .plain '-', .plain 'z']]
        .complete := by
    rw [hText]
    exact .oneOf hSign hBody (.nil _)
  refine ⟨hReads, ?_⟩
  rw [agrees_iff _ _ _ hReads]
  rintro (hApart | ⟨hReversed, _⟩)
  · exact hApart ⟨[.plain '+'], [.plain 'z'], rfl, by simp⟩
  · apply hReversed
    rw [← isOrdered_iff]
    decide

end Glob
end WorkspaceClient
