import WorkspaceClient.Proofs.Glob.Writing

/-
  This file shows how a written class is read as a class of
  a regular expression. Its marks can be read directly: two
  dashes in a row take what comes after them away from what
  stands before them, and every other dash belongs to a
  range or stands for itself.

  Key definitions include:
    * `Glob.readMarks`

  Main declarations:
    * `Glob.readClass_marks`
    * `Glob.readSet_class`
-/

namespace WorkspaceClient
namespace Glob

open Regex

------------------------------------------------------------
-- Parts of a class
------------------------------------------------------------

section

variable {s : Symbol}
variable {rest : List Symbol}

/-
  A symbol starts a member if it neither opens nor closes a
  class and is not doubled to an operator.
-/
structure StartsMember
    (s : Symbol)
    (rest : List Symbol) : Prop where
  notClosing : s ≠ .plain ']'
  notOpening : s ≠ .plain '['
  notDoubled :
    ∀ c tail,
      s = .plain c → rest = .plain c :: tail →
        c ∉ ['&', '-', '~']

theorem nextPart_single
    (hStart : StartsMember s rest)
    (hEnd : rangeEnd? rest = none) :
    nextPart (s :: rest) =
      some (.range (.single s.char), rest) := by
  rw [nextPart.eq_8, hEnd]
  · exact hStart.notClosing
  · intro tail hSame
    exact absurd hSame hStart.notOpening
  · exact hStart.notOpening
  · intro tail hSame hRest
    exact hStart.notDoubled _ _ hSame hRest (by decide)
  · intro tail hSame hRest
    exact hStart.notDoubled _ _ hSame hRest (by decide)
  · intro tail hSame hRest
    exact hStart.notDoubled _ _ hSame hRest (by decide)

theorem nextPart_range
    {last : Char}
    {after : List Symbol}
    (hStart : StartsMember s rest)
    (hEnd : rangeEnd? rest = some (last, after)) :
    nextPart (s :: rest) =
      if s.char ≤ last then
        some (.range ⟨s.char, last⟩, after)
      else
        none := by
  rw [nextPart.eq_8, hEnd]
  · exact hStart.notClosing
  · intro tail hSame
    exact absurd hSame hStart.notOpening
  · exact hStart.notOpening
  · intro tail hSame hRest
    exact hStart.notDoubled _ _ hSame hRest (by decide)
  · intro tail hSame hRest
    exact hStart.notDoubled _ _ hSame hRest (by decide)
  · intro tail hSame hRest
    exact hStart.notDoubled _ _ hSame hRest (by decide)

end

------------------------------------------------------------
-- Marks
------------------------------------------------------------

/- The character that a mark shows. -/
def Mark.char : Mark → Char
  | member c => c
  | dash => '-'

@[simp] theorem Mark.char_symbol
    (m : Mark) :
    m.symbol.char = m.char := by
  cases m with
  | dash => rfl
  | member c =>
      simp only [Mark.symbol]
      split <;> rfl

/- A member is escaped if it could be something else. -/
theorem symbol_member_ne
    (c : Char)
    {d : Char}
    (hMeta : classMetaChars.contains d = true) :
    (Mark.member c).symbol ≠ .plain d := by
  intro hSame
  simp only [Mark.symbol] at hSame
  split at hSame
  · simp at hSame
  · next hPlain =>
      rw [Symbol.plain.injEq] at hSame
      subst hSame
      exact hPlain hMeta

theorem startsMember_member
    (c : Char)
    (rest : List Symbol) :
    StartsMember (Mark.member c).symbol rest where
  notClosing := symbol_member_ne c rfl
  notOpening := symbol_member_ne c rfl
  notDoubled := by
    intro d tail hSame _ hOperator
    refine symbol_member_ne c ?_ hSame
    simp only [List.mem_cons, List.not_mem_nil, or_false]
      at hOperator
    rcases hOperator with rfl | rfl | rfl <;> rfl

theorem startsMember_dash
    {rest : List Symbol}
    (hRest : ∀ tail, rest ≠ .plain '-' :: tail) :
    StartsMember Mark.dash.symbol rest where
  notClosing := by decide
  notOpening := by decide
  notDoubled := by
    intro d tail hSame hDouble _
    rw [Mark.symbol, Symbol.plain.injEq] at hSame
    subst hSame
    exact hRest tail hDouble

/-
  Read the marks of a class. There is no class when a range
  is reversed.
-/
def readMarks : OpenClass → List Mark → Option OpenClass
  | k, [] => some k
  | k, .dash :: .dash :: ms =>
      readMarks (k.operate .difference) ms
  | k, m :: .dash :: .member last :: ms =>
      if m.char ≤ last then
        readMarks (k.add (.range ⟨m.char, last⟩)) ms
      else
        none
  | k, m :: ms =>
      readMarks (k.add (.range (.single m.char))) ms

/- The symbols of marks and of the bracket after them. -/
def closedSymbols
    (ms : List Mark)
    (rest : List Symbol) : List Symbol :=
  ms.map Mark.symbol ++ .plain ']' :: rest

/- Only a dash and a member after it end a range. -/
theorem rangeEnd?_closedSymbols
    {ms : List Mark}
    (rest : List Symbol)
    (hRange : ∀ last tail, ms ≠ .dash :: .member last :: tail) :
    rangeEnd? (closedSymbols ms rest) = none := by
  cases ms with
  | nil =>
      rfl
  | cons m ms =>
      cases m with
      | member c =>
          have hFirst :=
            symbol_member_ne c (d := '-') rfl
          rw [rangeEnd?.eq_4]
          · intro tail hSame
            exact hFirst (List.cons.inj hSame).1
          · intro tail hSame
            exact hFirst (List.cons.inj hSame).1
          · intro last tail hSame
            exact hFirst (List.cons.inj hSame).1
      | dash =>
          cases ms with
          | nil => rfl
          | cons n ms =>
              cases n with
              | dash => rfl
              | member last => exact absurd rfl (hRange last ms)

theorem rangeEnd?_range
    (last : Char)
    (ms : List Mark)
    (rest : List Symbol) :
    rangeEnd?
        (closedSymbols (.dash :: .member last :: ms) rest) =
      some (last, closedSymbols ms rest) := by
  have hSymbols :
      closedSymbols (.dash :: .member last :: ms) rest =
        .plain '-' :: (Mark.member last).symbol
          :: closedSymbols ms rest := rfl
  rw [hSymbols, rangeEnd?.eq_3, Mark.char_symbol]
  · rfl
  · exact symbol_member_ne last rfl
  · exact symbol_member_ne last rfl

/-
  A mark starts a member unless it is the first of two
  dashes.
-/
theorem startsMember_symbol
    {m : Mark}
    {ms : List Mark}
    (rest : List Symbol)
    (hDashes : ∀ tail, m = .dash → ms ≠ .dash :: tail) :
    StartsMember m.symbol (closedSymbols ms rest) := by
  cases m with
  | member c => exact startsMember_member c _
  | dash =>
      apply startsMember_dash
      intro tail hSame
      cases ms with
      | nil => simp [closedSymbols] at hSame
      | cons n ms =>
          cases n with
          | dash => exact hDashes ms rfl rfl
          | member c =>
              exact
                symbol_member_ne c rfl
                  (List.cons.inj hSame).1

------------------------------------------------------------
-- Classes
------------------------------------------------------------

section

variable {outer : List OpenClass}
variable {k : OpenClass}
variable {cs rest : List Symbol}

theorem readClass_none
    (hPart : nextPart cs = none) :
    readClass outer k cs = none := by
  rw [readClass]
  split <;> simp_all

theorem readClass_range
    {r : CharRange}
    (hPart : nextPart cs = some (.range r, rest)) :
    readClass outer k cs =
      readClass outer (k.add (.range r)) rest := by
  rw [readClass]
  split <;> simp_all

theorem readClass_operator
    {op : SetOperator}
    (hPart : nextPart cs = some (.operator op, rest)) :
    readClass outer k cs =
      readClass outer (k.operate op) rest := by
  rw [readClass]
  split <;> simp_all

theorem readClass_closing
    (hPart : nextPart cs = some (.closing, rest)) :
    readClass [] k cs = some (k.close, rest) := by
  rw [readClass]
  split <;> simp_all

end

/- A written class is read by its marks. -/
theorem readClass_marks
    (k : OpenClass)
    (ms : List Mark)
    (rest : List Symbol) :
    readClass [] k (closedSymbols ms rest) =
      (readMarks k ms).map fun k => (k.close, rest) := by
  fun_induction readMarks k ms with
  | case1 k => exact readClass_closing rfl
  | case2 k ms ih =>
      have hPart :
          nextPart (closedSymbols (.dash :: .dash :: ms) rest) =
            some (.operator .difference,
              closedSymbols ms rest) := rfl
      rw [readClass_operator hPart, ih]
  | case3 k m last ms hDashes hOrder ih =>
      have hStart :
          StartsMember m.symbol
            (closedSymbols (.dash :: .member last :: ms)
              rest) := by
        apply startsMember_symbol
        intro tail hDash
        exact absurd hDash hDashes
      have hPart :=
        nextPart_range hStart (rangeEnd?_range last ms rest)
      rw [Mark.char_symbol, if_pos hOrder] at hPart
      exact (readClass_range hPart).trans ih
  | case4 k m last ms hDashes hOrder =>
      have hStart :
          StartsMember m.symbol
            (closedSymbols (.dash :: .member last :: ms)
              rest) := by
        apply startsMember_symbol
        intro tail hDash
        exact absurd hDash hDashes
      have hPart :=
        nextPart_range hStart (rangeEnd?_range last ms rest)
      rw [Mark.char_symbol, if_neg hOrder] at hPart
      exact readClass_none hPart
  | case5 k m ms hDashes hRange ih =>
      have hStart :
          StartsMember m.symbol (closedSymbols ms rest) := by
        apply startsMember_symbol
        intro tail hDash hSame
        exact hDashes tail hDash hSame
      have hPart :=
        nextPart_single hStart
          (rangeEnd?_closedSymbols rest hRange)
      rw [Mark.char_symbol] at hPart
      exact (readClass_range hPart).trans ih

/- A class that has no members yet. -/
def emptyClass
    (negated : Bool) : OpenClass :=
  { negated, left := none, members := .empty }

/-
  A class starts with its members when the first of them is
  no dash.
-/
theorem readUnsigned_closedSymbols
    (negated : Bool)
    (c : Char)
    (ms : List Mark)
    (rest : List Symbol) :
    readUnsigned negated
        (closedSymbols (.member c :: ms) rest) =
      (emptyClass negated,
        closedSymbols (.member c :: ms) rest) := by
  have hDashes :
      ∀ k,
        readDashes k (closedSymbols (.member c :: ms) rest) =
          (k, closedSymbols (.member c :: ms) rest) := by
    intro k
    rw [readDashes.eq_2]
    intro tail hSame
    exact symbol_member_ne c rfl (List.cons.inj hSame).1
  unfold readUnsigned
  rw [hDashes]
  simp only
  rw [readBracket.eq_2]
  · rfl
  · intro tail hSame
    exact symbol_member_ne c rfl (List.cons.inj hSame).1

theorem readStart_classSymbols
    (negated : Bool)
    (c : Char)
    (ms : List Mark)
    (rest : List Symbol) :
    readStart
        (classSymbols negated (.member c :: ms) ++ rest) =
      (emptyClass negated,
        closedSymbols (.member c :: ms) rest) := by
  have hSymbols :
      classSymbols negated (.member c :: ms) ++ rest =
        (if negated then [.plain '^'] else [])
          ++ closedSymbols (.member c :: ms) rest := by
    unfold classSymbols closedSymbols
    simp only [List.append_assoc, List.singleton_append]
  rw [hSymbols]
  cases negated with
  | true =>
      exact readUnsigned_closedSymbols true c ms rest
  | false =>
      change readStart
        (closedSymbols (.member c :: ms) rest) = _
      rw [readStart.eq_2]
      · exact readUnsigned_closedSymbols false c ms rest
      · intro tail hSame
        exact symbol_member_ne c rfl (List.cons.inj hSame).1

/- The set of a class with these marks. -/
def markedSet
    (negated : Bool)
    (ms : List Mark) : Option CharSet :=
  (readMarks (emptyClass negated) ms).map OpenClass.close

/- A written class is read as the set of its marks. -/
theorem readSet_class
    (negated : Bool)
    (c : Char)
    (ms : List Mark)
    (rest : List Symbol) :
    readSet
        ((Piece.bracket negated (.member c :: ms)).symbols
          ++ rest) =
      (markedSet negated (.member c :: ms)).map
        fun set => (set, rest) := by
  have hSymbols :
      (Piece.bracket negated (.member c :: ms)).symbols
          ++ rest =
        .plain '['
          :: (classSymbols negated (.member c :: ms)
            ++ rest) := rfl
  rw [hSymbols, readSet, readStart_classSymbols,
    readClass_marks, markedSet, Option.map_map]
  rfl

end Glob
end WorkspaceClient
