import WorkspaceClient.Regex.CharSet

/-
  This file defines the symbols of a regular expression and
  the reading of a bracket class.

  A class is the union of its members, which are characters,
  ranges and nested classes. Two ampersands, dashes or
  tildes in a row are an operator between what stands before
  them and what comes up to the next operator. Operators
  bind from the left.

  Named classes such as `[:alpha:]` are not read.

  Key definitions include:
    * `Regex.Symbol`
    * `Regex.symbols?`
    * `Regex.nextPart`
    * `Regex.OpenClass`
    * `Regex.readClass`
-/

namespace WorkspaceClient
namespace Regex

------------------------------------------------------------
-- Symbols
------------------------------------------------------------

/- The characters that can be escaped. -/
def metaChars : List Char :=
  ['\\', '.', '+', '*', '?', '(', ')', '|', '[', ']', '\x7b',
    '\x7d', '^', '$', '#', '&', '-', '~']

/- Whether a character can be escaped. -/
def isMeta
    (c : Char) : Bool :=
  metaChars.contains c

/- A character with a backslash before it, or without. -/
inductive Symbol where
  | plain (c : Char)
  | escaped (c : Char)
  deriving DecidableEq, Repr

/- The character of a symbol. -/
def Symbol.char : Symbol → Char
  | plain c => c
  | escaped c => c

/-
  The symbols of a text. Only characters with a meaning of
  their own are read after a backslash.
-/
def symbols? : List Char → Option (List Symbol)
  | [] => some []
  | ['\\'] => none
  | '\\' :: c :: rest =>
      if isMeta c then
        (.escaped c :: ·) <$> symbols? rest
      else
        none
  | c :: rest => (.plain c :: ·) <$> symbols? rest

------------------------------------------------------------
-- Parts of a class
------------------------------------------------------------

/- The parts of a class after its opening bracket. -/
inductive ClassPart where
  | range (r : CharRange)
  | operator (op : SetOperator)
  | opening
  | closing
  deriving DecidableEq, Repr

/-
  The last character of a range, after its first one, and
  the symbols after the range. A dash before the end of the
  class or before another dash makes no range.
-/
def rangeEnd? : List Symbol → Option (Char × List Symbol)
  | .plain '-' :: .plain ']' :: _ => none
  | .plain '-' :: .plain '-' :: _ => none
  | .plain '-' :: last :: rest => some (last.char, rest)
  | _ => none

/-
  The next part of a class and the symbols after it. There
  is none when a range is reversed, or a named class begins.
-/
def nextPart : List Symbol → Option (ClassPart × List Symbol)
  | [] => none
  | .plain ']' :: rest => some (.closing, rest)
  | .plain '[' :: .plain ':' :: _ => none
  | .plain '[' :: rest => some (.opening, rest)
  | .plain '&' :: .plain '&' :: rest =>
      some (.operator .intersection, rest)
  | .plain '-' :: .plain '-' :: rest =>
      some (.operator .difference, rest)
  | .plain '~' :: .plain '~' :: rest =>
      some (.operator .symmetricDifference, rest)
  | first :: rest =>
      match rangeEnd? rest with
      | some (last, after) =>
          if first.char ≤ last then
            some (.range ⟨first.char, last⟩, after)
          else
            none
      | none => some (.range (.single first.char), rest)

theorem length_rangeEnd?
    {cs after : List Symbol}
    {last : Char}
    (h : rangeEnd? cs = some (last, after)) :
    after.length < cs.length := by
  unfold rangeEnd? at h
  split at h
  · simp at h
  · simp at h
  · simp only [Option.some.injEq, Prod.mk.injEq] at h
    rw [← h.2]
    simp only [List.length_cons]
    omega
  · simp at h

/- Every part has a symbol. -/
theorem length_nextPart
    {cs after : List Symbol}
    {part : ClassPart}
    (h : nextPart cs = some (part, after)) :
    after.length < cs.length := by
  unfold nextPart at h
  split at h <;>
    try simp only [Option.some.injEq, Prod.mk.injEq,
      reduceCtorEq] at h
  all_goals
    first
    | rw [← h.2]
      simp only [List.length_cons]
      omega
    | skip
  split at h
  · next last after' hEnd =>
      have hLength := length_rangeEnd? hEnd
      split at h
      · simp only [Option.some.injEq, Prod.mk.injEq] at h
        rw [← h.2, List.length_cons]
        omega
      · simp at h
  · simp only [Option.some.injEq, Prod.mk.injEq] at h
    rw [← h.2, List.length_cons]
    omega

------------------------------------------------------------
-- Open classes
------------------------------------------------------------

/-
  A class that is being read: the operand and the operator
  before the members that are collected.
-/
structure OpenClass where
  negated : Bool
  left : Option (CharSet × SetOperator)
  members : CharSet
  deriving DecidableEq, Repr

namespace OpenClass

/- The class with one more member. -/
def add
    (s : CharSet)
    (k : OpenClass) : OpenClass :=
  { k with members := k.members.union s }

/- What the operators so far leave of a class. -/
def value
    (k : OpenClass) : CharSet :=
  match k.left with
  | none => k.members
  | some (s, op) => .combination op s k.members

/- The class with one more operator. -/
def operate
    (op : SetOperator)
    (k : OpenClass) : OpenClass :=
  { k with
    left := some (k.value, op)
    members := .empty }

/- The set of a class that is closed. -/
def close
    (k : OpenClass) : CharSet :=
  if k.negated then .complement k.value else k.value

end OpenClass

/- The dashes at the front are members of a class. -/
def readDashes
    (k : OpenClass) :
    List Symbol → OpenClass × List Symbol
  | .plain '-' :: rest =>
      readDashes (k.add (.single '-')) rest
  | rest => (k, rest)

/-
  A bracket that would close a class without members is a
  member.
-/
def readBracket
    (k : OpenClass) :
    List Symbol → OpenClass × List Symbol
  | .plain ']' :: rest =>
      if k.members = .empty then
        (k.add (.single ']'), rest)
      else
        (k, .plain ']' :: rest)
  | rest => (k, rest)

/- The start of a class after its sign. -/
def readUnsigned
    (negated : Bool)
    (cs : List Symbol) : OpenClass × List Symbol :=
  let (k, rest) :=
    readDashes { negated, left := none, members := .empty } cs
  readBracket k rest

/- The start of a class after its opening bracket. -/
def readStart : List Symbol → OpenClass × List Symbol
  | .plain '^' :: rest => readUnsigned true rest
  | cs => readUnsigned false cs

theorem length_readDashes
    (k : OpenClass)
    (cs : List Symbol) :
    (readDashes k cs).2.length ≤ cs.length := by
  fun_induction readDashes k cs with
  | case1 k rest ih =>
      rw [List.length_cons]
      omega
  | case2 => exact Nat.le_refl _

theorem length_readBracket
    (k : OpenClass)
    (cs : List Symbol) :
    (readBracket k cs).2.length ≤ cs.length := by
  unfold readBracket
  split
  · split
    · exact Nat.le_succ _
    · exact Nat.le_refl _
  · exact Nat.le_refl _

theorem length_readUnsigned
    (negated : Bool)
    (cs : List Symbol) :
    (readUnsigned negated cs).2.length ≤ cs.length :=
  Nat.le_trans (length_readBracket _ _)
    (length_readDashes _ _)

theorem length_readStart
    (cs : List Symbol) :
    (readStart cs).2.length ≤ cs.length := by
  unfold readStart
  split
  · exact Nat.le_succ_of_le (length_readUnsigned true _)
  · exact length_readUnsigned false _

------------------------------------------------------------
-- Classes
------------------------------------------------------------

/-
  The set of a class that is being read inside others, and
  the symbols after the last closing bracket.
-/
def readClass
    (outer : List OpenClass)
    (inner : OpenClass)
    (cs : List Symbol) : Option (CharSet × List Symbol) :=
  match _h : nextPart cs with
  | none => none
  | some (.range r, rest) =>
      readClass outer (inner.add (.range r)) rest
  | some (.operator op, rest) =>
      readClass outer (inner.operate op) rest
  | some (.opening, rest) =>
      readClass (inner :: outer) (readStart rest).1
        (readStart rest).2
  | some (.closing, rest) =>
      match outer with
      | [] => some (inner.close, rest)
      | k :: outer => readClass outer (k.add inner.close) rest
termination_by cs.length
decreasing_by
  all_goals have hLength := length_nextPart _h
  · exact hLength
  · exact hLength
  · exact Nat.lt_of_le_of_lt (length_readStart rest) hLength
  · exact hLength

end Regex
end WorkspaceClient
