import WorkspaceClient.Regex.Class

/-
  This file defines regular expressions that are a single
  anchored group, how they are read, and how they match a
  text.

  Only expressions of the form `^(?s: ... )$` are read whose
  group is a sequence of sets of characters, each of which
  may be repeated by a star. With the flag `s` the dot
  stands for every character. The anchors make the group
  match the whole text.

  Matching keeps, for every place between two characters of
  the text, whether the items read so far can match exactly
  the text up to there.

  Key definitions include:
    * `Regex.Item`
    * `Regex.readItems`
    * `Regex`
    * `Regex.read?`
    * `Regex.advance`
    * `Regex.isMatch`
-/

namespace WorkspaceClient
namespace Regex

------------------------------------------------------------
-- Items
------------------------------------------------------------

/- A character out of a set, or any number of them. -/
inductive Item where
  | one (set : CharSet)
  | many (set : CharSet)
  deriving DecidableEq, Repr

/- The characters that do not stand for themselves. -/
def operators : List Char :=
  ['\\', '.', '+', '*', '?', '(', ')', '|', '[', '\x7b', '^',
    '$']

/- The set that stands first, and the symbols after it. -/
def readSet : List Symbol → Option (CharSet × List Symbol)
  | [] => none
  | .plain '.' :: rest => some (.all, rest)
  | .plain '[' :: rest =>
      readClass [] (readStart rest).1 (readStart rest).2
  | .plain c :: rest =>
      if operators.contains c then
        none
      else
        some (.single c, rest)
  | .escaped c :: rest => some (.single c, rest)

/- A class leaves fewer symbols than it was given. -/
theorem length_readClass
    {outer : List OpenClass}
    {inner : OpenClass}
    {cs after : List Symbol}
    {set : CharSet}
    (h : readClass outer inner cs = some (set, after)) :
    after.length < cs.length := by
  fun_induction readClass outer inner cs with
  | case1 => simp at h
  | case2 outer inner cs r rest hPart ih =>
      have hLength := length_nextPart hPart
      have hRest := ih h
      omega
  | case3 outer inner cs op rest hPart ih =>
      have hLength := length_nextPart hPart
      have hRest := ih h
      omega
  | case4 outer inner cs rest hPart ih =>
      have hLength := length_nextPart hPart
      have hStart := length_readStart rest
      have hRest := ih h
      omega
  | case5 inner cs rest hPart =>
      have hLength := length_nextPart hPart
      simp only [Option.some.injEq, Prod.mk.injEq] at h
      rw [← h.2]
      exact hLength
  | case6 inner cs rest hPart k outer ih =>
      have hLength := length_nextPart hPart
      have hRest := ih h
      omega

/- A set has at least one symbol. -/
theorem length_readSet
    {cs after : List Symbol}
    {set : CharSet}
    (h : readSet cs = some (set, after)) :
    after.length < cs.length := by
  unfold readSet at h
  split at h
  · simp at h
  · simp only [Option.some.injEq, Prod.mk.injEq] at h
    rw [← h.2, List.length_cons]
    omega
  · next rest =>
      have hStart := length_readStart rest
      have hClass := length_readClass h
      rw [List.length_cons]
      omega
  · split at h
    · simp at h
    · simp only [Option.some.injEq, Prod.mk.injEq] at h
      rw [← h.2, List.length_cons]
      omega
  · simp only [Option.some.injEq, Prod.mk.injEq] at h
    rw [← h.2, List.length_cons]
    omega

/- The first item and the symbols after it. -/
def readItem
    (cs : List Symbol) : Option (Item × List Symbol) :=
  match readSet cs with
  | none => none
  | some (set, .plain '*' :: rest) => some (.many set, rest)
  | some (set, rest) => some (.one set, rest)

theorem length_readItem
    {cs after : List Symbol}
    {item : Item}
    (h : readItem cs = some (item, after)) :
    after.length < cs.length := by
  unfold readItem at h
  split at h
  · simp at h
  · next set rest hSet =>
      have hLength := length_readSet hSet
      simp only [Option.some.injEq, Prod.mk.injEq] at h
      rw [← h.2]
      rw [List.length_cons] at hLength
      omega
  · next set rest _ hSet =>
      have hLength := length_readSet hSet
      simp only [Option.some.injEq, Prod.mk.injEq] at h
      rw [← h.2]
      exact hLength

/- The items up to the end of the group and of the text. -/
def readItems
    (cs : List Symbol) : Option (List Item) :=
  if cs = [.plain ')', .plain '$'] then
    some []
  else
    match _h : readItem cs with
    | none => none
    | some (item, rest) => (item :: ·) <$> readItems rest
termination_by cs.length
decreasing_by exact length_readItem _h

end Regex

------------------------------------------------------------
-- Expressions
------------------------------------------------------------

/- An anchored sequence of items. -/
structure Regex where
  items : List Regex.Item
  deriving DecidableEq, Repr

namespace Regex

/- Read an expression. -/
def read?
    (text : List Char) : Option Regex := do
  match ← symbols? text with
  | .plain '^' :: .plain '(' :: .plain '?' :: .plain 's'
      :: .plain ':' :: rest =>
      return { items := ← readItems rest }
  | _ => none

------------------------------------------------------------
-- Matching
------------------------------------------------------------

/-
  The places reached by one more character: behind every
  reached place whose next character is in the set.
-/
def shift
    (set : CharSet) : List Char → List Bool → List Bool
  | c :: cs, b :: rest =>
      (b && set.contains c) :: shift set cs rest
  | _, _ => []

/-
  The places reached by any number of characters of a set:
  a reached place, and the place behind the next character
  if that is in the set. The flag tells whether the first
  place has been reached from the one before.
-/
def spread
    (set : CharSet)
    (seen : Bool) : List Char → List Bool → List Bool
  | c :: cs, b :: rest =>
      (seen || b)
        :: spread set ((seen || b) && set.contains c) cs rest
  | [], b :: _ => [seen || b]
  | _, [] => []

/- The places reached after one more item. -/
def advance
    (text : List Char)
    (places : List Bool) : Item → List Bool
  | .one set => false :: shift set text places
  | .many set => spread set false text places

/- Before any item only the start of the text is reached. -/
def startPlaces
    (text : List Char) : List Bool :=
  true :: text.map fun _ => false

/- Whether an expression matches a text. -/
def isMatch
    (regex : Regex)
    (text : List Char) : Bool :=
  (regex.items.foldl (advance text)
    (startPlaces text)).getLastD false

end Regex
end WorkspaceClient
