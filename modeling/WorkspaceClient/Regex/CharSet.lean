/-
  This file defines the sets of characters that the parts of
  a regular expression denote.

  Key definitions include:
    * `Regex.CharRange`
    * `Regex.SetOperator`
    * `Regex.CharSet`
    * `Regex.CharSet.contains`
-/

namespace WorkspaceClient
namespace Regex

------------------------------------------------------------
-- Ranges
------------------------------------------------------------

/- The characters from `first` to `last`, both included. -/
structure CharRange where
  first : Char
  last : Char
  deriving DecidableEq, Repr

/- Whether a range holds a character. -/
def CharRange.contains
    (r : CharRange)
    (c : Char) : Bool :=
  r.first ≤ c && c ≤ r.last

/- The range of one character. -/
def CharRange.single
    (c : Char) : CharRange :=
  ⟨c, c⟩

------------------------------------------------------------
-- Sets
------------------------------------------------------------

/- The operators between two sets. -/
inductive SetOperator where
  | intersection
  | difference
  | symmetricDifference
  deriving DecidableEq, Repr

/- Whether a character in one, both or no set is kept. -/
def SetOperator.apply
    (isLeft isRight : Bool) : SetOperator → Bool
  | intersection => isLeft && isRight
  | difference => isLeft && !isRight
  | symmetricDifference => isLeft != isRight

/- A set of characters as it is composed. -/
inductive CharSet where
  | empty
  | range (r : CharRange)
  | union (s t : CharSet)
  | combination (op : SetOperator) (s t : CharSet)
  | complement (s : CharSet)
  deriving DecidableEq, Repr

namespace CharSet

/- Whether a set holds a character. -/
def contains
    (c : Char) : CharSet → Bool
  | empty => false
  | range r => r.contains c
  | union s t => s.contains c || t.contains c
  | combination op s t =>
      op.apply (s.contains c) (t.contains c)
  | complement s => !s.contains c

/- The set of one character. -/
def single
    (c : Char) : CharSet :=
  .range (.single c)

/- The set of all characters. -/
def all : CharSet :=
  .complement .empty

end CharSet
end Regex
end WorkspaceClient
