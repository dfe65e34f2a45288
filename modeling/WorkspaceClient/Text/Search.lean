/-
  This file defines searching a text for a part, cutting a
  text at a part, and reading decimal digits.

  Key definitions include:
    * `Text.occurs`
    * `Text.contains`
    * `Text.splitOn`
    * `Text.splitAtFirst`
    * `Text.join`
    * `Text.digitsToNat`
-/

namespace WorkspaceClient
namespace Text

------------------------------------------------------------
-- Occurrence
------------------------------------------------------------

/-
  A part occurs in a list when the list starts with it, or
  when it occurs in the tail.
-/
def occurs
    {α : Type}
    [BEq α]
    (part : List α) : List α → Bool
  | [] => part.isEmpty
  | x :: xs => part.isPrefixOf (x :: xs) || occurs part xs

/- Whether the text `s` has the text `part` inside. -/
def contains
    (s part : String) : Bool :=
  occurs part.toList s.toList

/- Whether the text `s` starts with `part`. -/
def startsWith
    (s part : String) : Bool :=
  part.toList.isPrefixOf s.toList

------------------------------------------------------------
-- Cutting
------------------------------------------------------------

/-
  Cut a list at every occurrence of a separator, found from
  left to right and without overlap.

  The number `skip` counts the separator characters still to
  be passed over, and `piece` holds the current piece in
  reverse.
-/
def splitLoop
    (separator : List Char)
    (skip : Nat)
    (piece : List Char) : List Char → List (List Char)
  | [] => [piece.reverse]
  | c :: cs =>
      match skip with
      | n + 1 => splitLoop separator n piece cs
      | 0 =>
          if separator.isPrefixOf (c :: cs) then
            piece.reverse
              :: splitLoop separator (separator.length - 1) [] cs
          else
            splitLoop separator 0 (c :: piece) cs

/-
  The pieces of a list between the occurrences of a nonempty
  separator.
-/
def splitOn
    (separator cs : List Char) : List (List Char) :=
  splitLoop separator 0 [] cs

/-
  The part of a list before the first element that satisfies
  `p`, and the part after it when there is one.
-/
def splitAtFirst
    {α : Type}
    (p : α → Bool) : List α → List α × Option (List α)
  | [] => ([], none)
  | x :: xs =>
      if p x then
        ([], some xs)
      else
        let (before, after) := splitAtFirst p xs
        (x :: before, after)

/- Join texts with a separator between them. -/
def join
    (separator : String)
    (parts : List String) : String :=
  String.intercalate separator parts

------------------------------------------------------------
-- Digits
------------------------------------------------------------

/- The number written by a list of decimal digits. -/
def digitsToNat
    (cs : List Char) : Nat :=
  cs.foldl (fun n c => 10 * n + (c.toNat - 48)) 0

/- The lower-case hexadecimal digits of a number. -/
def hexText
    (n : Nat) : String :=
  String.ofList (Nat.toDigits 16 n)

/- The value of a hexadecimal digit. -/
def hexValue?
    (c : Char) : Option Nat :=
  if '0' ≤ c && c ≤ '9' then
    some (c.toNat - 48)
  else if 'a' ≤ c && c ≤ 'f' then
    some (c.toNat - 87)
  else if 'A' ≤ c && c ≤ 'F' then
    some (c.toNat - 55)
  else
    none

end Text
end WorkspaceClient
