/-
  This file defines the blank characters of Unicode and the
  removal of blanks from both ends of a text.

  Key definitions include:
    * `Text.isBlank`
    * `Text.trimChars`
    * `Text.trim`
-/

namespace WorkspaceClient
namespace Text

------------------------------------------------------------
-- Blank characters
------------------------------------------------------------

/-
  The characters with the Unicode property White_Space.
-/
def isBlank
    (c : Char) : Bool :=
  let n := c.toNat
  (9 ≤ n && n ≤ 13) || n == 0x20 || n == 0x85 || n == 0xA0
    || n == 0x1680 || (0x2000 ≤ n && n ≤ 0x200A)
    || n == 0x2028 || n == 0x2029 || n == 0x202F
    || n == 0x205F || n == 0x3000

------------------------------------------------------------
-- Trimming
------------------------------------------------------------

/- Remove the blanks at both ends of a character list. -/
def trimChars
    (cs : List Char) : List Char :=
  ((cs.dropWhile isBlank).reverse.dropWhile isBlank).reverse

/- Remove the blanks at both ends of a text. -/
def trim
    (s : String) : String :=
  String.ofList (trimChars s.toList)

end Text
end WorkspaceClient
