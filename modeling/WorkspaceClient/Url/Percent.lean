import WorkspaceClient.Bytes.Basic
import WorkspaceClient.Text.Search

/-
  This file defines percent encoding: which characters the
  parts of a URL show as they are, and how the bytes of the
  others are written.

  Key definitions include:
    * `Url.encode`
    * `Url.decode`
    * `Url.isPathChar`
    * `Url.isQueryChar`
    * `Url.isFragmentChar`
    * `Url.isUserChar`
-/

namespace WorkspaceClient
namespace Url

------------------------------------------------------------
-- Encoding
------------------------------------------------------------

/- A byte as a percent sign and two digits. -/
def encodeByte
    (b : UInt8) : List Char :=
  ['%', (Nat.digitChar (b.toNat / 16)).toUpper,
    (Nat.digitChar (b.toNat % 16)).toUpper]

/- A character, encoded unless it may be shown. -/
def encodeChar
    (shown : Char → Bool)
    (c : Char) : List Char :=
  if shown c then
    [c]
  else
    (Bytes.ofText (String.singleton c)).flatMap encodeByte

/- A text with all characters encoded that are not shown. -/
def encode
    (shown : Char → Bool)
    (cs : List Char) : List Char :=
  cs.flatMap (encodeChar shown)

/- The bytes of a text with its encoded bytes decoded. -/
def decodeBytes : Bytes → Bytes
  | 0x25 :: a :: b :: rest =>
      match Text.hexValue? (Char.ofNat a.toNat),
          Text.hexValue? (Char.ofNat b.toNat) with
      | some x, some y =>
          UInt8.ofNat (16 * x + y) :: decodeBytes rest
      | _, _ => 0x25 :: decodeBytes (a :: b :: rest)
  | b :: rest => b :: decodeBytes rest
  | [] => []

/- A text with its encoded bytes decoded, if it is UTF-8. -/
def decode
    (cs : List Char) : Option (List Char) :=
  (Bytes.toText?
    (decodeBytes (Bytes.ofText (String.ofList cs)))).map
    String.toList

------------------------------------------------------------
-- Character sets
------------------------------------------------------------

/- A visible character of ASCII or the space. -/
def isPlain
    (c : Char) : Bool :=
  0x20 ≤ c.toNat && c.toNat < 0x7F

/- The characters that a query shows. -/
def isQueryChar
    (c : Char) : Bool :=
  isPlain c && !" \"#<>'".toList.contains c

/- The characters that a fragment shows. -/
def isFragmentChar
    (c : Char) : Bool :=
  isPlain c && !" \"<>\x60".toList.contains c

/- The characters that a path shows. -/
def isPathChar
    (c : Char) : Bool :=
  isFragmentChar c && !"#?\x7b\x7d^".toList.contains c

/- The characters that a user name or password shows. -/
def isUserChar
    (c : Char) : Bool :=
  isPathChar c && !"/:;=@[\\]^|".toList.contains c

end Url
end WorkspaceClient
