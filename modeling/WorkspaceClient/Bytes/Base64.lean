import WorkspaceClient.Bytes.Basic

/-
  This file defines the base64 encoding with the standard
  alphabet and canonical padding.

  Four symbols stand for three bytes. The last group may
  stand for one or two bytes; it is then filled up to four
  symbols with padding, and the bits that its last symbol
  does not need are zero.

  Key definitions include:
    * `Base64.encode`
    * `Base64.Fault`
    * `Base64.Fault.message`
    * `Base64.decode`
-/

namespace WorkspaceClient
namespace Base64

------------------------------------------------------------
-- Alphabet
------------------------------------------------------------

/- The padding symbol. -/
def pad : UInt8 :=
  61

/- The symbol of a six-bit value. -/
def symbol
    (n : Nat) : UInt8 :=
  if n < 26 then
    UInt8.ofNat (65 + n)
  else if n < 52 then
    UInt8.ofNat (71 + n)
  else if n < 62 then
    UInt8.ofNat (n - 4)
  else if n = 62 then
    43
  else
    47

/- The six-bit value of a symbol. -/
def value?
    (b : UInt8) : Option Nat :=
  let n := b.toNat
  if 65 ≤ n ∧ n ≤ 90 then
    some (n - 65)
  else if 97 ≤ n ∧ n ≤ 122 then
    some (n - 71)
  else if 48 ≤ n ∧ n ≤ 57 then
    some (n + 4)
  else if n = 43 then
    some 62
  else if n = 47 then
    some 63
  else
    none

------------------------------------------------------------
-- Encoding
------------------------------------------------------------

/- The symbols of a byte string, without line breaks. -/
def encodeBytes : Bytes → Bytes
  | [] => []
  | [a] =>
      [symbol (a.toNat / 4),
       symbol (a.toNat % 4 * 16),
       pad, pad]
  | [a, b] =>
      [symbol (a.toNat / 4),
       symbol (a.toNat % 4 * 16 + b.toNat / 16),
       symbol (b.toNat % 16 * 4),
       pad]
  | a :: b :: c :: rest =>
      symbol (a.toNat / 4)
        :: symbol (a.toNat % 4 * 16 + b.toNat / 16)
        :: symbol (b.toNat % 16 * 4 + c.toNat / 64)
        :: symbol (c.toNat % 64)
        :: encodeBytes rest

/- The base64 text of a byte string. -/
def encode
    (bs : Bytes) : String :=
  String.ofList
    ((encodeBytes bs).map fun b => Char.ofNat b.toNat)

------------------------------------------------------------
-- Faults
------------------------------------------------------------

/-
  The reasons why a text is not base64. Offsets count bytes
  from the start of the text.
-/
inductive Fault where
  | badSymbol (offset : Nat) (byte : UInt8)
  | badLastSymbol (offset : Nat) (byte : UInt8)
  | badLength (length : Nat)
  | badPadding
  deriving DecidableEq, Repr

/- The text of a fault. -/
def Fault.message : Fault → String
  | badSymbol offset byte =>
      s!"Invalid symbol {byte.toNat}, offset {offset}."
  | badLastSymbol offset byte =>
      s!"Invalid last symbol {byte.toNat}, offset {offset}."
  | badLength length =>
      s!"Invalid input length: {length}"
  | badPadding =>
      "Invalid padding"

------------------------------------------------------------
-- Decoding
------------------------------------------------------------

/- The value of the symbol at an offset. -/
def valueAt
    (offset : Nat)
    (b : UInt8) : Except Fault Nat :=
  match value? b with
  | some n => .ok n
  | none => .error (.badSymbol offset b)

/- The three bytes of four six-bit values. -/
def joinFour
    (a b c d : Nat) : Bytes :=
  [UInt8.ofNat (a * 4 + b / 16),
   UInt8.ofNat (b % 16 * 16 + c / 4),
   UInt8.ofNat (c % 4 * 64 + d)]

/-
  The values of the symbols in the last group, and the
  number of paddings after them.

  A padding among the first two symbols is no symbol, and
  neither is one that a symbol follows.
-/
def lastGroup
    (offset : Nat) :
    Nat → Bytes → Except Fault (List Nat × Nat)
  | _, [] => .ok ([], 0)
  | index, b :: rest =>
      if b = pad then
        if index < 2 ∨ rest.any (· != pad) then
          .error (.badSymbol (offset + index) pad)
        else
          .ok ([], rest.length + 1)
      else do
        let n ← valueAt (offset + index) b
        let (values, pads) ← lastGroup offset (index + 1) rest
        return (n :: values, pads)

/- The bytes of the last group, which has at most four symbols. -/
def decodeLast
    (offset : Nat)
    (group : Bytes) : Except Fault Bytes := do
  let (values, pads) ← lastGroup offset 0 group
  match values with
  | [] =>
      if group.isEmpty then
        return []
      else
        throw (.badLength offset)
  | [_] =>
      throw (.badLength (offset + 1))
  | [a, b] =>
      if pads ≠ 2 then
        throw .badPadding
      else if b % 16 ≠ 0 then
        throw (.badLastSymbol (offset + 1)
          (group.getD 1 pad))
      else
        return [UInt8.ofNat (a * 4 + b / 16)]
  | [a, b, c] =>
      if pads ≠ 1 then
        throw .badPadding
      else if c % 4 ≠ 0 then
        throw (.badLastSymbol (offset + 2)
          (group.getD 2 pad))
      else
        return [UInt8.ofNat (a * 4 + b / 16),
          UInt8.ofNat (b % 16 * 16 + c / 4)]
  | a :: b :: c :: d :: _ =>
      return joinFour a b c d

/-
  The bytes of a symbol string that starts at an offset. All
  groups but the last one hold four symbols of the alphabet.
-/
def decodeGroups
    (offset : Nat) : Bytes → Except Fault Bytes
  | a :: b :: c :: d :: e :: rest => do
      let va ← valueAt offset a
      let vb ← valueAt (offset + 1) b
      let vc ← valueAt (offset + 2) c
      let vd ← valueAt (offset + 3) d
      let bytes ← decodeGroups (offset + 4) (e :: rest)
      return joinFour va vb vc vd ++ bytes
  | group => decodeLast offset group

/-
  A single symbol after the last full group that is not in
  the alphabet is reported before anything else.
-/
def strayEnd?
    (bs : Bytes) : Option Fault :=
  match bs.getLast? with
  | some b =>
      if bs.length % 4 = 1 ∧ b ≠ pad ∧ value? b = none then
        some (.badSymbol (bs.length - 1) b)
      else
        none
  | none => none

/- The bytes that a base64 text stands for. -/
def decode
    (text : Bytes) : Except Fault Bytes :=
  match strayEnd? text with
  | some fault => .error fault
  | none => decodeGroups 0 text

end Base64
end WorkspaceClient
