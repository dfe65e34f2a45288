import WorkspaceClient.Bytes.Basic
import WorkspaceClient.Json.Basic
import WorkspaceClient.Text.Search

/-
  This file defines the reading of JSON documents from
  bytes.

  Reading never fails: where the bytes stop being JSON, the
  value `broken` stands, and nothing after it is read.

  Key definitions include:
    * `Json.parseText`
    * `Json.parseNumeral`
    * `Json.parseValue`
    * `Json.Document`
    * `Json.parse`
    * `Json.parse?`
-/

namespace WorkspaceClient
namespace Json

------------------------------------------------------------
-- Blanks and literals
------------------------------------------------------------

/- The bytes that may stand between two parts of a value. -/
def isBlankByte
    (b : UInt8) : Bool :=
  b == 0x20 || b == 0x09 || b == 0x0A || b == 0x0D

/- The bytes from the first that is not blank on. -/
def skipBlanks
    (bs : Bytes) : Bytes :=
  bs.dropWhile isBlankByte

/- The bytes after a word, if they start with it. -/
def afterWord?
    (word : String)
    (bs : Bytes) : Option Bytes :=
  let w := Bytes.ofText word
  if w.isPrefixOf bs then
    some (bs.drop w.length)
  else
    none

------------------------------------------------------------
-- Texts
------------------------------------------------------------

/-
  A part of a string: a byte that stands for itself, or a
  16-bit code unit written with an escape.
-/
inductive TextPart where
  | byte (b : UInt8)
  | unit (n : Nat)
  deriving DecidableEq, Repr

/- The byte that a one-letter escape stands for. -/
def escaped?
    (b : UInt8) : Option UInt8 :=
  if b = 0x22 ∨ b = 0x5C ∨ b = 0x2F then
    some b
  else if b = 0x62 then
    some 0x08
  else if b = 0x66 then
    some 0x0C
  else if b = 0x6E then
    some 0x0A
  else if b = 0x72 then
    some 0x0D
  else if b = 0x74 then
    some 0x09
  else
    none

/- The value of a byte that is a hexadecimal digit. -/
def hexByte?
    (b : UInt8) : Option Nat :=
  Text.hexValue? (Char.ofNat b.toNat)

/- The code unit of four hexadecimal digits. -/
def unit?
    (a b c d : UInt8) : Option Nat := do
  let a ← hexByte? a
  let b ← hexByte? b
  let c ← hexByte? c
  let d ← hexByte? d
  return 4096 * a + 256 * b + 16 * c + d

/-
  The parts of a string up to its closing quote, and the
  bytes after that quote.
-/
def scanParts : Bytes → Option (List TextPart × Bytes)
  | [] => none
  | b :: rest =>
      if b = 0x22 then
        some ([], rest)
      else if b = 0x5C then
        match rest with
        | [] => none
        | e :: tail =>
            if e = 0x75 then
              match tail with
              | h₁ :: h₂ :: h₃ :: h₄ :: after => do
                  let n ← unit? h₁ h₂ h₃ h₄
                  let (parts, final) ← scanParts after
                  return (.unit n :: parts, final)
              | _ => none
            else do
              let c ← escaped? e
              let (parts, final) ← scanParts tail
              return (.byte c :: parts, final)
      else if b < 0x20 then
        none
      else do
        let (parts, final) ← scanParts rest
        return (.byte b :: parts, final)

/- The bytes of a code point. -/
def codePointBytes
    (n : Nat) : Bytes :=
  Bytes.ofText (String.singleton (Char.ofNat n))

/-
  The bytes of a string. Two code units make one character
  if they are a surrogate pair; no other surrogate does.
-/
def partBytes : List TextPart → Option Bytes
  | [] => some []
  | .byte b :: rest => (b :: ·) <$> partBytes rest
  | .unit n :: rest =>
      if n < 0xD800 ∨ 0xDFFF < n then
        (codePointBytes n ++ ·) <$> partBytes rest
      else
        match rest with
        | .unit m :: tail =>
            if n < 0xDC00 ∧ 0xDC00 ≤ m ∧ m ≤ 0xDFFF then
              (codePointBytes
                (0x10000 + 0x400 * (n - 0xD800)
                  + (m - 0xDC00)) ++ ·) <$> partBytes tail
            else
              none
        | _ => none

/-
  The text of a string after its opening quote, if its
  characters can be decoded, and the bytes after it.
-/
def parseText
    (bs : Bytes) : Option (Option String × Bytes) := do
  let (parts, rest) ← scanParts bs
  return ((partBytes parts).bind Bytes.toText?, rest)

------------------------------------------------------------
-- Numbers
------------------------------------------------------------

/- Whether a byte is a decimal digit. -/
def isDigitByte
    (b : UInt8) : Bool :=
  0x30 ≤ b && b ≤ 0x39

/- The digits at the front of a byte string, and the rest. -/
def spanDigits
    (bs : Bytes) : List Nat × Bytes :=
  ((bs.takeWhile isDigitByte).map fun b => b.toNat - 48,
    bs.dropWhile isDigitByte)

/- The fraction of a number, which needs a digit. -/
def parseFraction
    (bs : Bytes) : Option (List Nat × Bytes) :=
  match bs with
  | 0x2E :: rest =>
      let (digits, after) := spanDigits rest
      if digits.isEmpty then none else some (digits, after)
  | _ => some ([], bs)

/- The exponent of a number, which needs a digit. -/
def parseExponent
    (bs : Bytes) :
    Option (Option (Bool × List Nat) × Bytes) :=
  match bs with
  | e :: rest =>
      if e = 0x65 ∨ e = 0x45 then
        let isDown := rest.head? == some 0x2D
        let isSigned := isDown || rest.head? == some 0x2B
        let (digits, after) :=
          spanDigits (if isSigned then rest.tail else rest)
        if digits.isEmpty then
          none
        else
          some (some (isDown, digits), after)
      else
        some (none, bs)
  | [] => some (none, bs)

/- The number at the front of a byte string. -/
def parseNumeral
    (bs : Bytes) : Option (Numeral × Bytes) := do
  let negative := bs.head? == some 0x2D
  let unsigned := if negative then bs.tail else bs
  let (whole, afterWhole) := spanDigits unsigned
  if whole.isEmpty then
    none
  if whole.head? == some 0 && 1 < whole.length then
    none
  let (fraction, afterFraction) ← parseFraction afterWhole
  let (exponent, rest) ← parseExponent afterFraction
  return ({ negative, whole, fraction, exponent }, rest)

------------------------------------------------------------
-- Values
------------------------------------------------------------

/- A value without parts, at the front of nonblank bytes. -/
def parseScalar
    (bs : Bytes) : Json × Option Bytes :=
  match afterWord? "null" bs, afterWord? "true" bs,
      afterWord? "false" bs with
  | some rest, _, _ => (.null, some rest)
  | _, some rest, _ => (.bool true, some rest)
  | _, _, some rest => (.bool false, some rest)
  | none, none, none =>
      match parseNumeral bs with
      | some (n, rest) => (.number n, some rest)
      | none => (.broken, none)

mutual

/-
  The value at the front of a byte string, and the bytes
  after it unless the value is broken.

  The fuel bounds the number of steps into the bytes.
-/
def parseValue : Nat → Bytes → Json × Option Bytes
  | 0, _ => (.broken, none)
  | fuel + 1, bs =>
      match skipBlanks bs with
      | [] => (.broken, none)
      | b :: rest =>
          if b = 0x22 then
            match parseText rest with
            | some (s, after) => (.text s, some after)
            | none => (.broken, none)
          else if b = 0x5B then
            match skipBlanks rest with
            | 0x5D :: after => (.array [], some after)
            | inside =>
                let (items, after) := parseItems fuel inside
                (.array items, after)
          else if b = 0x7B then
            match skipBlanks rest with
            | 0x7D :: after => (.object [], some after)
            | inside =>
                let (members, after) :=
                  parseMembers fuel inside
                (.object members, after)
          else
            parseScalar (b :: rest)

/- The items up to the closing bracket, at least one. -/
def parseItems : Nat → Bytes → List Json × Option Bytes
  | 0, _ => ([.broken], none)
  | fuel + 1, bs =>
      match parseValue fuel bs with
      | (v, none) => ([v], none)
      | (v, some after) =>
          match skipBlanks after with
          | 0x5D :: rest => ([v], some rest)
          | 0x2C :: rest =>
              let (vs, final) := parseItems fuel rest
              (v :: vs, final)
          | _ => ([v, .broken], none)

/- The members up to the closing brace, at least one. -/
def parseMembers :
    Nat → Bytes →
    List (Option String × Json) × Option Bytes
  | 0, _ => ([(none, .broken)], none)
  | fuel + 1, bs =>
      match skipBlanks bs with
      | 0x22 :: inside =>
          match parseText inside with
          | none => ([(none, .broken)], none)
          | some (k, afterName) =>
              match skipBlanks afterName with
              | 0x3A :: afterColon =>
                  match parseValue fuel afterColon with
                  | (v, none) => ([(k, v)], none)
                  | (v, some after) =>
                      match skipBlanks after with
                      | 0x7D :: rest => ([(k, v)], some rest)
                      | 0x2C :: rest =>
                          let (ms, final) :=
                            parseMembers fuel rest
                          ((k, v) :: ms, final)
                      | _ =>
                          ([(k, v), (none, .broken)], none)
              | _ => ([(k, .broken)], none)
      | _ => ([(none, .broken)], none)

end

------------------------------------------------------------
-- Documents
------------------------------------------------------------

/-
  The value of a document. The document is `closed` when
  nothing but blanks follows the value.
-/
structure Document where
  value : Json
  closed : Bool
  deriving Repr

/- Read a document. -/
def parse
    (bs : Bytes) : Document :=
  match parseValue (2 * bs.length + 2) bs with
  | (value, some rest) =>
      { value, closed := (skipBlanks rest).isEmpty }
  | (value, none) =>
      { value, closed := false }

/- The value of a document that is JSON throughout. -/
def parse?
    (bs : Bytes) : Option Json :=
  let document := parse bs
  if document.closed && document.value.isReadable then
    some document.value
  else
    none

end Json
end WorkspaceClient
