import WorkspaceClient.Bytes.Basic

/-
  This file defines the reading of bytes as text when they
  need not be UTF-8: every byte sequence that cannot be
  continued to a character becomes a replacement character.

  Key definitions include:
    * `Bytes.Lossy.secondRange?`
    * `Bytes.Lossy.decode`
-/

namespace WorkspaceClient
namespace Bytes
namespace Lossy

------------------------------------------------------------
-- Sequences
------------------------------------------------------------

/-
  The number of bytes after the first one of a sequence, and
  the range of the second byte.
-/
def secondRange?
    (b : UInt8) : Option (Nat × UInt8 × UInt8) :=
  if 0xC2 ≤ b ∧ b ≤ 0xDF then
    some (1, 0x80, 0xBF)
  else if b = 0xE0 then
    some (2, 0xA0, 0xBF)
  else if b = 0xED then
    some (2, 0x80, 0x9F)
  else if 0xE1 ≤ b ∧ b ≤ 0xEF then
    some (2, 0x80, 0xBF)
  else if b = 0xF0 then
    some (3, 0x90, 0xBF)
  else if 0xF1 ≤ b ∧ b ≤ 0xF3 then
    some (3, 0x80, 0xBF)
  else if b = 0xF4 then
    some (3, 0x80, 0x8F)
  else
    none

/- The bits that the first byte of a sequence contributes. -/
def firstBits
    (size : Nat)
    (b : UInt8) : Nat :=
  match size with
  | 1 => b.toNat % 32
  | 2 => b.toNat % 16
  | _ => b.toNat % 8

/- An open sequence: bytes missing, bits, and next range. -/
structure Pending where
  missing : Nat
  bits : Nat
  low : UInt8
  high : UInt8

/- The character that stands for undecodable bytes. -/
def replacement : Char :=
  '\ufffd'

/- Start a sequence with a byte. -/
def start
    (b : UInt8) : List Char × Option Pending :=
  if b < 0x80 then
    ([Char.ofNat b.toNat], none)
  else
    match secondRange? b with
    | some (size, low, high) =>
        ([], some ⟨size, firstBits size b, low, high⟩)
    | none => ([replacement], none)

/- Take one byte into an open sequence or start a new one. -/
def step
    (pending : Option Pending)
    (b : UInt8) : List Char × Option Pending :=
  match pending with
  | none => start b
  | some p =>
      if p.low ≤ b ∧ b ≤ p.high then
        let bits := 64 * p.bits + b.toNat % 64
        if p.missing = 1 then
          ([Char.ofNat bits], none)
        else
          ([], some ⟨p.missing - 1, bits, 0x80, 0xBF⟩)
      else
        let (cs, next) := start b
        (replacement :: cs, next)

/- The characters of a byte string after an open sequence. -/
def decode
    (pending : Option Pending) : Bytes → List Char
  | [] => if pending.isSome then [replacement] else []
  | b :: rest =>
      let (cs, next) := step pending b
      cs ++ decode next rest

end Lossy

end Bytes
end WorkspaceClient
