import WorkspaceClient.Json.Parser
import WorkspaceClient.Json.Printer
import WorkspaceClient.Proofs.Bytes.Utf8

/-
  This file shows that a string that was written is read
  back, whatever characters it has.

  Main declarations:
    * `Json.scanParts_quoteChar`
    * `Json.parseText_quote`
-/

namespace WorkspaceClient
namespace Json

open Bytes (ofChars)

------------------------------------------------------------
-- Steps of scanning
------------------------------------------------------------

/- The closing quote ends a string. -/
theorem scanParts_quote
    (rest : Bytes) :
    scanParts (0x22 :: rest) = some ([], rest) := by
  rw [scanParts.eq_def]
  simp

/- Any other byte but an escape stands for itself. -/
theorem scanParts_byte
    {b : UInt8}
    (rest : Bytes)
    (hQuote : b ≠ 0x22)
    (hEscape : b ≠ 0x5C)
    (hLow : ¬ b < 0x20) :
    scanParts (b :: rest) =
      (scanParts rest).map fun r => (.byte b :: r.1, r.2) := by
  rw [scanParts.eq_def]
  simp only [if_neg hQuote, if_neg hEscape, if_neg hLow]
  cases scanParts rest <;> rfl

/- An escape with one letter. -/
theorem scanParts_letter
    {letter b : UInt8}
    (rest : Bytes)
    (hUnicode : letter ≠ 0x75)
    (hEscaped : escaped? letter = some b) :
    scanParts (0x5C :: letter :: rest) =
      (scanParts rest).map fun r => (.byte b :: r.1, r.2) := by
  rw [scanParts.eq_def]
  simp only [if_neg hUnicode, hEscaped]
  cases scanParts rest <;> rfl

/- An escape with four hexadecimal digits. -/
theorem scanParts_unit
    {h₁ h₂ h₃ h₄ : UInt8}
    {n : Nat}
    (rest : Bytes)
    (hUnit : unit? h₁ h₂ h₃ h₄ = some n) :
    scanParts (0x5C :: 0x75 :: h₁ :: h₂ :: h₃ :: h₄ :: rest) =
      (scanParts rest).map fun r => (.unit n :: r.1, r.2) := by
  rw [scanParts.eq_def]
  simp only [hUnit]
  cases scanParts rest <;> rfl

------------------------------------------------------------
-- Plain bytes
------------------------------------------------------------

/- A byte that stands for itself inside a string. -/
def IsPlain
    (b : UInt8) : Prop :=
  b ≠ 0x22 ∧ b ≠ 0x5C ∧ ¬ b < 0x20

/- Plain bytes are parts of their own. -/
theorem scanParts_plain
    (bs tail : Bytes)
    (hPlain : ∀ b ∈ bs, IsPlain b) :
    scanParts (bs ++ tail) =
      (scanParts tail).map fun r =>
        (bs.map .byte ++ r.1, r.2) := by
  induction bs with
  | nil => simp
  | cons b bs ih =>
      rcases hPlain b (by simp) with ⟨hQuote, hEscape, hLow⟩
      rw [List.cons_append,
        scanParts_byte _ hQuote hEscape hLow,
        ih fun b' hb' => hPlain b' (by simp [hb'])]
      cases scanParts tail <;> rfl

theorem partBytes_plain
    (bs : Bytes)
    (parts : List TextPart) :
    partBytes (bs.map .byte ++ parts) =
      (bs ++ ·) <$> partBytes parts := by
  induction bs with
  | nil => simp
  | cons b bs ih =>
      rw [List.map_cons, List.cons_append, partBytes, ih]
      cases partBytes parts <;> rfl

/-
  The bytes of a character that needs no escape are plain.
-/
theorem isPlain_of_mem_utf8EncodeChar
    {c : Char}
    {b : UInt8}
    (hQuote : c ≠ '"')
    (hEscape : c ≠ '\\')
    (hLow : ¬ c.toNat < 0x20)
    (hb : b ∈ String.utf8EncodeChar c) :
    IsPlain b := by
  by_cases hAscii : c.toNat < 0x80
  · rw [Bytes.utf8EncodeChar_ascii hAscii,
      List.mem_singleton] at hb
    have hNat : b.toNat = c.toNat := by
      rw [hb, UInt8.toNat_ofNat']
      omega
    refine ⟨?_, ?_, ?_⟩
    · rintro rfl
      exact hQuote (Char.toNat_inj.mp hNat.symm)
    · rintro rfl
      exact hEscape (Char.toNat_inj.mp hNat.symm)
    · rw [UInt8.lt_iff_toNat_lt, hNat]
      exact hLow
  · have hHigh : 0x80 ≤ b :=
      Bytes.le_of_mem_utf8EncodeChar (by omega) hb
    rw [UInt8.le_iff_toNat_le] at hHigh
    refine ⟨?_, ?_, ?_⟩
    · rintro rfl
      exact absurd hHigh (by decide)
    · rintro rfl
      exact absurd hHigh (by decide)
    · rw [UInt8.lt_iff_toNat_lt]
      simp at hHigh ⊢
      omega

------------------------------------------------------------
-- Characters
------------------------------------------------------------

theorem codePointBytes_eq
    (n : Nat) :
    codePointBytes n =
      String.utf8EncodeChar (Char.ofNat n) := by
  unfold codePointBytes
  rw [Bytes.ofText_eq, String.toList_singleton,
    Bytes.ofChars_cons, Bytes.ofChars_nil, List.append_nil]

/-
  These parts are what is read of these bytes, and they
  denote the bytes of a character.
-/
structure ReadsAs
    (written : Bytes)
    (c : Char)
    (parts : List TextPart) : Prop where
  scan :
    ∀ tail,
      scanParts (written ++ tail) =
        (scanParts tail).map fun r => (parts ++ r.1, r.2)
  value :
    ∀ more,
      partBytes (parts ++ more) =
        (String.utf8EncodeChar c ++ ·) <$> partBytes more

/- An escape with one letter. -/
theorem readsAs_letter
    {c : Char}
    (letter : Char)
    (hAscii : c.toNat < 0x80)
    (hLetter : letter.toNat < 0x80)
    (hUnicode : UInt8.ofNat letter.toNat ≠ 0x75)
    (hEscaped :
      escaped? (UInt8.ofNat letter.toNat) =
        some (UInt8.ofNat c.toNat)) :
    ReadsAs (ofChars ['\\', letter]) c
      [.byte (UInt8.ofNat c.toNat)] where
  scan := by
    intro tail
    have hBytes :
        ofChars ['\\', letter] =
          [0x5C, UInt8.ofNat letter.toNat] := by
      rw [Bytes.ofChars_ascii (by decide),
        Bytes.ofChars_ascii hLetter]
      rfl
    rw [hBytes]
    exact scanParts_letter tail hUnicode hEscaped
  value := by
    intro more
    rw [Bytes.utf8EncodeChar_ascii hAscii]
    rfl

/- The hexadecimal digits of a low character. -/
theorem unit?_digits :
    ∀ n < 0x20,
      (Nat.digitChar (n / 16)).toNat < 0x80 ∧
        (Nat.digitChar (n % 16)).toNat < 0x80 ∧
        unit? 0x30 0x30
            (UInt8.ofNat (Nat.digitChar (n / 16)).toNat)
            (UInt8.ofNat (Nat.digitChar (n % 16)).toNat) =
          some n := by
  decide

/- An escape with the number of a low character. -/
theorem readsAs_unit
    {c : Char}
    (hLow : c.toNat < 0x20) :
    ReadsAs
      (ofChars ['\\', 'u', '0', '0',
        Nat.digitChar (c.toNat / 16),
        Nat.digitChar (c.toNat % 16)])
      c [.unit c.toNat] where
  scan := by
    intro tail
    rcases unit?_digits c.toNat hLow with
      ⟨hHigh, hDigit, hUnit⟩
    rw [Bytes.ofChars_ascii (by decide),
      Bytes.ofChars_ascii (by decide),
      Bytes.ofChars_ascii (by decide),
      Bytes.ofChars_ascii (by decide),
      Bytes.ofChars_ascii hHigh, Bytes.ofChars_ascii hDigit]
    exact scanParts_unit tail hUnit
  value := by
    intro more
    rw [List.singleton_append, partBytes.eq_def]
    simp only
    rw [if_pos (.inl (by omega)), codePointBytes_eq,
      Char.ofNat_toNat]

/- A character that needs no escape. -/
theorem readsAs_plain
    {c : Char}
    (hQuote : c ≠ '"')
    (hEscape : c ≠ '\\')
    (hLow : ¬ c.toNat < 0x20) :
    ReadsAs (ofChars [c]) c
      ((String.utf8EncodeChar c).map .byte) where
  scan := by
    intro tail
    have hBytes : ofChars [c] = String.utf8EncodeChar c := by
      simp [ofChars]
    rw [hBytes]
    apply scanParts_plain
    intro b hb
    exact isPlain_of_mem_utf8EncodeChar hQuote hEscape hLow hb
  value := partBytes_plain (String.utf8EncodeChar c)

/- A written character reads as this character. -/
theorem readsAs_quoteChar
    (c : Char) :
    ∃ parts, ReadsAs (ofChars (quoteChar c)) c parts := by
  unfold quoteChar
  by_cases hQuote : c = '"'
  · subst hQuote
    exact ⟨_, readsAs_letter '"' (by decide)
      (by decide) (by decide) rfl⟩
  rw [if_neg hQuote]
  by_cases hEscape : c = '\\'
  · subst hEscape
    exact ⟨_, readsAs_letter '\\' (by decide)
      (by decide) (by decide) rfl⟩
  rw [if_neg hEscape]
  by_cases hBack : c.toNat = 0x08
  · rw [if_pos hBack]
    exact ⟨_, readsAs_letter 'b' (by omega)
      (by decide) (by decide) (by rw [hBack]; rfl)⟩
  rw [if_neg hBack]
  by_cases hFeed : c.toNat = 0x0C
  · rw [if_pos hFeed]
    exact ⟨_, readsAs_letter 'f' (by omega)
      (by decide) (by decide) (by rw [hFeed]; rfl)⟩
  rw [if_neg hFeed]
  by_cases hLine : c = '\n'
  · subst hLine
    exact ⟨_, readsAs_letter 'n' (by decide)
      (by decide) (by decide) rfl⟩
  rw [if_neg hLine]
  by_cases hReturn : c = '\r'
  · subst hReturn
    exact ⟨_, readsAs_letter 'r' (by decide)
      (by decide) (by decide) rfl⟩
  rw [if_neg hReturn]
  by_cases hTab : c = '\t'
  · subst hTab
    exact ⟨_, readsAs_letter 't' (by decide)
      (by decide) (by decide) rfl⟩
  rw [if_neg hTab]
  by_cases hLow : c.toNat < 0x20
  · rw [if_pos hLow]
    exact ⟨_, readsAs_unit hLow⟩
  · rw [if_neg hLow]
    exact ⟨_, readsAs_plain hQuote hEscape hLow⟩

------------------------------------------------------------
-- Strings
------------------------------------------------------------

/- Written characters are read up to the closing quote. -/
theorem scanParts_quoted
    (cs : List Char)
    (rest : Bytes) :
    ∃ parts,
      scanParts
          (ofChars (cs.flatMap quoteChar) ++ 0x22 :: rest) =
        some (parts, rest) ∧
      partBytes parts = some (ofChars cs) := by
  induction cs with
  | nil => exact ⟨[], scanParts_quote rest, rfl⟩
  | cons c cs ih =>
      rcases readsAs_quoteChar c with ⟨first, hFirst⟩
      rcases ih with ⟨parts, hScan, hValue⟩
      refine ⟨first ++ parts, ?_, ?_⟩
      · rw [List.flatMap_cons, Bytes.ofChars_append,
          List.append_assoc, hFirst.scan, hScan]
        rfl
      · rw [hFirst.value, hValue, Bytes.ofChars_cons]
        rfl

/- The bytes of a written string. -/
theorem ofChars_quote
    (s : String) :
    ofChars (quote s) =
      0x22 :: (ofChars (s.toList.flatMap quoteChar)
        ++ [0x22]) := by
  unfold quote
  rw [List.cons_append, Bytes.ofChars_ascii (by decide),
    Bytes.ofChars_append, Bytes.ofChars_ascii (by decide)]
  rfl

/- A written string is read back. -/
theorem parseText_quote
    (s : String)
    (rest : Bytes) :
    parseText
        (ofChars (s.toList.flatMap quoteChar)
          ++ 0x22 :: rest) =
      some (some s, rest) := by
  rcases scanParts_quoted s.toList rest with
    ⟨parts, hScan, hValue⟩
  have hText :
      (partBytes parts).bind Bytes.toText? = some s := by
    rw [hValue, ← Bytes.ofText_eq]
    exact Bytes.toText?_ofText s
  unfold parseText
  rw [hScan]
  change some ((partBytes parts).bind Bytes.toText?, rest) = _
  rw [hText]

end Json
end WorkspaceClient
