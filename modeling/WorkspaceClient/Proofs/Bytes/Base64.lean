import WorkspaceClient.Bytes.Base64
import WorkspaceClient.Proofs.Bytes.Utf8
import WorkspaceClient.Proofs.Text.Trimming

/-
  This file shows that decoding gives back what was encoded.

  Main declarations:
    * `Base64.decode_encodeBytes`
    * `Base64.trim_encode`
    * `Base64.decode_encode`
-/

namespace WorkspaceClient

namespace Base64

------------------------------------------------------------
-- Symbols
------------------------------------------------------------

/-
  The symbol of a six-bit value has this value, is not the
  padding, and is an ASCII character that is not blank.
-/
theorem symbol_spec :
    ∀ n < 64,
      value? (symbol n) = some n ∧
        symbol n ≠ pad ∧
        (symbol n).toNat < 0x80 ∧
        Text.isBlank (Char.ofNat (symbol n).toNat) = false := by
  decide

theorem valueAt_symbol
    {n : Nat}
    (offset : Nat)
    (h : n < 64) :
    valueAt offset (symbol n) = .ok n := by
  unfold valueAt
  rw [(symbol_spec n h).1]

theorem symbol_ne_pad
    {n : Nat}
    (h : n < 64) :
    symbol n ≠ pad :=
  (symbol_spec n h).2.1

------------------------------------------------------------
-- Groups
------------------------------------------------------------

/- A full group of symbols stands for three bytes. -/
theorem decodeGroups_four
    {a b c d : Nat}
    (offset : Nat)
    (rest : Bytes)
    (ha : a < 64)
    (hb : b < 64)
    (hc : c < 64)
    (hd : d < 64) :
    decodeGroups offset
        (symbol a :: symbol b :: symbol c :: symbol d
          :: rest) =
      (joinFour a b c d ++ ·)
        <$> decodeGroups (offset + 4) rest := by
  cases rest with
  | nil =>
      simp [decodeGroups, decodeLast, lastGroup,
        symbol_ne_pad, valueAt_symbol, ha, hb, hc, hd, bind,
        Except.bind, pure, Except.pure, Functor.map,
        Except.map]
  | cons e rest =>
      rw [decodeGroups]
      simp only [valueAt_symbol, ha, hb, hc, hd, bind,
        Except.bind]
      cases decodeGroups (offset + 4) (e :: rest) <;> rfl

/- A byte is the byte of a number that equals its own. -/
theorem ofNat_eq_of_toNat
    {n : Nat}
    {b : UInt8}
    (h : n = b.toNat) :
    UInt8.ofNat n = b := by
  rw [h, UInt8.ofNat_toNat]

/- Four values that three bytes are split into join again. -/
theorem joinFour_split
    (a b c : UInt8) :
    joinFour (a.toNat / 4)
        (a.toNat % 4 * 16 + b.toNat / 16)
        (b.toNat % 16 * 4 + c.toNat / 64)
        (c.toNat % 64) =
      [a, b, c] := by
  have ha := a.toNat_lt
  have hb := b.toNat_lt
  have hc := c.toNat_lt
  unfold joinFour
  congr 1
  · exact ofNat_eq_of_toNat (by omega)
  · congr 1
    · exact ofNat_eq_of_toNat (by omega)
    · congr 1
      exact ofNat_eq_of_toNat (by omega)

/- Two symbols with their padding stand for one byte. -/
theorem decodeGroups_two
    {a b : Nat}
    (offset : Nat)
    (ha : a < 64)
    (hb : b < 64)
    (hBits : b % 16 = 0) :
    decodeGroups offset [symbol a, symbol b, pad, pad] =
      .ok [UInt8.ofNat (a * 4 + b / 16)] := by
  simp only [decodeGroups, decodeLast, lastGroup,
    symbol_ne_pad ha, symbol_ne_pad hb, valueAt_symbol _ ha,
    valueAt_symbol _ hb, bind, Except.bind, pure,
    Except.pure]
  simp [hBits]

/- Three symbols with their padding stand for two bytes. -/
theorem decodeGroups_three
    {a b c : Nat}
    (offset : Nat)
    (ha : a < 64)
    (hb : b < 64)
    (hc : c < 64)
    (hBits : c % 4 = 0) :
    decodeGroups offset
        [symbol a, symbol b, symbol c, pad] =
      .ok [UInt8.ofNat (a * 4 + b / 16),
        UInt8.ofNat (b % 16 * 16 + c / 4)] := by
  simp only [decodeGroups, decodeLast, lastGroup,
    symbol_ne_pad ha, symbol_ne_pad hb, symbol_ne_pad hc,
    valueAt_symbol _ ha, valueAt_symbol _ hb,
    valueAt_symbol _ hc, bind, Except.bind, pure,
    Except.pure]
  simp [hBits]

/- Decoding the symbols of some bytes gives the bytes. -/
theorem decodeGroups_encodeBytes
    (offset : Nat)
    (bs : Bytes) :
    decodeGroups offset (encodeBytes bs) = .ok bs := by
  fun_induction encodeBytes bs generalizing offset with
  | case1 => rfl
  | case2 a =>
      have ha := a.toNat_lt
      rw [decodeGroups_two offset (by omega) (by omega)
        (by omega)]
      congr 2
      exact ofNat_eq_of_toNat (by omega)
  | case3 a b =>
      have ha := a.toNat_lt
      have hb := b.toNat_lt
      rw [decodeGroups_three offset (by omega) (by omega)
        (by omega) (by omega)]
      congr 2
      · exact ofNat_eq_of_toNat (by omega)
      · congr 1
        exact ofNat_eq_of_toNat (by omega)
  | case4 a b c rest ih =>
      have ha := a.toNat_lt
      have hb := b.toNat_lt
      have hc := c.toNat_lt
      rw [decodeGroups_four offset _ (by omega) (by omega)
        (by omega) (by omega), ih, joinFour_split]
      rfl

------------------------------------------------------------
-- Texts
------------------------------------------------------------

/- The symbols come in groups of four. -/
theorem length_encodeBytes_mod
    (bs : Bytes) :
    (encodeBytes bs).length % 4 = 0 := by
  fun_induction encodeBytes bs with
  | case1 => rfl
  | case2 a => simp
  | case3 a b => simp
  | case4 a b c rest ih =>
      simp only [List.length_cons]
      omega

theorem decode_encodeBytes
    (bs : Bytes) :
    decode (encodeBytes bs) = .ok bs := by
  have hStray : strayEnd? (encodeBytes bs) = none := by
    unfold strayEnd?
    have hLength := length_encodeBytes_mod bs
    split
    · rw [if_neg]
      omega
    · rfl
  unfold decode
  rw [hStray]
  exact decodeGroups_encodeBytes 0 bs

/- Every byte of an encoding is ASCII and not blank. -/
theorem mem_encodeBytes
    {bs : Bytes}
    {b : UInt8}
    (h : b ∈ encodeBytes bs) :
    b.toNat < 0x80 ∧
      Text.isBlank (Char.ofNat b.toNat) = false := by
  have hPad :
      pad.toNat < 0x80 ∧
        Text.isBlank (Char.ofNat pad.toNat) = false := by
    decide
  have hSymbol :
      ∀ n < 64,
        (symbol n).toNat < 0x80 ∧
          Text.isBlank (Char.ofNat (symbol n).toNat) =
            false :=
    fun n hn => (symbol_spec n hn).2.2
  fun_induction encodeBytes bs with
  | case1 => simp at h
  | case2 a =>
      have ha := a.toNat_lt
      simp only [List.mem_cons, List.not_mem_nil, or_false]
        at h
      rcases h with rfl | rfl | rfl | rfl
      · exact hSymbol _ (by omega)
      · exact hSymbol _ (by omega)
      · exact hPad
      · exact hPad
  | case3 a b' =>
      have ha := a.toNat_lt
      have hb := b'.toNat_lt
      simp only [List.mem_cons, List.not_mem_nil, or_false]
        at h
      rcases h with rfl | rfl | rfl | rfl
      · exact hSymbol _ (by omega)
      · exact hSymbol _ (by omega)
      · exact hSymbol _ (by omega)
      · exact hPad
  | case4 a b' c rest ih =>
      have ha := a.toNat_lt
      have hb := b'.toNat_lt
      have hc := c.toNat_lt
      simp only [List.mem_cons] at h
      rcases h with rfl | rfl | rfl | rfl | h
      · exact hSymbol _ (by omega)
      · exact hSymbol _ (by omega)
      · exact hSymbol _ (by omega)
      · exact hSymbol _ (by omega)
      · exact ih h

/- Bytes that are ASCII are the encoding of their characters. -/
theorem ofChars_of_ascii
    (bs : Bytes)
    (hAscii : ∀ b ∈ bs, b.toNat < 0x80) :
    Bytes.ofChars (bs.map fun b => Char.ofNat b.toNat) =
      bs := by
  induction bs with
  | nil => rfl
  | cons b rest ih =>
      have hb : b.toNat < 0x80 := hAscii b (by simp)
      have hChar : (Char.ofNat b.toNat).toNat = b.toNat :=
        Bytes.toNat_charOfNat (by omega)
      rw [List.map_cons, Bytes.ofChars_ascii (by omega),
        hChar, UInt8.ofNat_toNat,
        ih fun b' hb' => hAscii b' (by simp [hb'])]

/- The bytes of an encoding as text are its symbols. -/
theorem ofText_encode
    (bs : Bytes) :
    Bytes.ofText (encode bs) = encodeBytes bs := by
  unfold encode
  rw [Bytes.ofText_ofList]
  exact ofChars_of_ascii _ fun b hb => (mem_encodeBytes hb).1

/- Nothing is trimmed from an encoding. -/
theorem trim_encode
    (bs : Bytes) :
    Text.trim (encode bs) = encode bs := by
  unfold encode Text.trim
  rw [String.toList_ofList, Text.trimChars_of_forall]
  intro c hc
  rcases List.mem_map.mp hc with ⟨b, hb, rfl⟩
  exact (mem_encodeBytes hb).2

/- Decoding an encoding gives back the bytes. -/
theorem decode_encode
    (bs : Bytes) :
    decode (Bytes.ofText (Text.trim (encode bs))) =
      .ok bs := by
  rw [trim_encode, ofText_encode, decode_encodeBytes]

/- Only the empty byte string has the empty encoding. -/
theorem encode_eq_empty_iff
    (bs : Bytes) :
    encode bs = "" ↔ bs = [] := by
  constructor
  · intro h
    have hDecoded := decode_encodeBytes bs
    rw [← ofText_encode, h] at hDecoded
    cases hDecoded
    rfl
  · rintro rfl
    rfl

end Base64
end WorkspaceClient
