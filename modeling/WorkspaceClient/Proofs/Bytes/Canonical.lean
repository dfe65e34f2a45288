import WorkspaceClient.Proofs.Bytes.Base64
import WorkspaceClient.Proofs.Result

/-
  This file shows that only an encoding can be decoded, so
  every byte string has one base64 text: the alphabet has
  one symbol for each value, the padding is complete, and
  bits that are not needed are zero.

  Main declarations:
    * `Base64.value?_eq_some_iff`
    * `Base64.lastGroup_eq`
    * `Base64.encodeBytes_of_decode`
    * `Base64.decode_eq_ok_iff`
-/

namespace WorkspaceClient

namespace Base64

------------------------------------------------------------
-- Symbols
------------------------------------------------------------

/- A value has one symbol. -/
theorem value?_eq_some_iff
    {b : UInt8}
    {n : Nat} :
    value? b = some n ↔ n < 64 ∧ symbol n = b := by
  constructor
  · have hAll :
        ∀ k < 256, ∀ n ∈ value? (UInt8.ofNat k),
          n < 64 ∧ symbol n = UInt8.ofNat k := by
      decide +kernel
    intro h
    have hThis := hAll b.toNat b.toNat_lt n
    rw [UInt8.ofNat_toNat] at hThis
    exact hThis h
  · rintro ⟨hSmall, rfl⟩
    exact (symbol_spec n hSmall).1

theorem valueAt_eq_ok_iff
    {offset n : Nat}
    {b : UInt8} :
    valueAt offset b = .ok n ↔ n < 64 ∧ symbol n = b := by
  rw [← value?_eq_some_iff]
  unfold valueAt
  cases value? b <;> simp

------------------------------------------------------------
-- Groups
------------------------------------------------------------

/-
  The symbols of the last group are those of its values, and
  nothing but padding follows them.
-/
theorem lastGroup_eq
    {offset index pads : Nat}
    {group : Bytes}
    {values : List Nat}
    (h : lastGroup offset index group = .ok (values, pads)) :
    (∀ n ∈ values, n < 64) ∧
      group = values.map symbol ++ List.replicate pads pad := by
  induction group generalizing index values pads with
  | nil =>
      cases h
      exact ⟨nofun, rfl⟩
  | cons b rest ih =>
      rw [lastGroup] at h
      by_cases hPad : b = pad
      · rw [if_pos hPad] at h
        split at h
        · cases h
        · next hEnd =>
            cases h
            have hAll : ∀ c ∈ rest, c = pad := by
              simpa using (not_or.mp hEnd).2
            refine ⟨nofun, ?_⟩
            rw [hPad, List.replicate_succ,
              ← List.eq_replicate_of_mem hAll]
            rfl
      · rw [if_neg hPad] at h
        rcases Result.ok_of_bind h with ⟨n, hValue, h⟩
        rcases Result.ok_of_bind h with
          ⟨⟨more, pads'⟩, hRest, h⟩
        cases h
        rcases ih hRest with ⟨hSmall, hGroup⟩
        rcases valueAt_eq_ok_iff.mp hValue with ⟨hLow, hSymbol⟩
        refine ⟨List.forall_mem_cons.mpr ⟨hLow, hSmall⟩, ?_⟩
        rw [hGroup, ← hSymbol]
        rfl

/- The first two values of a group are found in its bytes. -/
theorem firstValue_eq
    {a b : Nat}
    (ha : a < 64)
    (hb : b < 64) :
    (a * 4 + b / 16) % 256 / 4 = a := by
  omega

theorem secondValue_eq
    {a b c : Nat}
    (hb : b < 64)
    (hc : c < 64) :
    (a * 4 + b / 16) % 256 % 4 * 16
        + (b % 16 * 16 + c / 4) % 256 / 16 = b := by
  omega

/- Three bytes that were joined have four symbols. -/
theorem encodeBytes_joinFour
    {a b c d : Nat}
    (rest : Bytes)
    (ha : a < 64)
    (hb : b < 64)
    (hc : c < 64)
    (hd : d < 64) :
    encodeBytes (joinFour a b c d ++ rest) =
      symbol a :: symbol b :: symbol c :: symbol d
        :: encodeBytes rest := by
  have hThird :
      (b % 16 * 16 + c / 4) % 256 % 16 * 4
          + (c % 4 * 64 + d) % 256 / 64 = c := by
    omega
  have hFourth : (c % 4 * 64 + d) % 256 % 64 = d := by omega
  simp only [joinFour, List.cons_append, List.nil_append,
    encodeBytes, UInt8.toNat_ofNat']
  rw [firstValue_eq ha hb, secondValue_eq hb hc, hThird,
    hFourth]

/- One byte has two symbols, and two bytes have three. -/
theorem encodeBytes_one
    {a b : Nat}
    (ha : a < 64)
    (hb : b < 64)
    (hBits : b % 16 = 0) :
    encodeBytes [UInt8.ofNat (a * 4 + b / 16)] =
      [symbol a, symbol b, pad, pad] := by
  have hSecond : (a * 4 + b / 16) % 256 % 4 * 16 = b := by omega
  simp only [encodeBytes, UInt8.toNat_ofNat']
  rw [firstValue_eq ha hb, hSecond]

theorem encodeBytes_two
    {a b c : Nat}
    (ha : a < 64)
    (hb : b < 64)
    (hc : c < 64)
    (hBits : c % 4 = 0) :
    encodeBytes
        [UInt8.ofNat (a * 4 + b / 16),
          UInt8.ofNat (b % 16 * 16 + c / 4)] =
      [symbol a, symbol b, symbol c, pad] := by
  have hThird :
      (b % 16 * 16 + c / 4) % 256 % 16 * 4 = c := by
    omega
  simp only [encodeBytes, UInt8.toNat_ofNat']
  rw [firstValue_eq ha hb, secondValue_eq hb hc, hThird]

/- A check that did not fail has passed. -/
theorem passed_of_check
    {p : Prop}
    [Decidable p]
    {fault : Fault}
    {result : Except Fault Bytes}
    {bs : Bytes}
    (h : (if p then .error fault else result) = .ok bs) :
    ¬ p ∧ result = .ok bs := by
  by_cases hCheck : p
  · rw [if_pos hCheck] at h
    cases h
  · rw [if_neg hCheck] at h
    exact ⟨hCheck, h⟩

/- The last group is the encoding of its bytes. -/
theorem encodeBytes_of_decodeLast
    {offset : Nat}
    {group bs : Bytes}
    (hLength : group.length ≤ 4)
    (h : decodeLast offset group = .ok bs) :
    encodeBytes bs = group := by
  unfold decodeLast at h
  rcases Result.ok_of_bind h with
    ⟨⟨values, pads⟩, hGroup, h⟩
  rcases lastGroup_eq hGroup with ⟨hSmall, hParts⟩
  simp only at h
  split at h
  · by_cases hEmpty : group.isEmpty = true
    · rw [if_pos hEmpty] at h
      cases h
      rw [List.isEmpty_iff.mp hEmpty]
      rfl
    · rw [if_neg hEmpty] at h
      cases h
  · cases h
  · next a b =>
      rcases passed_of_check h with ⟨hPads, hRest⟩
      rcases passed_of_check hRest with ⟨hBits, hBytes⟩
      cases hBytes
      rw [hParts, Decidable.not_not.mp hPads]
      exact
        encodeBytes_one (hSmall a (by simp))
          (hSmall b (by simp)) (Decidable.not_not.mp hBits)
  · next a b c =>
      rcases passed_of_check h with ⟨hPads, hRest⟩
      rcases passed_of_check hRest with ⟨hBits, hBytes⟩
      cases hBytes
      rw [hParts, Decidable.not_not.mp hPads]
      exact
        encodeBytes_two (hSmall a (by simp))
          (hSmall b (by simp)) (hSmall c (by simp))
          (Decidable.not_not.mp hBits)
  · next a b c d more =>
      cases h
      rw [hParts] at hLength ⊢
      simp only [List.length_append, List.length_map,
        List.length_cons, List.length_replicate]
        at hLength
      have hNone : more = [] :=
        List.eq_nil_of_length_eq_zero (by omega)
      have hPads : pads = 0 := by omega
      subst hNone hPads
      exact
        encodeBytes_joinFour [] (hSmall a (by simp))
          (hSmall b (by simp)) (hSmall c (by simp))
          (hSmall d (by simp))

/- What is decoded from some symbols has these symbols. -/
theorem encodeBytes_of_decodeGroups
    {offset : Nat}
    {text bs : Bytes}
    (h : decodeGroups offset text = .ok bs) :
    encodeBytes bs = text := by
  fun_induction decodeGroups offset text generalizing bs with
  | case1 offset a b c d e rest ih =>
      rcases Result.ok_of_bind h with ⟨va, ha, h⟩
      rcases Result.ok_of_bind h with ⟨vb, hb, h⟩
      rcases Result.ok_of_bind h with ⟨vc, hc, h⟩
      rcases Result.ok_of_bind h with ⟨vd, hd, h⟩
      rcases Result.ok_of_bind h with ⟨bytes, hBytes, h⟩
      cases h
      rcases valueAt_eq_ok_iff.mp ha with ⟨hFirst, rfl⟩
      rcases valueAt_eq_ok_iff.mp hb with ⟨hSecond, rfl⟩
      rcases valueAt_eq_ok_iff.mp hc with ⟨hThird, rfl⟩
      rcases valueAt_eq_ok_iff.mp hd with ⟨hFourth, rfl⟩
      rw [encodeBytes_joinFour bytes hFirst hSecond hThird
        hFourth, ih hBytes]
  | case2 offset group hShort =>
      apply encodeBytes_of_decodeLast _ h
      match group with
      | [] => simp
      | [_] => simp
      | [_, _] => simp
      | [_, _, _] => simp
      | [_, _, _, _] => simp
      | a :: b :: c :: d :: e :: rest =>
          exact (hShort a b c d e rest rfl).elim

------------------------------------------------------------
-- Texts
------------------------------------------------------------

/- What is decoded from a text has this text. -/
theorem encodeBytes_of_decode
    {text bs : Bytes}
    (h : decode text = .ok bs) :
    encodeBytes bs = text := by
  unfold decode at h
  split at h
  · cases h
  · exact encodeBytes_of_decodeGroups h

/- Only the encoding of some bytes decodes to them. -/
theorem decode_eq_ok_iff
    {s : String}
    {bs : Bytes} :
    decode (Bytes.ofText s) = .ok bs ↔ encode bs = s := by
  constructor
  · intro h
    rw [← Bytes.ofText_inj, ofText_encode,
      encodeBytes_of_decode h]
  · rintro rfl
    rw [ofText_encode, decode_encodeBytes]

end Base64
end WorkspaceClient
