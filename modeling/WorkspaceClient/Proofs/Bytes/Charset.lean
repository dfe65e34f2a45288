import WorkspaceClient.Bytes.Charset
import WorkspaceClient.Proofs.Bytes.Utf8

/-
  This file shows that a text is read back from its bytes in
  the sets of Unicode, and that a mark at the front decides
  how bytes are read.

  Key definitions include:
    * `Bytes.IsUnmarked`
    * `Bytes.Wide.encode`

  Main declarations:
    * `Bytes.Lossy.decode_ofChars`
    * `Bytes.Wide.decode_encode`
    * `Bytes.toTextAs_utf8`
    * `Bytes.toTextAs_wide`
    * `Bytes.toTextAs_single`
    * `Bytes.toTextAs_marked`
    * `Charset.ofLabel?_of_mem`
-/

namespace WorkspaceClient
namespace Bytes

------------------------------------------------------------
-- UTF-8
------------------------------------------------------------

namespace Lossy

/- What the first bytes of the sequences announce. -/
theorem secondRange?_two :
    ∀ k < 32,
      2 ≤ k →
        secondRange? (UInt8.ofNat (k + 0xC0)) =
            some (1, UInt8.ofNat 0x80, UInt8.ofNat 0xBF) ∧
          firstBits 1 (UInt8.ofNat (k + 0xC0)) = k := by
  decide

theorem secondRange?_three :
    ∀ k < 16,
      secondRange? (UInt8.ofNat (k + 0xE0)) =
          some
            (2, UInt8.ofNat (if k = 0 then 0xA0 else 0x80),
              UInt8.ofNat (if k = 13 then 0x9F else 0xBF)) ∧
        firstBits 2 (UInt8.ofNat (k + 0xE0)) = k := by
  decide

theorem secondRange?_four :
    ∀ k < 5,
      secondRange? (UInt8.ofNat (k + 0xF0)) =
          some
            (3, UInt8.ofNat (if k = 0 then 0x90 else 0x80),
              UInt8.ofNat (if k = 4 then 0x8F else 0xBF)) ∧
        firstBits 3 (UInt8.ofNat (k + 0xF0)) = k := by
  decide

theorem toNat_ofNat
    {n : Nat}
    (h : n < 0x100) :
    (UInt8.ofNat n).toNat = n := by
  rw [UInt8.toNat_ofNat']
  exact Nat.mod_eq_of_lt h

theorem decode_ascii
    {n : Nat}
    (h : n < 0x80)
    (rest : Bytes) :
    decode none (UInt8.ofNat n :: rest) =
      Char.ofNat n :: decode none rest := by
  have hNat : (UInt8.ofNat n).toNat = n :=
    toNat_ofNat (by omega)
  have hSmall : UInt8.ofNat n < 0x80 := by
    rw [UInt8.lt_iff_toNat_lt, hNat]
    exact h
  rw [decode, step, start, if_pos hSmall, hNat]
  rfl

/- A first byte opens a sequence. -/
theorem decode_open
    {n size : Nat}
    {low high : UInt8}
    (hLarge : 0x80 ≤ n)
    (hByte : n < 0x100)
    (hRange :
      secondRange? (UInt8.ofNat n) = some (size, low, high))
    (rest : Bytes) :
    decode none (UInt8.ofNat n :: rest) =
      decode
        (some
          ⟨size, firstBits size (UInt8.ofNat n), low, high⟩)
        rest := by
  have hNot : ¬ UInt8.ofNat n < 0x80 := by
    rw [UInt8.lt_iff_toNat_lt, toNat_ofNat hByte]
    exact Nat.not_lt.mpr hLarge
  rw [decode, step, start, if_neg hNot, hRange]
  rfl

section

variable {missing bits m low high : Nat}

/- A byte of the next range is taken into the sequence. -/
theorem step_next
    (hLow : low ≤ m + 0x80)
    (hHigh : m + 0x80 ≤ high)
    (hByte : high < 0xC0) :
    step
        (some
          ⟨missing, bits, UInt8.ofNat low, UInt8.ofNat high⟩)
        (UInt8.ofNat (m + 0x80)) =
      if missing = 1 then
        ([Char.ofNat (64 * bits + m)], none)
      else
        ([], some ⟨missing - 1, 64 * bits + m, 0x80, 0xBF⟩) := by
  have hRange :
      UInt8.ofNat low ≤ UInt8.ofNat (m + 0x80) ∧
        UInt8.ofNat (m + 0x80) ≤ UInt8.ofNat high := by
    rw [UInt8.le_iff_toNat_le, UInt8.le_iff_toNat_le,
      toNat_ofNat (by omega), toNat_ofNat (by omega),
      toNat_ofNat (by omega)]
    exact ⟨hLow, hHigh⟩
  have hBits : (UInt8.ofNat (m + 0x80)).toNat % 64 = m := by
    rw [toNat_ofNat (by omega)]
    omega
  rw [step, if_pos hRange, hBits]

theorem decode_next
    (hMore : missing ≠ 1)
    (hLow : low ≤ m + 0x80)
    (hHigh : m + 0x80 ≤ high)
    (hByte : high < 0xC0)
    (rest : Bytes) :
    decode
        (some
          ⟨missing, bits, UInt8.ofNat low, UInt8.ofNat high⟩)
        (UInt8.ofNat (m + 0x80) :: rest) =
      decode
        (some
          ⟨missing - 1, 64 * bits + m, UInt8.ofNat 0x80,
            UInt8.ofNat 0xBF⟩) rest := by
  rw [decode, step_next hLow hHigh hByte, if_neg hMore]
  rfl

theorem decode_last
    (hLow : low ≤ m + 0x80)
    (hHigh : m + 0x80 ≤ high)
    (hByte : high < 0xC0)
    (rest : Bytes) :
    decode
        (some ⟨1, bits, UInt8.ofNat low, UInt8.ofNat high⟩)
        (UInt8.ofNat (m + 0x80) :: rest) =
      Char.ofNat (64 * bits + m) :: decode none rest := by
  rw [decode, step_next hLow hHigh hByte, if_pos rfl]
  rfl

end

section

variable {k m₁ m₂ m₃ : Nat}

theorem decode_two
    (hSmall : k < 32)
    (hLong : 2 ≤ k)
    (h₁ : m₁ < 64)
    (rest : Bytes) :
    decode none
        (UInt8.ofNat (k + 0xC0) :: UInt8.ofNat (m₁ + 0x80)
          :: rest) =
      Char.ofNat (64 * k + m₁) :: decode none rest := by
  rcases secondRange?_two k hSmall hLong with ⟨hRange, hBits⟩
  rw [decode_open (by omega) (by omega) hRange, hBits,
    decode_last (by omega) (by omega) (by omega)]

theorem decode_three
    (hSmall : k < 16)
    (hLong : k = 0 → 32 ≤ m₁)
    (hPlain : k = 13 → m₁ < 32)
    (h₁ : m₁ < 64)
    (h₂ : m₂ < 64)
    (rest : Bytes) :
    decode none
        (UInt8.ofNat (k + 0xE0) :: UInt8.ofNat (m₁ + 0x80)
          :: UInt8.ofNat (m₂ + 0x80) :: rest) =
      Char.ofNat (64 * (64 * k + m₁) + m₂)
        :: decode none rest := by
  rcases secondRange?_three k hSmall with ⟨hRange, hBits⟩
  rw [decode_open (by omega) (by omega) hRange, hBits,
    decode_next (by decide) (by split <;> omega)
      (by split <;> omega) (by split <;> omega),
    decode_last (by omega) (by omega) (by omega)]

theorem decode_four
    (hSmall : k < 5)
    (hLong : k = 0 → 16 ≤ m₁)
    (hPlane : k = 4 → m₁ < 16)
    (h₁ : m₁ < 64)
    (h₂ : m₂ < 64)
    (h₃ : m₃ < 64)
    (rest : Bytes) :
    decode none
        (UInt8.ofNat (k + 0xF0) :: UInt8.ofNat (m₁ + 0x80)
          :: UInt8.ofNat (m₂ + 0x80)
          :: UInt8.ofNat (m₃ + 0x80) :: rest) =
      Char.ofNat (64 * (64 * (64 * k + m₁) + m₂) + m₃)
        :: decode none rest := by
  rcases secondRange?_four k hSmall with ⟨hRange, hBits⟩
  rw [decode_open (by omega) (by omega) hRange, hBits,
    decode_next (by decide) (by split <;> omega)
      (by split <;> omega) (by split <;> omega),
    decode_next (by decide) (by omega) (by omega) (by omega),
    decode_last (by omega) (by omega) (by omega)]

end

/- The numbers of characters leave the surrogates out. -/
theorem toNat_cases
    (c : Char) :
    c.toNat < 0xD800 ∨
      (0xDFFF < c.toNat ∧ c.toNat < 0x110000) :=
  c.valid

/- A character is read back from its bytes. -/
theorem decode_utf8EncodeChar
    (c : Char)
    (rest : Bytes) :
    decode none (String.utf8EncodeChar c ++ rest) =
      c :: decode none rest := by
  have hRange := toNat_cases c
  have hChar : Char.ofNat c.toNat = c := Char.ofNat_toNat c
  have hVal : c.val.toNat = c.toNat := rfl
  generalize c.toNat = v at hRange hChar hVal
  unfold String.utf8EncodeChar
  simp only [hVal]
  split
  · rw [List.singleton_append, decode_ascii (by omega), hChar]
  split
  · rw [List.cons_append, List.singleton_append,
      decode_two (by omega) (by omega) (by omega)]
    have hBits : 64 * (v / 64 % 32) + v % 64 = v := by omega
    rw [hBits, hChar]
  split
  · simp only [List.cons_append, List.nil_append]
    rw [decode_three (by omega) (by omega) (by omega)
      (by omega) (by omega)]
    have hBits :
        64 * (64 * (v / 4096 % 16) + v / 64 % 64) + v % 64 =
          v := by
      omega
    rw [hBits, hChar]
  · simp only [List.cons_append, List.nil_append]
    rw [decode_four (by omega) (by omega) (by omega)
      (by omega) (by omega) (by omega)]
    have hBits :
        64
              * (64 * (64 * (v / 262144 % 8) + v / 4096 % 64)
                + v / 64 % 64)
            + v % 64 =
          v := by
      omega
    rw [hBits, hChar]

/- A text is read back from its bytes. -/
theorem decode_ofChars
    (cs : List Char) :
    decode none (ofChars cs) = cs := by
  induction cs with
  | nil => rfl
  | cons c cs ih =>
      rw [ofChars_cons, decode_utf8EncodeChar, ih]

end Lossy

------------------------------------------------------------
-- Units of two bytes
------------------------------------------------------------

namespace Wide

/- The units of a character: one, or the two of a pair. -/
def unitsOf
    (c : Char) : List Nat :=
  if c.toNat < 0x10000 then
    [c.toNat]
  else
    [0xD800 + (c.toNat - 0x10000) / 1024,
      0xDC00 + (c.toNat - 0x10000) % 1024]

/- The two bytes of a unit. -/
def unitBytes
    (bigEndian : Bool)
    (u : Nat) : Bytes :=
  if bigEndian then
    [UInt8.ofNat (u / 256), UInt8.ofNat (u % 256)]
  else
    [UInt8.ofNat (u % 256), UInt8.ofNat (u / 256)]

/- The bytes of characters in units of two. -/
def encode
    (bigEndian : Bool)
    (cs : List Char) : Bytes :=
  (cs.flatMap unitsOf).flatMap (unitBytes bigEndian)

theorem lt_of_mem_unitsOf
    {c : Char}
    {u : Nat}
    (h : u ∈ unitsOf c) :
    u < 0x10000 := by
  have hRange := Lossy.toNat_cases c
  unfold unitsOf at h
  split at h
  · next hSmall =>
      rw [List.mem_singleton.mp h]
      exact hSmall
  · simp only [List.mem_cons, List.not_mem_nil, or_false] at h
    omega

/- Units are read back from their bytes. -/
theorem units_unitBytes
    (bigEndian : Bool)
    {us : List Nat}
    (h : ∀ u ∈ us, u < 0x10000) :
    units bigEndian (us.flatMap (unitBytes bigEndian)) =
      (us, false) := by
  induction us with
  | nil => rfl
  | cons u us ih =>
      rw [List.forall_mem_cons] at h
      have hHigh : (UInt8.ofNat (u / 256)).toNat = u / 256 :=
        Lossy.toNat_ofNat (by omega)
      have hLow : (UInt8.ofNat (u % 256)).toNat = u % 256 :=
        Lossy.toNat_ofNat (by omega)
      rw [List.flatMap_cons]
      cases bigEndian with
      | true =>
          simp only [unitBytes, if_true, List.cons_append,
            List.nil_append, units, hHigh, hLow, ih h.2,
            Nat.div_add_mod]
      | false =>
          simp only [unitBytes, Bool.false_eq_true, if_false,
            List.cons_append, List.nil_append, units, hHigh,
            hLow, ih h.2, Nat.div_add_mod]

/- A character is read back from its units. -/
theorem ofUnits_unitsOf
    (c : Char)
    (us : List Nat) :
    ofUnits false none (unitsOf c ++ us) =
      c :: ofUnits false none us := by
  have hRange := Lossy.toNat_cases c
  have hChar : Char.ofNat c.toNat = c := Char.ofNat_toNat c
  unfold unitsOf
  generalize c.toNat = v at hRange hChar
  split
  · have hLead : isLead v = false := by
      simp [isLead]
      omega
    have hTrail : isTrail v = false := by
      simp [isTrail]
      omega
    rw [List.singleton_append, ofUnits, step, start, hLead,
      hTrail, hChar]
    rfl
  · have hLead : isLead (0xD800 + (v - 0x10000) / 1024) = true := by
      simp [isLead]
      omega
    have hTrail :
        isTrail (0xDC00 + (v - 0x10000) % 1024) = true := by
      simp [isTrail]
      omega
    have hPair :
        ofPair (0xD800 + (v - 0x10000) / 1024)
            (0xDC00 + (v - 0x10000) % 1024) =
          c := by
      have hSum :
          0x10000
                + 1024
                  * (0xD800 + (v - 0x10000) / 1024 - 0xD800)
              + (0xDC00 + (v - 0x10000) % 1024 - 0xDC00) =
            v := by
        omega
      rw [ofPair, hSum, hChar]
    rw [List.cons_append, List.singleton_append, ofUnits,
      step, start, if_pos hLead]
    dsimp only
    rw [ofUnits, step, if_pos hTrail, hPair]
    rfl

/- A text is read back from its bytes. -/
theorem decode_encode
    (bigEndian : Bool)
    (cs : List Char) :
    decode bigEndian (encode bigEndian cs) = cs := by
  have hUnits : ∀ u ∈ cs.flatMap unitsOf, u < 0x10000 := by
    intro u hu
    rcases List.mem_flatMap.mp hu with ⟨c, _, hc⟩
    exact lt_of_mem_unitsOf hc
  unfold decode encode
  rw [units_unitBytes bigEndian hUnits]
  dsimp only
  induction cs with
  | nil => rfl
  | cons c cs ih =>
      rw [List.flatMap_cons, ofUnits_unitsOf, ih]
      intro u hu
      apply hUnits
      rw [List.flatMap_cons]
      exact List.mem_append_right _ hu

end Wide

------------------------------------------------------------
-- Marks
------------------------------------------------------------

/- No mark stands at the front of bytes. -/
def IsUnmarked
    (bs : Bytes) : Prop :=
  ¬ [0xEF, 0xBB, 0xBF] <+: bs ∧
    ¬ [0xFF, 0xFE] <+: bs ∧
    ¬ [0xFE, 0xFF] <+: bs

instance : DecidablePred IsUnmarked := fun _ =>
  inferInstanceAs (Decidable (_ ∧ _))

section

variable {bs : Bytes}
variable {s : String}

theorem toTextAs_of_unmarked
    (charset : Charset)
    (h : IsUnmarked bs) :
    toTextAs charset bs = toTextUnmarked bs charset := by
  unfold toTextAs
  split
  · exact absurd ⟨_, rfl⟩ h.1
  · exact absurd ⟨_, rfl⟩ h.2.1
  · exact absurd ⟨_, rfl⟩ h.2.2
  · rfl

/- Only the character of the mark is written like it. -/
theorem isUnmarked_ofText
    (h : s.toList.head? ≠ some '\ufeff') :
    IsUnmarked (ofText s) := by
  have hRead := Lossy.decode_ofChars s.toList
  rw [ofText_eq]
  refine ⟨?_, ?_, ?_⟩
  · rintro ⟨rest, hRest⟩
    have hMark :
        Lossy.decode none ([0xEF, 0xBB, 0xBF] ++ rest) =
          '\ufeff' :: Lossy.decode none rest :=
      Lossy.decode_utf8EncodeChar '\ufeff' rest
    rw [← hRest, hMark] at hRead
    rw [← hRead] at h
    exact h rfl
  -- the two other marks begin with bytes of no character
  · rintro ⟨rest, hRest⟩
    have hMark :
        Lossy.decode none ([0xFF, 0xFE] ++ rest) =
          Lossy.replacement
            :: Lossy.decode none (0xFE :: rest) :=
      rfl
    rw [← hRest, hMark] at hRead
    rw [← hRead] at hRest
    cases hRest
  · rintro ⟨rest, hRest⟩
    have hMark :
        Lossy.decode none ([0xFE, 0xFF] ++ rest) =
          Lossy.replacement
            :: Lossy.decode none (0xFF :: rest) :=
      rfl
    rw [← hRest, hMark] at hRead
    rw [← hRead] at hRest
    cases hRest

------------------------------------------------------------
-- Texts
------------------------------------------------------------

/- A text in UTF-8 is read as it is. -/
theorem toTextAs_utf8
    (h : s.toList.head? ≠ some '\ufeff') :
    toTextAs .utf8 (ofText s) = s := by
  rw [toTextAs_of_unmarked _ (isUnmarked_ofText h),
    ofText_eq, toTextUnmarked, Lossy.decode_ofChars,
    String.ofList_toList]

/- So is one in units of two bytes. -/
theorem toTextAs_wide
    (bigEndian : Bool)
    (h : IsUnmarked (Wide.encode bigEndian s.toList)) :
    toTextAs (.wide bigEndian)
        (Wide.encode bigEndian s.toList) =
      s := by
  rw [toTextAs_of_unmarked _ h, toTextUnmarked,
    Wide.decode_encode, String.ofList_toList]

/- In a set of single bytes, ASCII is read as it is. -/
theorem toTextAs_single
    (upper : List Char)
    (hAscii : ∀ c ∈ s.toList, c.toNat < 0x80) :
    toTextAs (.single upper) (ofText s) = s := by
  have hHead : s.toList.head? ≠ some '\ufeff' := by
    intro hHead
    exact absurd (hAscii _ (List.mem_of_head? hHead)) (by decide)
  have hBytes :
      ∀ cs : List Char,
        (∀ c ∈ cs, c.toNat < 0x80) →
          (ofChars cs).map (singleChar upper) = cs := by
    intro cs hcs
    induction cs with
    | nil => rfl
    | cons c cs ih =>
        rw [List.forall_mem_cons] at hcs
        have hNat : (UInt8.ofNat c.toNat).toNat = c.toNat :=
          Lossy.toNat_ofNat (by omega)
        have hSmall : UInt8.ofNat c.toNat < 0x80 := by
          rw [UInt8.lt_iff_toNat_lt, hNat]
          exact hcs.1
        rw [ofChars_ascii hcs.1, List.map_cons, ih hcs.2,
          singleChar, if_pos hSmall, hNat, Char.ofNat_toNat]
  rw [toTextAs_of_unmarked _ (isUnmarked_ofText hHead),
    ofText_eq, toTextUnmarked, hBytes _ hAscii,
    String.ofList_toList]

/- A mark decides, whatever set is named. -/
theorem toTextAs_marked
    (charset : Charset)
    (s : String) :
    toTextAs charset (0xEF :: 0xBB :: 0xBF :: ofText s) = s ∧
      toTextAs charset
          (0xFF :: 0xFE :: Wide.encode false s.toList) =
        s ∧
      toTextAs charset
          (0xFE :: 0xFF :: Wide.encode true s.toList) =
        s := by
  unfold toTextAs toTextUnmarked
  simp only [ofText_eq, Lossy.decode_ofChars,
    Wide.decode_encode, String.ofList_toList, and_self]

end

end Bytes

------------------------------------------------------------
-- Names
------------------------------------------------------------

/- A set of Unicode is known by each of its names. -/
theorem Charset.ofLabel?_of_mem
    {charset : Charset}
    {names : List String}
    (hSet : (charset, names) ∈ unicode)
    {name : String}
    (hName : name ∈ names) :
    ofLabel? name.toList = some charset := by
  have hAll :
      (unicode.all fun entry =>
        entry.2.all fun name =>
          ofLabel? name.toList == some entry.1) =
        true := by
    decide +kernel
  simp only [List.all_eq_true, beq_iff_eq] at hAll
  exact hAll _ hSet _ hName

end WorkspaceClient
