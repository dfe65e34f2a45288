import WorkspaceClient.Bytes.Basic
import WorkspaceClient.Text.Search

/-
  This file shows how the encoding of a text is built from
  the encodings of its characters, and what bytes these are:
  an ASCII character is one byte with its own number, and
  every other character only has bytes above the ASCII ones.
  A hexadecimal digit is an ASCII character.

  It also shows where the encoding of a text can be cut into
  encodings of texts: around each of its characters.

  Key definitions include:
    * `Bytes.ofChars`
    * `Bytes.IsText`

  Main declarations:
    * `Bytes.ofText_ofList`
    * `Bytes.ofChars_ascii`
    * `Bytes.le_of_mem_utf8EncodeChar`
    * `Bytes.toNat_eq_of_mem_utf8EncodeChar`
    * `Bytes.ascii_of_hexValue?`
    * `Bytes.exists_cons_of_ofChars`
    * `Bytes.isText_of_ascii`
    * `Bytes.IsText.around`
-/

namespace WorkspaceClient
namespace Bytes

------------------------------------------------------------
-- Characters
------------------------------------------------------------

/- The encodings of several characters, one after another. -/
def ofChars
    (cs : List Char) : Bytes :=
  cs.flatMap String.utf8EncodeChar

@[simp] theorem ofChars_nil :
    ofChars [] = [] := rfl

theorem ofChars_cons
    (c : Char)
    (cs : List Char) :
    ofChars (c :: cs) =
      String.utf8EncodeChar c ++ ofChars cs := rfl

@[simp] theorem ofChars_append
    (cs ds : List Char) :
    ofChars (cs ++ ds) = ofChars cs ++ ofChars ds := by
  simp [ofChars]

/- A text is encoded character by character. -/
theorem ofText_ofList
    (cs : List Char) :
    ofText (String.ofList cs) = ofChars cs := by
  unfold ofText ofChars
  rw [String.toByteArray_ofList]
  simp [List.utf8Encode]

theorem ofText_eq
    (s : String) :
    ofText s = ofChars s.toList := by
  rw [← ofText_ofList, String.ofList_toList]

/- The bytes of a text determine the text. -/
theorem ofText_inj
    {s t : String} :
    ofText s = ofText t ↔ s = t := by
  constructor
  · intro h
    have hRead := toText?_ofText s
    rw [h, toText?_ofText] at hRead
    exact (Option.some.inj hRead).symm
  · rintro rfl
    rfl

theorem toText?_eq_some_iff
    {bs : Bytes}
    {s : String} :
    toText? bs = some s ↔ ofText s = bs := by
  constructor
  · exact ofText_of_toText?
  · rintro rfl
    exact toText?_ofText s

theorem ofText_append
    (s t : String) :
    ofText (s ++ t) = ofText s ++ ofText t := by
  rw [ofText_eq, ofText_eq, ofText_eq, String.toList_append,
    ofChars_append]

------------------------------------------------------------
-- Bytes of a character
------------------------------------------------------------

/- A number below the surrogates is that of a character. -/
theorem toNat_charOfNat
    {n : Nat}
    (h : n < 0xD800) :
    (Char.ofNat n).toNat = n := by
  unfold Char.ofNat
  rw [dif_pos (.inl h)]
  rfl

/- An ASCII character is the byte of its number. -/
theorem utf8EncodeChar_ascii
    {c : Char}
    (h : c.toNat < 0x80) :
    String.utf8EncodeChar c = [UInt8.ofNat c.toNat] := by
  have hSmall : c.val.toNat ≤ 0x7F := by
    change c.toNat ≤ 0x7F
    omega
  unfold String.utf8EncodeChar
  simp only
  rw [if_pos hSmall]
  rfl

theorem ofChars_ascii
    {c : Char}
    (h : c.toNat < 0x80)
    (cs : List Char) :
    ofChars (c :: cs) =
      UInt8.ofNat c.toNat :: ofChars cs := by
  rw [ofChars_cons, utf8EncodeChar_ascii h]
  rfl

/- The bytes of any other character are above ASCII. -/
theorem le_of_mem_utf8EncodeChar
    {c : Char}
    {b : UInt8}
    (h : 0x80 ≤ c.toNat)
    (hb : b ∈ String.utf8EncodeChar c) :
    0x80 ≤ b := by
  have hLarge : ¬ c.val.toNat ≤ 0x7F := by
    change ¬ c.toNat ≤ 0x7F
    omega
  have hByte :
      ∀ n : Nat, 0x80 ≤ n % 0x100 → 0x80 ≤ UInt8.ofNat n := by
    intro n hn
    rw [UInt8.le_iff_toNat_le, UInt8.toNat_ofNat']
    exact hn
  unfold String.utf8EncodeChar at hb
  simp only [if_neg hLarge] at hb
  split at hb
  · simp only [List.mem_cons, List.not_mem_nil, or_false]
      at hb
    rcases hb with rfl | rfl
    all_goals exact hByte _ (by omega)
  · split at hb
    · simp only [List.mem_cons, List.not_mem_nil, or_false]
        at hb
      rcases hb with rfl | rfl | rfl
      all_goals exact hByte _ (by omega)
    · simp only [List.mem_cons, List.not_mem_nil, or_false]
        at hb
      rcases hb with rfl | rfl | rfl | rfl
      all_goals exact hByte _ (by omega)

/- An ASCII byte is only in the encoding of its character. -/
theorem toNat_eq_of_mem_utf8EncodeChar
    {c : Char}
    {b : UInt8}
    (hAscii : b < 0x80)
    (hb : b ∈ String.utf8EncodeChar c) :
    c.toNat = b.toNat := by
  by_cases hSmall : c.toNat < 0x80
  · rw [utf8EncodeChar_ascii hSmall, List.mem_singleton] at hb
    rw [hb, UInt8.toNat_ofNat']
    omega
  · have hLarge :=
      le_of_mem_utf8EncodeChar (Nat.le_of_not_lt hSmall) hb
    exact absurd hAscii (UInt8.not_lt.mpr hLarge)

/- The byte of an ASCII character is its encoding. -/
theorem utf8EncodeChar_byte
    {b : UInt8}
    (hAscii : b < 0x80) :
    String.utf8EncodeChar (Char.ofNat b.toNat) = [b] := by
  have hSmall := UInt8.lt_iff_toNat_lt.mp hAscii
  have hNat : (Char.ofNat b.toNat).toNat = b.toNat :=
    toNat_charOfNat (Nat.lt_trans hSmall (by decide))
  rw [utf8EncodeChar_ascii (by rwa [hNat]), hNat,
    UInt8.ofNat_toNat]

theorem ascii_of_hexValue?
    {c : Char}
    {n : Nat}
    (hHex : Text.hexValue? c = some n) :
    c.toNat < 0x80 := by
  have hBelow :
      ∀ d : Char, d.toNat < 0x80 → c ≤ d → c.toNat < 0x80 :=
    fun _ hAscii hLe => Nat.lt_of_le_of_lt hLe hAscii
  unfold Text.hexValue? at hHex
  simp only [Bool.and_eq_true, decide_eq_true_iff] at hHex
  split at hHex
  · next hDigit => exact hBelow '9' (by decide) hDigit.2
  split at hHex
  · next hSmall => exact hBelow 'f' (by decide) hSmall.2
  split at hHex
  · next hLarge => exact hBelow 'F' (by decide) hLarge.2
  · simp at hHex

/- The byte of a hexadecimal digit is an ASCII one. -/
theorem lt_of_hexValue?
    {b : UInt8}
    {n : Nat}
    (hHex : Text.hexValue? (Char.ofNat b.toNat) = some n) :
    b < 0x80 := by
  have hNat : (Char.ofNat b.toNat).toNat = b.toNat :=
    toNat_charOfNat (Nat.lt_trans b.toNat_lt (by decide))
  rw [UInt8.lt_iff_toNat_lt, ← hNat]
  exact ascii_of_hexValue? hHex

/- An ASCII byte in front is that of a first character. -/
theorem exists_cons_of_ofChars
    {cs : List Char}
    {b : UInt8}
    {rest : Bytes}
    (hAscii : b < 0x80)
    (h : ofChars cs = b :: rest) :
    ∃ ds, cs = Char.ofNat b.toNat :: ds ∧ ofChars ds = rest := by
  cases cs with
  | nil => cases h
  | cons c ds =>
      rcases List.exists_cons_of_ne_nil
          (String.utf8EncodeChar_ne_nil (c := c)) with
        ⟨b', others, hChar⟩
      rw [ofChars_cons, hChar, List.cons_append,
        List.cons.injEq] at h
      rcases h with ⟨rfl, hRest⟩
      have hMem : b' ∈ String.utf8EncodeChar c := by
        rw [hChar]
        exact List.mem_cons_self
      have hSame : c = Char.ofNat b'.toNat := by
        rw [← toNat_eq_of_mem_utf8EncodeChar hAscii hMem,
          Char.ofNat_toNat]
      rw [hSame, utf8EncodeChar_byte hAscii,
        List.cons.injEq] at hChar
      refine ⟨ds, by rw [← hSame], ?_⟩
      rw [← hRest, ← hChar.2, List.nil_append]

------------------------------------------------------------
-- Encoded texts
------------------------------------------------------------

/- A byte string is the encoding of a text. -/
def IsText
    (bs : Bytes) : Prop :=
  ∃ s, bs = ofText s

section

variable {bs front rest : Bytes}
variable {c : Char}

theorem isText_iff :
    IsText bs ↔ toText? bs ≠ none := by
  rw [Option.ne_none_iff_exists']
  constructor
  · rintro ⟨s, rfl⟩
    exact ⟨s, toText?_ofText s⟩
  · rintro ⟨s, hText⟩
    exact ⟨s, (ofText_of_toText? hText).symm⟩

theorem isText_ofChars
    (cs : List Char) :
    IsText (ofChars cs) :=
  ⟨String.ofList cs, (ofText_ofList cs).symm⟩

theorem isText_char
    (c : Char) :
    IsText (String.utf8EncodeChar c) := by
  have hText := isText_ofChars [c]
  rwa [ofChars_cons, ofChars_nil, List.append_nil] at hText

theorem IsText.append
    (hFront : IsText front)
    (hRest : IsText rest) :
    IsText (front ++ rest) := by
  rcases hFront with ⟨s, rfl⟩
  rcases hRest with ⟨t, rfl⟩
  exact ⟨s ++ t, (ofText_append s t).symm⟩

theorem isText_of_ascii
    (hAscii : ∀ b ∈ bs, b < 0x80) :
    IsText bs := by
  induction bs with
  | nil => exact isText_ofChars []
  | cons b bs ih =>
      rw [List.forall_mem_cons] at hAscii
      have hFirst := isText_char (Char.ofNat b.toNat)
      rw [utf8EncodeChar_byte hAscii.1] at hFirst
      exact hFirst.append (ih hAscii.2)

/-
  A text is cut into two texts in front of a byte that is
  the first of a character.
-/
theorem IsText.cut
    {b : UInt8}
    (hFirst : b.IsUTF8FirstByte)
    (hText : IsText (front ++ b :: rest)) :
    IsText front ∧ IsText (b :: rest) := by
  rcases hText with ⟨s, hBytes⟩
  rw [ofText_eq] at hBytes
  generalize s.toList = cs at hBytes
  induction cs generalizing front with
  | nil => simp at hBytes
  | cons c cs ih =>
      have hWhole := hBytes
      rw [ofChars_cons, List.append_eq_append_iff] at hBytes
      rcases hBytes with
        ⟨inside, hChar, hRest⟩ | ⟨before, rfl, hRest⟩
      · cases inside with
        | nil =>
            rw [List.append_nil] at hChar
            rw [← hChar, hRest]
            exact ⟨isText_char c, isText_ofChars cs⟩
        | cons b' inside =>
            -- no byte but the first starts a character
            rw [List.cons_append, List.cons.injEq] at hRest
            rcases hRest with ⟨rfl, -⟩
            have hByte :
                (String.utf8EncodeChar c)[front.length]? =
                  some b := by
              simp [hChar]
            rcases List.getElem?_eq_some_iff.mp hByte with
              ⟨hIndex, hAt⟩
            rw [← hAt,
              UInt8.isUTF8FirstByte_getElem_utf8EncodeChar,
              List.length_eq_zero_iff] at hFirst
            subst hFirst
            rw [List.nil_append] at hWhole
            rw [hWhole]
            exact ⟨isText_ofChars [], isText_ofChars _⟩
      · rcases ih hRest.symm with ⟨hBefore, hAfter⟩
        exact ⟨(isText_char c).append hBefore, hAfter⟩

theorem IsText.of_char
    (hText : IsText (String.utf8EncodeChar c ++ rest)) :
    IsText rest := by
  rcases hText with ⟨s, hBytes⟩
  rw [ofText_eq] at hBytes
  cases hChars : s.toList with
  | nil =>
      rw [hChars, ofChars_nil,
        List.append_eq_nil_iff] at hBytes
      exact absurd hBytes.1 String.utf8EncodeChar_ne_nil
  | cons d ds =>
      rw [hChars, ofChars_cons] at hBytes
      have hDecode :=
        congrArg
          (fun bs : Bytes =>
            bs.toByteArray.utf8DecodeChar? 0)
          hBytes
      simp only [List.toByteArray_append,
        ByteArray.utf8DecodeChar?_utf8EncodeChar_append,
        Option.some.injEq] at hDecode
      rw [hDecode, List.append_cancel_left_eq] at hBytes
      rw [hBytes]
      exact isText_ofChars ds

/- What stands on both sides of a character is text. -/
theorem IsText.around
    (hText :
      IsText (front ++ (String.utf8EncodeChar c ++ rest))) :
    IsText front ∧ IsText rest := by
  rcases List.exists_cons_of_ne_nil
      (String.utf8EncodeChar_ne_nil (c := c)) with
    ⟨b, others, hChar⟩
  have hByte : (String.utf8EncodeChar c)[0]? = some b := by
    simp [hChar]
  rcases List.getElem?_eq_some_iff.mp hByte with
    ⟨hIndex, hAt⟩
  have hFirst : b.IsUTF8FirstByte := by
    rw [← hAt]
    exact UInt8.isUTF8FirstByte_getElem_utf8EncodeChar.mpr rfl
  rw [hChar, List.cons_append] at hText
  rcases hText.cut hFirst with ⟨hFront, hRest⟩
  rw [← List.cons_append, ← hChar] at hRest
  exact ⟨hFront, hRest.of_char⟩

end

end Bytes
end WorkspaceClient
