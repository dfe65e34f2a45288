import WorkspaceClient.Proofs.Bytes.Utf8
import WorkspaceClient.Proofs.Text.Lower
import WorkspaceClient.Url.Percent

/-
  This file shows that percent encoding leaves a text as it
  is whose characters may all be shown, and that an encoded
  text is such a text. Decoding leaves exactly those texts as
  they are in which no byte is encoded.

  Key definitions include:
    * `Url.escapeChars`
    * `Url.isGuarded`
    * `Url.isEscaped`

  Main declarations:
    * `Url.encode_of_shown`
    * `Url.mem_encode_cases`
    * `Url.shown_of_mem_encode`
    * `Url.lower_of_lower_encode`
    * `Url.decode_of_notMem`
    * `Url.decode_append_iff`
    * `Url.decode_eq_self_iff`
-/

namespace WorkspaceClient
namespace Url

------------------------------------------------------------
-- Encoding
------------------------------------------------------------

/- The characters that encoded bytes are written with. -/
def escapeChars : List Char :=
  "%0123456789ABCDEF".toList

/- The encoding of a text of one character. -/
theorem ofText_singleton
    (c : Char) :
    Bytes.ofText (String.singleton c) =
      String.utf8EncodeChar c := by
  rw [Bytes.ofText_eq, String.toList_singleton,
    Bytes.ofChars_cons, Bytes.ofChars_nil, List.append_nil]

section

variable {shown : Char → Bool}
variable {c : Char}
variable {cs : List Char}

theorem mem_escapeChars_of_mem_encodeByte
    {b : UInt8}
    (h : c ∈ encodeByte b) :
    c ∈ escapeChars := by
  have hDigit :
      ∀ n < 16, (Nat.digitChar n).toUpper ∈ escapeChars := by
    decide
  have hByte : b.toNat < 256 := b.toNat_lt
  unfold encodeByte at h
  rw [List.mem_cons, List.mem_cons, List.mem_singleton] at h
  rcases h with hSign | hHigh | hLow
  · rw [hSign]
    decide
  · rw [hHigh]
    exact hDigit _ (by omega)
  · rw [hLow]
    exact hDigit _ (by omega)

/- What an encoded text consists of. -/
theorem mem_encode_cases
    (h : c ∈ encode shown cs) :
    c ∈ escapeChars ∨ (c ∈ cs ∧ shown c = true) := by
  rcases List.mem_flatMap.mp h with ⟨d, hMem, hChar⟩
  unfold encodeChar at hChar
  by_cases hShown : shown d = true
  · rw [if_pos hShown, List.mem_singleton] at hChar
    rw [hChar]
    exact .inr ⟨hMem, hShown⟩
  · rw [if_neg hShown] at hChar
    rcases List.mem_flatMap.mp hChar with ⟨b, _, hByte⟩
    exact .inl (mem_escapeChars_of_mem_encodeByte hByte)

theorem shown_of_mem_encode
    (hEscapes : escapeChars.all shown = true)
    (h : c ∈ encode shown cs) :
    shown c = true := by
  rcases mem_encode_cases h with hEscape | ⟨_, hShown⟩
  · exact List.all_eq_true.mp hEscapes c hEscape
  · exact hShown

/- The same for a part that may be missing. -/
theorem shown_of_map_encode
    (hEscapes : escapeChars.all shown = true)
    {part : Option (List Char)}
    (h : part.map (encode shown) = some cs) :
    ∀ c ∈ cs, shown c = true := by
  rcases Option.map_eq_some_iff.mp h with ⟨raw, _, rfl⟩
  exact fun c hc => shown_of_mem_encode hEscapes hc

/- A text that may be shown is not changed. -/
theorem encode_of_shown
    (hShown : ∀ c ∈ cs, shown c = true) :
    encode shown cs = cs := by
  induction cs with
  | nil => rfl
  | cons c cs ih =>
      rw [List.forall_mem_cons] at hShown
      unfold encode at ih ⊢
      rw [List.flatMap_cons, ih hShown.2, encodeChar,
        if_pos hShown.1]
      rfl

theorem map_encode_of_shown
    {part : Option (List Char)}
    (hShown :
      ∀ cs, part = some cs → ∀ c ∈ cs, shown c = true) :
    part.map (encode shown) = part := by
  cases part with
  | none => rfl
  | some cs =>
      rw [Option.map_some, encode_of_shown (hShown cs rfl)]

------------------------------------------------------------
-- Encoded points
------------------------------------------------------------

/- A percent sign is always followed by the digits of a point. -/
def isGuarded : List Char → Bool
  | [] => true
  | c :: cs =>
      (c != '%' || ['2', 'e'].isPrefixOf cs) && isGuarded cs

theorem isGuarded_cons_iff :
    isGuarded (c :: cs) = true ↔
      (c = '%' → ['2', 'e'] <+: cs) ∧ isGuarded cs = true := by
  rw [isGuarded, Bool.and_eq_true, Bool.or_eq_true, bne_iff_ne,
    List.isPrefixOf_iff_prefix, Decidable.imp_iff_not_or]

/- A byte that is written like a point is a point. -/
theorem eq_of_lower_encodeByte
    {b : UInt8}
    {rest : List Char}
    (h :
      ['%', '2', 'e'] <+: (encodeByte b).map Char.toLower ++ rest) :
    b = 0x2E := by
  have hHigh :
      ∀ n < 16,
        (Nat.digitChar n).toUpper.toLower = '2' → n = 2 := by
    decide
  have hLow :
      ∀ n < 16,
        (Nat.digitChar n).toUpper.toLower = 'e' → n = 14 := by
    decide
  have hByte : b.toNat < 256 := b.toNat_lt
  unfold encodeByte at h
  simp only [List.map_cons, List.map_nil, List.cons_append,
    List.nil_append, List.cons_prefix_cons, List.nil_prefix,
    and_true] at h
  rcases h with ⟨_, hFirst, hSecond⟩
  have hQuotient := hHigh (b.toNat / 16) (by omega) hFirst.symm
  have hRemainder := hLow (b.toNat % 16) (by omega) hSecond.symm
  apply UInt8.toNat_inj.mp
  change b.toNat = 46
  omega

/-
  A text that is encoded as points, or as points that are
  encoded themselves, was written in this way before.
-/
theorem lower_of_lower_encode
    {points : List Char}
    (hPoint : shown '.' = true)
    (hGuarded : isGuarded points = true)
    (h : (encode shown cs).map Char.toLower = points) :
    cs.map Char.toLower = points := by
  induction cs generalizing points with
  | nil => exact h
  | cons c cs ih =>
      unfold encode at h ih
      rw [List.flatMap_cons, List.map_append] at h
      unfold encodeChar at h
      by_cases hShown : shown c = true
      · rw [if_pos hShown, List.map_singleton,
          List.singleton_append] at h
        rw [← h] at hGuarded ⊢
        rw [List.map_cons,
          ih (isGuarded_cons_iff.mp hGuarded).2 rfl]
      · -- the first byte of the character would be a point
        rw [if_neg hShown, ofText_singleton] at h
        rcases List.exists_cons_of_ne_nil
            (String.utf8EncodeChar_ne_nil (c := c)) with
          ⟨b, bs, hBytes⟩
        rw [hBytes, List.flatMap_cons, List.map_append,
          List.append_assoc] at h
        have hPercent : ∃ more, points = '%' :: more := by
          rw [← h]
          exact ⟨_, rfl⟩
        rcases hPercent with ⟨more, hMore⟩
        have hByte : b = 0x2E := by
          apply eq_of_lower_encodeByte
          rw [hMore] at hGuarded
          rw [h, hMore, List.cons_prefix_cons]
          exact ⟨rfl, (isGuarded_cons_iff.mp hGuarded).1 rfl⟩
        have hMem : b ∈ String.utf8EncodeChar c := by
          rw [hBytes]
          exact List.mem_cons_self
        rw [hByte] at hMem
        have hSame : c = '.' :=
          Char.toNat_inj.mp
            (Bytes.toNat_eq_of_mem_utf8EncodeChar (by decide)
              hMem)
        rw [hSame] at hShown
        exact absurd hPoint hShown

end

------------------------------------------------------------
-- Character sets
------------------------------------------------------------

section

variable {c : Char}

/- All characters that are shown are visible. -/
theorem visible_of_isPlain
    (hPlain : isPlain c = true)
    (hSpace : c ≠ ' ') :
    0x20 < c.toNat := by
  unfold isPlain at hPlain
  rw [Bool.and_eq_true, decide_eq_true_eq] at hPlain
  rcases Nat.lt_or_eq_of_le hPlain.1 with hLess | hSame
  · exact hLess
  · exact absurd (Char.toNat_inj.mp hSame.symm) hSpace

theorem visible_of_isQueryChar
    (h : isQueryChar c = true) :
    0x20 < c.toNat := by
  apply visible_of_isPlain (Bool.and_eq_true_iff.mp h).1
  rintro rfl
  exact absurd h (by decide)

theorem visible_of_isFragmentChar
    (h : isFragmentChar c = true) :
    0x20 < c.toNat := by
  apply visible_of_isPlain (Bool.and_eq_true_iff.mp h).1
  rintro rfl
  exact absurd h (by decide)

theorem visible_of_isPathChar
    (h : isPathChar c = true) :
    0x20 < c.toNat :=
  visible_of_isFragmentChar (Bool.and_eq_true_iff.mp h).1

theorem visible_of_isUserChar
    (h : isUserChar c = true) :
    0x20 < c.toNat :=
  visible_of_isPathChar (Bool.and_eq_true_iff.mp h).1

end

------------------------------------------------------------
-- Decoding
------------------------------------------------------------

/- Only a percent sign starts an encoded byte. -/
theorem decodeBytes_cons
    {b : UInt8}
    (hOther : b ≠ 0x25)
    (rest : Bytes) :
    decodeBytes (b :: rest) = b :: decodeBytes rest := by
  rw [decodeBytes]
  exact fun _ _ _ hSign _ => hOther hSign

theorem decodeBytes_append
    {front : Bytes}
    (hNone : (0x25 : UInt8) ∉ front)
    (rest : Bytes) :
    decodeBytes (front ++ rest) = front ++ decodeBytes rest := by
  induction front with
  | nil => rfl
  | cons b front ih =>
      rw [List.mem_cons, not_or] at hNone
      rw [List.cons_append, decodeBytes_cons (Ne.symm hNone.1),
        ih hNone.2, List.cons_append]

/- Decoding never makes bytes longer. -/
theorem length_decodeBytes_le
    (bs : Bytes) :
    (decodeBytes bs).length ≤ bs.length := by
  fun_induction decodeBytes bs with
  | case1 a b rest x y hFirst hSecond ih =>
      simp only [List.length_cons]
      omega
  | case2 a b rest hOther ih =>
      simp only [List.length_cons] at ih ⊢
      omega
  | case3 b rest hOther ih =>
      simp only [List.length_cons]
      omega
  | case4 => exact Nat.le_refl 0

/- The byte of a percent sign is only that of a percent sign. -/
theorem notMem_ofChars
    {cs : List Char}
    (hNone : '%' ∉ cs) :
    (0x25 : UInt8) ∉ Bytes.ofChars cs := by
  intro hMem
  rcases List.mem_flatMap.mp hMem with ⟨c, hChar, hByte⟩
  have hNumber :=
    Bytes.toNat_eq_of_mem_utf8EncodeChar (by decide) hByte
  have hSign : c = '%' := Char.toNat_inj.mp hNumber
  rw [hSign] at hChar
  exact hNone hChar

section

variable {cs ds front : List Char}

theorem decode_eq_some_iff :
    decode cs = some ds ↔
      decodeBytes (Bytes.ofChars cs) = Bytes.ofChars ds := by
  unfold decode
  rw [Bytes.ofText_ofList, Option.map_eq_some_iff]
  constructor
  · rintro ⟨s, hText, rfl⟩
    rw [← Bytes.ofText_of_toText? hText, Bytes.ofText_eq]
  · intro h
    refine ⟨String.ofList ds, ?_, String.toList_ofList⟩
    rw [h, ← Bytes.ofText_ofList, Bytes.toText?_ofText]

/- A text without percent signs is left as it is. -/
theorem decode_of_notMem
    (hNone : '%' ∉ cs) :
    decode cs = some cs := by
  have hBytes :=
    decodeBytes_append (notMem_ofChars hNone) []
  rw [List.append_nil, decodeBytes, List.append_nil] at hBytes
  exact decode_eq_some_iff.mpr hBytes

/- So is such a text in front of another one. -/
theorem decode_append_iff
    (hNone : '%' ∉ front) :
    decode (front ++ cs) = some (front ++ ds) ↔
      decode cs = some ds := by
  rw [decode_eq_some_iff, decode_eq_some_iff,
    Bytes.ofChars_append, Bytes.ofChars_append,
    decodeBytes_append (notMem_ofChars hNone),
    List.append_cancel_left_eq]

/- What is decoded is not longer than the text. -/
theorem length_ofChars_le_of_decode
    (h : decode cs = some ds) :
    (Bytes.ofChars ds).length ≤ (Bytes.ofChars cs).length := by
  rw [← decode_eq_some_iff.mp h]
  exact length_decodeBytes_le _

end

------------------------------------------------------------
-- Encoded bytes in a text
------------------------------------------------------------

/- Whether a byte is written as a percent sign and two digits. -/
def isEscaped : List Char → Bool
  | '%' :: a :: b :: rest =>
      ((Text.hexValue? a).isSome && (Text.hexValue? b).isSome)
        || isEscaped (a :: b :: rest)
  | _ :: rest => isEscaped rest
  | [] => false

/- A percent sign without two digits behind it is itself. -/
theorem decodeBytes_percent
    {cs : List Char}
    (hOther :
      ∀ a b rest,
        cs = a :: b :: rest →
          ¬ ((Text.hexValue? a).isSome = true ∧
            (Text.hexValue? b).isSome = true)) :
    decodeBytes (0x25 :: Bytes.ofChars cs) =
      0x25 :: decodeBytes (Bytes.ofChars cs) := by
  generalize hBytes : Bytes.ofChars cs = bs
  match bs with
  | [] => rfl
  | [_] => rfl
  | a :: b :: rest =>
      rw [decodeBytes]
      split
      · next x y hFirst hSecond =>
          -- both digits are characters of the text
          rcases Bytes.exists_cons_of_ofChars
              (Bytes.lt_of_hexValue? hFirst) hBytes with
            ⟨ds, rfl, hRest⟩
          rcases Bytes.exists_cons_of_ofChars
              (Bytes.lt_of_hexValue? hSecond) hRest with
            ⟨es, rfl, _⟩
          exact
            absurd ⟨by rw [hFirst]; rfl, by rw [hSecond]; rfl⟩
              (hOther _ _ _ rfl)
      · rfl

/- A percent sign with two digits behind it is one byte. -/
theorem decodeBytes_escape
    {a b : Char}
    {x y : Nat}
    (hFirst : Text.hexValue? a = some x)
    (hSecond : Text.hexValue? b = some y)
    (cs : List Char) :
    decodeBytes (Bytes.ofChars ('%' :: a :: b :: cs)) =
      UInt8.ofNat (16 * x + y)
        :: decodeBytes (Bytes.ofChars cs) := by
  have hByte :
      ∀ c : Char,
        c.toNat < 0x80 →
          Char.ofNat (UInt8.ofNat c.toNat).toNat = c := by
    intro c hAscii
    rw [UInt8.toNat_ofNat', Nat.mod_eq_of_lt (by omega),
      Char.ofNat_toNat]
  have hAscii := Bytes.ascii_of_hexValue? hFirst
  have hAscii' := Bytes.ascii_of_hexValue? hSecond
  rw [Bytes.ofChars_ascii (by decide),
    Bytes.ofChars_ascii hAscii, Bytes.ofChars_ascii hAscii',
    show UInt8.ofNat '%'.toNat = 0x25 from rfl, decodeBytes,
    hByte a hAscii, hByte b hAscii', hFirst, hSecond]

/- Decoding changes a text if a byte is encoded in it. -/
theorem decodeBytes_eq_self_iff
    (cs : List Char) :
    decodeBytes (Bytes.ofChars cs) = Bytes.ofChars cs ↔
      isEscaped cs = false := by
  fun_induction isEscaped cs with
  | case1 a b rest ih =>
      by_cases hDigits :
          (Text.hexValue? a).isSome = true ∧
            (Text.hexValue? b).isSome = true
      · rcases Option.isSome_iff_exists.mp hDigits.1 with
          ⟨x, hFirst⟩
        rcases Option.isSome_iff_exists.mp hDigits.2 with
          ⟨y, hSecond⟩
        have hShorter :=
          length_decodeBytes_le (Bytes.ofChars rest)
        rw [decodeBytes_escape hFirst hSecond]
        constructor
        · intro hSame
          have hLength := congrArg List.length hSame
          rw [Bytes.ofChars_ascii (by decide),
            Bytes.ofChars_ascii (Bytes.ascii_of_hexValue? hFirst),
            Bytes.ofChars_ascii
              (Bytes.ascii_of_hexValue? hSecond)]
            at hLength
          simp only [List.length_cons] at hLength
          omega
        · rw [hFirst, hSecond]
          exact nofun
      · have hNone :
            ((Text.hexValue? a).isSome
              && (Text.hexValue? b).isSome) = false := by
          rwa [← Bool.not_eq_true, Bool.and_eq_true]
        rw [Bytes.ofChars_ascii (by decide),
          show UInt8.ofNat '%'.toNat = 0x25 from rfl,
          decodeBytes_percent, List.cons.injEq,
          and_iff_right rfl, ih, hNone, Bool.false_or]
        rintro _ _ _ ⟨⟩
        exact hDigits
  | case2 c rest hOther ih =>
      by_cases hSign : c = '%'
      · subst hSign
        rw [Bytes.ofChars_ascii (by decide),
          show UInt8.ofNat '%'.toNat = 0x25 from rfl,
          decodeBytes_percent, List.cons.injEq,
          and_iff_right rfl, ih]
        rintro a b tail rfl
        exact absurd rfl (hOther a b tail rfl)
      · have hNone : '%' ∉ [c] := by
          rw [List.mem_singleton]
          exact Ne.symm hSign
        rw [← List.singleton_append, Bytes.ofChars_append,
          decodeBytes_append (notMem_ofChars hNone),
          List.append_cancel_left_eq, ih]
  | case3 => exact ⟨fun _ => rfl, fun _ => rfl⟩

theorem decode_eq_self_iff
    {cs : List Char} :
    decode cs = some cs ↔ isEscaped cs = false := by
  rw [decode_eq_some_iff, decodeBytes_eq_self_iff]

end Url
end WorkspaceClient
