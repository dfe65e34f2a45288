import WorkspaceClient.Proofs.Json.RoundTrip

/-
  This file shows how far the texts, words and numbers of a
  document reach, and that what follows them is not looked
  at when they are read.

  A text ends with its quote and a word with its last
  letter. A number ends where no more digits follow, so the
  byte after it has to be there already.

  Key definitions include:
    * `Json.Scans`
    * `Json.ReadsFront`
    * `Json.andThen`
    * `Json.parseMark`
    * `Json.parseDigits`
    * `Json.words`
    * `Json.SpellsScalar`

  Main declarations:
    * `Json.scanParts_eq_some_iff`
    * `Json.parseText_append`
    * `Json.readsFront_parseNumeral`
    * `Json.parseScalar_eq_some_iff`
    * `Json.SpellsScalar.append`
-/

namespace WorkspaceClient
namespace Json

------------------------------------------------------------
-- Texts
------------------------------------------------------------

/-
  The parts of a string stand in front of its closing quote,
  and `rest` after it.
-/
inductive Scans :
    Bytes → List TextPart → Bytes → Prop where
  | quote
      (rest : Bytes) :
      Scans (0x22 :: rest) [] rest
  | byte
      {b : UInt8}
      {bs rest : Bytes}
      {parts : List TextPart}
      (hPlain : IsPlain b)
      (hScans : Scans bs parts rest) :
      Scans (b :: bs) (.byte b :: parts) rest
  | letter
      {letter b : UInt8}
      {bs rest : Bytes}
      {parts : List TextPart}
      (hUnicode : letter ≠ 0x75)
      (hEscaped : escaped? letter = some b)
      (hScans : Scans bs parts rest) :
      Scans (0x5C :: letter :: bs) (.byte b :: parts) rest
  | unit
      {h₁ h₂ h₃ h₄ : UInt8}
      {n : Nat}
      {bs rest : Bytes}
      {parts : List TextPart}
      (hUnit : unit? h₁ h₂ h₃ h₄ = some n)
      (hScans : Scans bs parts rest) :
      Scans (0x5C :: 0x75 :: h₁ :: h₂ :: h₃ :: h₄ :: bs)
        (.unit n :: parts) rest

theorem scanParts_eq_some_iff
    {bs rest : Bytes}
    {parts : List TextPart} :
    scanParts bs = some (parts, rest) ↔
      Scans bs parts rest := by
  constructor
  · intro hScan
    fun_induction scanParts bs generalizing parts rest with
    | case1 => simp at hScan
    | case2 after =>
        cases hScan
        exact .quote after
    | case3 => simp at hScan
    | case4 h₁ h₂ h₃ h₄ after hEscape ih =>
        rcases Option.bind_eq_some_iff.mp hScan with
          ⟨n, hUnit, hScan⟩
        rcases Option.bind_eq_some_iff.mp hScan with
          ⟨⟨others, final⟩, hOthers, hEnd⟩
        cases hEnd
        exact .unit hUnit (ih hOthers)
    | case5 => simp at hScan
    | case6 letter tail hUnicode hEscape ih =>
        rcases Option.bind_eq_some_iff.mp hScan with
          ⟨b, hEscaped, hScan⟩
        rcases Option.bind_eq_some_iff.mp hScan with
          ⟨⟨others, final⟩, hOthers, hEnd⟩
        cases hEnd
        exact .letter hUnicode hEscaped (ih hOthers)
    | case7 => simp at hScan
    | case8 b tail hQuote hEscape hLow ih =>
        rcases Option.bind_eq_some_iff.mp hScan with
          ⟨⟨others, final⟩, hOthers, hEnd⟩
        cases hEnd
        exact .byte ⟨hQuote, hEscape, hLow⟩ (ih hOthers)
  · intro hScans
    induction hScans with
    | quote rest => exact scanParts_quote rest
    | byte hPlain _ ih =>
        rw [scanParts_byte _ hPlain.1 hPlain.2.1 hPlain.2.2, ih]
        rfl
    | letter hUnicode hEscaped _ ih =>
        rw [scanParts_letter _ hUnicode hEscaped, ih]
        rfl
    | unit hUnit _ ih =>
        rw [scanParts_unit _ hUnit, ih]
        rfl

/- What follows a closing quote is not looked at. -/
theorem Scans.append
    {bs rest : Bytes}
    {parts : List TextPart}
    (hScans : Scans bs parts rest)
    (more : Bytes) :
    Scans (bs ++ more) parts (rest ++ more) := by
  induction hScans with
  | quote rest => exact .quote (rest ++ more)
  | byte hPlain _ ih => exact .byte hPlain ih
  | letter hUnicode hEscaped _ ih =>
      exact .letter hUnicode hEscaped ih
  | unit hUnit _ ih => exact .unit hUnit ih

theorem Scans.length_lt
    {bs rest : Bytes}
    {parts : List TextPart}
    (hScans : Scans bs parts rest) :
    rest.length < bs.length := by
  induction hScans with
  | quote => exact Nat.lt_succ_self _
  | _ =>
      simp only [List.length_cons]
      omega

theorem parseText_eq_some_iff
    {bs rest : Bytes}
    {s : Option String} :
    parseText bs = some (s, rest) ↔
      ∃ parts,
        Scans bs parts rest ∧
          (partBytes parts).bind Bytes.toText? = s := by
  unfold parseText
  simp only [Option.bind_eq_bind, Option.bind_eq_some_iff,
    Option.pure_def, Option.some.injEq, Prod.exists,
    Prod.mk.injEq, scanParts_eq_some_iff]
  constructor
  · rintro ⟨parts, _, hScans, hText, rfl⟩
    exact ⟨parts, hScans, hText⟩
  · rintro ⟨parts, hScans, hText⟩
    exact ⟨parts, rest, hScans, hText, rfl⟩

theorem parseText_append
    {bs rest : Bytes}
    {s : Option String}
    (hText : parseText bs = some (s, rest))
    (more : Bytes) :
    parseText (bs ++ more) = some (s, rest ++ more) := by
  rcases parseText_eq_some_iff.mp hText with
    ⟨parts, hScans, hParts⟩
  exact
    parseText_eq_some_iff.mpr
      ⟨parts, hScans.append more, hParts⟩

theorem length_lt_of_parseText
    {bs rest : Bytes}
    {s : Option String}
    (hText : parseText bs = some (s, rest)) :
    rest.length < bs.length := by
  rcases parseText_eq_some_iff.mp hText with
    ⟨parts, hScans, -⟩
  exact hScans.length_lt

------------------------------------------------------------
-- Readers
------------------------------------------------------------

/-
  A reader takes ASCII bytes from the front of others. If it
  leaves any, it does not look at what follows those.
-/
structure ReadsFront
    {α : Type}
    (read : Bytes → Option (α × Bytes)) : Prop where
  used :
    ∀ {bs a rest},
      read bs = some (a, rest) →
        ∃ used, bs = used ++ rest ∧ ∀ b ∈ used, b < 0x80
  append :
    ∀ {bs a rest},
      read bs = some (a, rest) →
      rest ≠ [] →
      ∀ more, read (bs ++ more) = some (a, rest ++ more)

/- Read on where another reader stopped. -/
def andThen
    {α β : Type}
    (first : Bytes → Option (α × Bytes))
    (second : α → Bytes → Option (β × Bytes))
    (bs : Bytes) : Option (β × Bytes) :=
  (first bs).bind fun r => second r.1 r.2

/- Whether a byte of a kind comes first, and what is left. -/
def parseMark
    (isMark : UInt8 → Bool) : Bytes → Option (Bool × Bytes)
  | [] => some (false, [])
  | b :: bs =>
      if isMark b then
        some (true, bs)
      else
        some (false, b :: bs)

/- The digits that come first, if they are accepted. -/
def parseDigits
    (accepts : List Nat → Bool)
    (bs : Bytes) : Option (List Nat × Bytes) :=
  if accepts (spanDigits bs).1 then
    some (spanDigits bs)
  else
    none

theorem andThen_eq_some_iff
    {α β : Type}
    {first : Bytes → Option (α × Bytes)}
    {second : α → Bytes → Option (β × Bytes)}
    {bs rest : Bytes}
    {b : β} :
    andThen first second bs = some (b, rest) ↔
      ∃ a middle,
        first bs = some (a, middle) ∧
          second a middle = some (b, rest) := by
  unfold andThen
  rw [Option.bind_eq_some_iff, Prod.exists]

theorem ReadsFront.length_le
    {α : Type}
    {read : Bytes → Option (α × Bytes)}
    (hReader : ReadsFront read)
    {bs rest : Bytes}
    {a : α}
    (hRead : read bs = some (a, rest)) :
    rest.length ≤ bs.length := by
  rcases hReader.used hRead with ⟨used, rfl, -⟩
  rw [List.length_append]
  exact Nat.le_add_left _ _

/- Where something is left, there was something to read. -/
theorem ReadsFront.ne_nil
    {α : Type}
    {read : Bytes → Option (α × Bytes)}
    (hReader : ReadsFront read)
    {bs rest : Bytes}
    {a : α}
    (hRead : read bs = some (a, rest))
    (hRest : rest ≠ []) :
    bs ≠ [] := by
  rcases hReader.used hRead with ⟨used, rfl, -⟩
  exact List.append_ne_nil_of_right_ne_nil used hRest

theorem readsFront_andThen
    {α β : Type}
    {first : Bytes → Option (α × Bytes)}
    {second : α → Bytes → Option (β × Bytes)}
    (hFirst : ReadsFront first)
    (hSecond : ∀ a, ReadsFront (second a)) :
    ReadsFront (andThen first second) where
  used := by
    intro bs b rest hRead
    rcases andThen_eq_some_iff.mp hRead with
      ⟨a, middle, hA, hB⟩
    rcases hFirst.used hA with ⟨front, rfl, hFront⟩
    rcases (hSecond a).used hB with ⟨back, rfl, hBack⟩
    refine ⟨front ++ back, by rw [List.append_assoc], ?_⟩
    exact List.forall_mem_append.mpr ⟨hFront, hBack⟩
  append := by
    intro bs b rest hRead hRest more
    rcases andThen_eq_some_iff.mp hRead with
      ⟨a, middle, hA, hB⟩
    have hMiddle := (hSecond a).ne_nil hB hRest
    exact
      andThen_eq_some_iff.mpr
        ⟨a, middle ++ more, hFirst.append hA hMiddle more,
          (hSecond a).append hB hRest more⟩

/- Nothing needs to be read. -/
theorem readsFront_some
    {α : Type}
    (a : α) :
    ReadsFront fun bs => some (a, bs) where
  used := by
    rintro bs b rest ⟨⟩
    exact ⟨[], rfl, by simp⟩
  append := by
    rintro bs b rest ⟨⟩ _ more
    rfl

theorem readsFront_parseMark
    {isMark : UInt8 → Bool}
    (hAscii : ∀ b, isMark b = true → b < 0x80) :
    ReadsFront (parseMark isMark) where
  used := by
    intro bs found rest hRead
    cases bs with
    | nil =>
        cases hRead
        exact ⟨[], rfl, by simp⟩
    | cons b bs =>
        rw [parseMark] at hRead
        split at hRead <;> cases hRead
        · next hMark =>
            refine ⟨[b], rfl, ?_⟩
            rw [List.forall_mem_singleton]
            exact hAscii b hMark
        · exact ⟨[], rfl, by simp⟩
  append := by
    intro bs found rest hRead hRest more
    cases bs with
    | nil =>
        cases hRead
        exact absurd rfl hRest
    | cons b bs =>
        rw [parseMark] at hRead
        rw [List.cons_append, parseMark]
        split at hRead <;> cases hRead
        · next hMark => rw [if_pos hMark]
        · next hMark =>
            rw [if_neg hMark]
            rfl

theorem ascii_of_isDigitByte
    {b : UInt8}
    (hDigit : isDigitByte b = true) :
    b < 0x80 := by
  unfold isDigitByte at hDigit
  rw [Bool.and_eq_true, decide_eq_true_iff,
    decide_eq_true_iff] at hDigit
  exact UInt8.lt_of_le_of_lt hDigit.2 (by decide)

/- Digits end where a byte is that is none. -/
theorem spanDigits_append
    {bs : Bytes}
    (hRest : (spanDigits bs).2 ≠ [])
    (more : Bytes) :
    spanDigits (bs ++ more) =
      ((spanDigits bs).1, (spanDigits bs).2 ++ more) := by
  unfold spanDigits at hRest ⊢
  have hEnd : (bs.dropWhile isDigitByte).isEmpty = false := by
    simpa using hRest
  have hLength :
      (bs.takeWhile isDigitByte).length ≠ bs.length := by
    have hSplit :=
      congrArg List.length
        (List.takeWhile_append_dropWhile
          (p := isDigitByte) (l := bs))
    have hPositive := List.length_pos_iff.mpr hRest
    rw [List.length_append] at hSplit
    simp only at hPositive
    omega
  rw [List.takeWhile_append, List.dropWhile_append, hEnd,
    if_neg hLength]
  rfl

theorem readsFront_parseDigits
    (accepts : List Nat → Bool) :
    ReadsFront (parseDigits accepts) where
  used := by
    intro bs digits rest hRead
    unfold parseDigits at hRead
    split at hRead <;> cases hRead
    refine
      ⟨bs.takeWhile isDigitByte,
        List.takeWhile_append_dropWhile.symm, ?_⟩
    intro b hb
    exact ascii_of_isDigitByte (List.mem_takeWhile_imp hb)
  append := by
    intro bs digits rest hRead hRest more
    unfold parseDigits at hRead ⊢
    split at hRead <;> cases hRead
    next hAccepts =>
      rw [spanDigits_append hRest, if_pos hAccepts]
      rfl

------------------------------------------------------------
-- Numbers
------------------------------------------------------------

/- Whether digits may stand before the point. -/
def isWhole
    (digits : List Nat) : Bool :=
  !digits.isEmpty
    && !(digits.head? == some 0 && 1 < digits.length)

/- At least one digit has to follow. -/
theorem parseDigits_some
    (bs : Bytes) :
    parseDigits (!·.isEmpty) bs =
      if (spanDigits bs).1.isEmpty then
        none
      else
        some (spanDigits bs) := by
  unfold parseDigits
  by_cases hEmpty : (spanDigits bs).1.isEmpty = true
  · rw [if_pos hEmpty, if_neg (by simp [hEmpty])]
  · rw [if_neg hEmpty, if_pos (by simp [hEmpty])]

/- Digits follow a point. -/
theorem parseFraction_eq
    (bs : Bytes) :
    parseFraction bs =
      andThen (parseMark (· == 0x2E))
        (fun hasPoint =>
          if hasPoint then
            parseDigits (!·.isEmpty)
          else
            fun rest => some ([], rest))
        bs := by
  unfold parseFraction
  split
  · next rest =>
      exact (parseDigits_some rest).symm
  · next hPoint =>
      cases bs with
      | nil => rfl
      | cons b bs =>
          have hOther : (b == 0x2E) = false := by
            rw [beq_eq_false_iff_ne]
            rintro rfl
            exact hPoint bs rfl
          simp [andThen, parseMark, hOther]

/- The sign of an exponent: whether it is a minus. -/
def parseSign : Bytes → Option (Bool × Bytes) :=
  andThen (parseMark (· == 0x2D)) fun isDown =>
    andThen (parseMark fun b => !isDown && b == 0x2B)
      fun _ rest => some (isDown, rest)

theorem parseSign_eq
    (bs : Bytes) :
    parseSign bs =
      some (bs.head? == some 0x2D,
        if bs.head? == some 0x2D || bs.head? == some 0x2B then
          bs.tail
        else
          bs) := by
  unfold parseSign andThen
  cases bs with
  | nil => rfl
  | cons b bs =>
      by_cases hDown : b = 0x2D
      · subst hDown
        cases bs <;> rfl
      · by_cases hUp : b = 0x2B
        · subst hUp
          rfl
        · simp [parseMark, hDown, hUp]

/- Digits follow the letter of an exponent, and its sign. -/
theorem parseExponent_eq
    (bs : Bytes) :
    parseExponent bs =
      andThen (parseMark fun b => b == 0x65 || b == 0x45)
        (fun hasLetter =>
          if hasLetter then
            andThen parseSign fun isDown =>
              andThen (parseDigits (!·.isEmpty))
                fun digits rest =>
                  some (some (isDown, digits), rest)
          else
            fun rest => some (none, rest))
        bs := by
  cases bs with
  | nil => rfl
  | cons b rest =>
      unfold parseExponent andThen
      simp only [parseMark, Bool.or_eq_true, beq_iff_eq]
      split
      · simp only [Option.bind_some, if_true,
          parseDigits_some, parseSign_eq, Bool.or_eq_true,
          beq_iff_eq]
        split <;> split <;> rfl
      · rfl

/- A number is read part by part. -/
theorem parseNumeral_eq
    (bs : Bytes) :
    parseNumeral bs =
      andThen (parseMark (· == 0x2D))
        (fun negative =>
          andThen (parseDigits isWhole) fun whole =>
            andThen parseFraction fun fraction =>
              andThen parseExponent fun exponent rest =>
                some
                  ({ negative, whole, fraction, exponent },
                    rest))
        bs := by
  have hSign :
      parseMark (· == 0x2D) bs =
        some (bs.head? == some 0x2D,
          if bs.head? == some 0x2D then bs.tail else bs) := by
    cases bs with
    | nil => rfl
    | cons b bs =>
        rw [parseMark, List.head?_cons, Option.some_beq_some]
        split <;> simp_all
  unfold andThen parseNumeral parseDigits isWhole
  rw [hSign]
  generalize (bs.head? == some 0x2D) = negative
  simp only [Option.bind_some]
  generalize spanDigits (if negative then bs.tail else bs) =
    digits
  cases digits.1.isEmpty with
  | true => rfl
  | false =>
      cases (digits.1.head? == some 0
        && decide (1 < digits.1.length)) <;> rfl

theorem readsFront_parseFraction :
    ReadsFront parseFraction := by
  rw [funext parseFraction_eq]
  refine readsFront_andThen (readsFront_parseMark (by simp)) ?_
  intro hasPoint
  split
  · exact readsFront_parseDigits _
  · exact readsFront_some []

theorem readsFront_parseSign :
    ReadsFront parseSign := by
  refine readsFront_andThen (readsFront_parseMark (by simp)) ?_
  intro isDown
  refine readsFront_andThen (readsFront_parseMark (by simp)) ?_
  intro isUp
  exact readsFront_some _

theorem readsFront_parseExponent :
    ReadsFront parseExponent := by
  rw [funext parseExponent_eq]
  refine readsFront_andThen (readsFront_parseMark (by simp)) ?_
  intro hasLetter
  split
  · refine readsFront_andThen readsFront_parseSign ?_
    intro isDown
    refine readsFront_andThen (readsFront_parseDigits _) ?_
    intro digits
    exact readsFront_some _
  · exact readsFront_some none

theorem readsFront_parseNumeral :
    ReadsFront parseNumeral := by
  rw [funext parseNumeral_eq]
  refine readsFront_andThen (readsFront_parseMark (by simp)) ?_
  intro negative
  refine readsFront_andThen (readsFront_parseDigits _) ?_
  intro whole
  refine readsFront_andThen readsFront_parseFraction ?_
  intro fraction
  refine readsFront_andThen readsFront_parseExponent ?_
  intro exponent
  exact readsFront_some _

/- Whether a byte is the first of a number. -/
def startsNumber
    (b : UInt8) : Bool :=
  b == 0x2D || isDigitByte b

/- A digit was read if there had to be one. -/
theorem exists_digit_of_parseDigits
    {accepts : List Nat → Bool}
    {bs rest : Bytes}
    {digits : List Nat}
    (hAccepts : accepts [] = false)
    (hRead : parseDigits accepts bs = some (digits, rest)) :
    ∃ b tail,
      bs = b :: tail ∧
      isDigitByte b = true ∧
      rest.length ≤ tail.length := by
  unfold parseDigits at hRead
  split at hRead
  · next hAccepted =>
      cases hRead
      cases bs with
      | nil => simp [spanDigits, hAccepts] at hAccepted
      | cons b tail =>
          by_cases hDigit : isDigitByte b = true
          · refine ⟨b, tail, rfl, hDigit, ?_⟩
            rw [List.dropWhile_cons_of_pos hDigit]
            exact
              (List.dropWhile_sublist isDigitByte).length_le
          · simp [spanDigits, hDigit, hAccepts] at hAccepted
  · simp at hRead

/- A number is not empty, and its first byte is known. -/
theorem exists_start_of_parseNumeral
    {bs rest : Bytes}
    {n : Numeral}
    (hRead : parseNumeral bs = some (n, rest)) :
    ∃ b tail,
      bs = b :: tail ∧
      startsNumber b = true ∧
      rest.length ≤ tail.length := by
  rw [parseNumeral_eq] at hRead
  rcases andThen_eq_some_iff.mp hRead with
    ⟨negative, unsigned, hSign, hRead⟩
  rcases andThen_eq_some_iff.mp hRead with
    ⟨whole, afterWhole, hWhole, hRead⟩
  rcases andThen_eq_some_iff.mp hRead with
    ⟨fraction, afterFraction, hFraction, hRead⟩
  rcases andThen_eq_some_iff.mp hRead with
    ⟨exponent, afterExponent, hExponent, hEnd⟩
  cases hEnd
  have hShort : rest.length ≤ afterWhole.length :=
    Nat.le_trans
      (readsFront_parseExponent.length_le hExponent)
      (readsFront_parseFraction.length_le hFraction)
  rcases exists_digit_of_parseDigits rfl hWhole with
    ⟨d, digits, rfl, hDigit, hLength⟩
  cases bs with
  | nil => simp [parseMark] at hSign
  | cons b tail =>
      refine ⟨b, tail, rfl, ?_⟩
      rw [parseMark] at hSign
      unfold startsNumber
      by_cases hMinus : (b == 0x2D) = true
      · rw [if_pos hMinus] at hSign
        cases hSign
        rw [hMinus, List.length_cons]
        exact ⟨rfl, by omega⟩
      · rw [if_neg hMinus] at hSign
        cases hSign
        rw [hDigit, Bool.or_true]
        exact ⟨rfl, by omega⟩

------------------------------------------------------------
-- Scalars
------------------------------------------------------------

/- The words that are values. -/
def words : List (String × Json) :=
  [("null", .null), ("true", .bool true),
    ("false", .bool false)]

/- A word starts neither a text nor an array nor an object. -/
theorem exists_start_of_word
    {w : String}
    {v : Json}
    (hWord : (w, v) ∈ words) :
    ∃ c letters,
      Bytes.ofText w = c :: letters ∧
      startsNumber c = false ∧
      c ≠ 0x22 ∧ c ≠ 0x5B ∧ c ≠ 0x7B := by
  simp only [words, List.mem_cons, List.not_mem_nil,
    or_false, Prod.mk.injEq] at hWord
  rcases hWord with
    ⟨rfl, rfl⟩ | ⟨rfl, rfl⟩ | ⟨rfl, rfl⟩ <;>
    exact
      ⟨_, _, rfl, rfl, by decide, by decide, by decide⟩

/-
  A word or a number stands in front of `rest`. These are
  the values that have no parts.
-/
inductive SpellsScalar : Bytes → Json → Bytes → Prop where
  | word
      {w : String}
      {v : Json}
      (hWord : (w, v) ∈ words)
      (rest : Bytes) :
      SpellsScalar (Bytes.ofText w ++ rest) v rest
  | number
      {bs rest : Bytes}
      {n : Numeral}
      (hNumeral : parseNumeral bs = some (n, rest)) :
      SpellsScalar bs (.number n) rest

theorem afterWord?_eq_some_iff
    {word : String}
    {bs rest : Bytes} :
    afterWord? word bs = some rest ↔
      bs = Bytes.ofText word ++ rest := by
  unfold afterWord?
  simp only [List.isPrefixOf_iff_prefix]
  constructor
  · intro hAfter
    split at hAfter
    · next hPrefix =>
        rcases hPrefix with ⟨after, rfl⟩
        simpa using hAfter
    · simp at hAfter
  · rintro rfl
    rw [if_pos (List.prefix_append _ rest),
      List.drop_left]

/- A number starts with none of the words. -/
theorem afterWord?_of_startsNumber
    {word : String}
    {b c : UInt8}
    {letters : Bytes}
    (hWord : Bytes.ofText word = c :: letters)
    (hOther : startsNumber c = false)
    (hStart : startsNumber b = true)
    (tail : Bytes) :
    afterWord? word (b :: tail) = none := by
  rw [Option.eq_none_iff_forall_ne_some]
  intro rest hAfter
  rw [afterWord?_eq_some_iff, hWord, List.cons_append,
    List.cons.injEq] at hAfter
  rw [hAfter.1, hOther] at hStart
  simp at hStart

theorem parseScalar_eq_some_iff
    {bs rest : Bytes}
    {v : Json} :
    parseScalar bs = (v, some rest) ↔
      SpellsScalar bs v rest := by
  constructor
  · intro hRead
    unfold parseScalar at hRead
    split at hRead
    · next hNull =>
        cases hRead
        rw [afterWord?_eq_some_iff.mp hNull]
        exact .word (by simp [words]) rest
    · next hTrue _ =>
        cases hRead
        rw [afterWord?_eq_some_iff.mp hTrue]
        exact .word (by simp [words]) rest
    · next hFalse _ _ =>
        cases hRead
        rw [afterWord?_eq_some_iff.mp hFalse]
        exact .word (by simp [words]) rest
    · split at hRead
      · next hNumeral =>
          cases hRead
          exact .number hNumeral
      · simp at hRead
  · intro hSpells
    cases hSpells with
    | word hWord =>
        simp only [words, List.mem_cons, List.not_mem_nil,
          or_false, Prod.mk.injEq] at hWord
        rcases hWord with
          ⟨rfl, rfl⟩ | ⟨rfl, rfl⟩ | ⟨rfl, rfl⟩ <;>
          rfl
    | number hNumeral =>
        rcases exists_start_of_parseNumeral hNumeral with
          ⟨b, tail, rfl, hStart, -⟩
        unfold parseScalar
        rw [afterWord?_of_startsNumber rfl rfl hStart,
          afterWord?_of_startsNumber rfl rfl hStart,
          afterWord?_of_startsNumber rfl rfl hStart]
        simp only
        rw [hNumeral]

namespace SpellsScalar

/-
  What follows a scalar is not looked at. After a number,
  there has to be a byte that ends it.
-/
theorem append
    {bs rest : Bytes}
    {v : Json}
    (hSpells : SpellsScalar bs v rest)
    (hEnd : rest ≠ [] ∨ ∀ n, v ≠ .number n)
    (more : Bytes) :
    SpellsScalar (bs ++ more) v (rest ++ more) := by
  cases hSpells with
  | word hWord =>
      rw [List.append_assoc]
      exact .word hWord _
  | number hNumeral =>
      rcases hEnd with hRest | hOther
      · exact
          .number
            (readsFront_parseNumeral.append hNumeral hRest
              more)
      · exact absurd rfl (hOther _)

/- A scalar starts with no quote and no bracket. -/
theorem exists_start
    {bs rest : Bytes}
    {v : Json}
    (hSpells : SpellsScalar bs v rest) :
    ∃ b tail,
      bs = b :: tail ∧
      rest.length ≤ tail.length ∧
      b ≠ 0x22 ∧ b ≠ 0x5B ∧ b ≠ 0x7B := by
  cases hSpells with
  | word hWord =>
      rcases exists_start_of_word hWord with
        ⟨c, letters, hLetters, -, hOther⟩
      refine ⟨c, letters ++ rest, ?_, ?_, hOther⟩
      · rw [hLetters, List.cons_append]
      · rw [List.length_append]
        exact Nat.le_add_left _ _
  | number hNumeral =>
      rcases exists_start_of_parseNumeral hNumeral with
        ⟨b, tail, rfl, hStart, hLength⟩
      refine ⟨b, tail, rfl, hLength, ?_, ?_, ?_⟩ <;>
        (rintro rfl; exact absurd hStart (by decide))

end SpellsScalar

end Json
end WorkspaceClient
