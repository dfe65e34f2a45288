import WorkspaceClient.Proofs.Json.Scanning

/-
  This file defines what it means that bytes spell a value,
  and shows that the reader finds exactly the values that
  are spelt. The fuel of the reader is always enough.

  It follows that what comes after a value is not looked at,
  unless the value is a number, and that a value which was
  written is not read from less than all of its bytes.

  Key definitions include:
    * `Json.Spells`
    * `Json.SpellsItems`
    * `Json.SpellsMember`
    * `Json.SpellsMembers`
    * `Json.IsDocument`

  Main declarations:
    * `Json.Spells.append`
    * `Json.Spells.parseValue_eq`
    * `Json.spells_of_parseValue`
    * `Json.parse_eq_iff`
    * `Json.Spells.isIntact`
    * `Json.not_closed_of_prefix`
-/

namespace WorkspaceClient
namespace Json

------------------------------------------------------------
-- Spelling
------------------------------------------------------------

mutual

/- The value `v` stands at the front of `bs`, before `rest`. -/
inductive Spells : Bytes → Json → Bytes → Prop where
  | text
      {bs inside rest : Bytes}
      {s : Option String}
      (hStart : skipBlanks bs = 0x22 :: inside)
      (hText : parseText inside = some (s, rest)) :
      Spells bs (.text s) rest
  | noItems
      {bs inside rest : Bytes}
      (hStart : skipBlanks bs = 0x5B :: inside)
      (hEnd : skipBlanks inside = 0x5D :: rest) :
      Spells bs (.array []) rest
  | items
      {bs inside rest : Bytes}
      {vs : List Json}
      (hStart : skipBlanks bs = 0x5B :: inside)
      (hItems : SpellsItems inside vs rest) :
      Spells bs (.array vs) rest
  | noMembers
      {bs inside rest : Bytes}
      (hStart : skipBlanks bs = 0x7B :: inside)
      (hEnd : skipBlanks inside = 0x7D :: rest) :
      Spells bs (.object []) rest
  | members
      {bs inside rest : Bytes}
      {ms : List (Option String × Json)}
      (hStart : skipBlanks bs = 0x7B :: inside)
      (hMembers : SpellsMembers inside ms rest) :
      Spells bs (.object ms) rest
  | scalar
      {bs front rest : Bytes}
      {v : Json}
      (hStart : skipBlanks bs = front)
      (hScalar : SpellsScalar front v rest) :
      Spells bs v rest

/- Items stand at the front, up to a closing bracket. -/
inductive SpellsItems :
    Bytes → List Json → Bytes → Prop where
  | last
      {bs after rest : Bytes}
      {v : Json}
      (hValue : Spells bs v after)
      (hEnd : skipBlanks after = 0x5D :: rest) :
      SpellsItems bs [v] rest
  | more
      {bs after others rest : Bytes}
      {v : Json}
      {vs : List Json}
      (hValue : Spells bs v after)
      (hComma : skipBlanks after = 0x2C :: others)
      (hItems : SpellsItems others vs rest) :
      SpellsItems bs (v :: vs) rest

/- A name and its value stand at the front. -/
inductive SpellsMember :
    Bytes → Option String → Json → Bytes → Prop where
  | named
      {bs inside afterName value rest : Bytes}
      {k : Option String}
      {v : Json}
      (hStart : skipBlanks bs = 0x22 :: inside)
      (hName : parseText inside = some (k, afterName))
      (hColon : skipBlanks afterName = 0x3A :: value)
      (hValue : Spells value v rest) :
      SpellsMember bs k v rest

/- Members stand at the front, up to a closing brace. -/
inductive SpellsMembers :
    Bytes → List (Option String × Json) → Bytes → Prop where
  | last
      {bs after rest : Bytes}
      {k : Option String}
      {v : Json}
      (hMember : SpellsMember bs k v after)
      (hEnd : skipBlanks after = 0x7D :: rest) :
      SpellsMembers bs [(k, v)] rest
  | more
      {bs after others rest : Bytes}
      {k : Option String}
      {v : Json}
      {ms : List (Option String × Json)}
      (hMember : SpellsMember bs k v after)
      (hComma : skipBlanks after = 0x2C :: others)
      (hMembers : SpellsMembers others ms rest) :
      SpellsMembers bs ((k, v) :: ms) rest

end

------------------------------------------------------------
-- Only what is spelt is read
------------------------------------------------------------

mutual

theorem spells_of_parseValue
    {bs rest : Bytes}
    {v : Json} :
    ∀ fuel,
      parseValue fuel bs = (v, some rest) → Spells bs v rest
  | 0, hRead => by simp [parseValue] at hRead
  | fuel + 1, hRead => by
      rw [parseValue] at hRead
      split at hRead
      · simp at hRead
      next b tail hStart =>
      split at hRead
      · next hQuote =>
          subst hQuote
          split at hRead
          · next hText =>
              cases hRead
              exact .text hStart hText
          · simp at hRead
      split at hRead
      · next hBracket =>
          subst hBracket
          split at hRead
          · next hEnd =>
              cases hRead
              exact .noItems hStart hEnd
          · simp only [Prod.mk.injEq] at hRead
            rw [parseItems_skipBlanks] at hRead
            rw [← hRead.1]
            exact
              .items hStart
                (spellsItems_of_parseItems fuel
                  (Prod.ext rfl hRead.2))
      split at hRead
      · next hBrace =>
          subst hBrace
          split at hRead
          · next hEnd =>
              cases hRead
              exact .noMembers hStart hEnd
          · simp only [Prod.mk.injEq] at hRead
            rw [parseMembers_skipBlanks] at hRead
            rw [← hRead.1]
            exact
              .members hStart
                (spellsMembers_of_parseMembers fuel
                  (Prod.ext rfl hRead.2))
      · exact .scalar hStart (parseScalar_eq_some_iff.mp hRead)

theorem spellsItems_of_parseItems
    {bs rest : Bytes}
    {vs : List Json} :
    ∀ fuel,
      parseItems fuel bs = (vs, some rest) →
        SpellsItems bs vs rest
  | 0, hRead => by simp [parseItems] at hRead
  | fuel + 1, hRead => by
      rw [parseItems] at hRead
      split at hRead
      · simp at hRead
      next hValue =>
      have hSpells := spells_of_parseValue fuel hValue
      split at hRead
      · next hEnd =>
          cases hRead
          exact .last hSpells hEnd
      · next hComma =>
          simp only [Prod.mk.injEq] at hRead
          rw [← hRead.1]
          exact
            .more hSpells hComma
              (spellsItems_of_parseItems fuel
                (Prod.ext rfl hRead.2))
      · simp at hRead

theorem spellsMembers_of_parseMembers
    {bs rest : Bytes}
    {ms : List (Option String × Json)} :
    ∀ fuel,
      parseMembers fuel bs = (ms, some rest) →
        SpellsMembers bs ms rest
  | 0, hRead => by simp [parseMembers] at hRead
  | fuel + 1, hRead => by
      rw [parseMembers] at hRead
      split at hRead
      case h_2 => simp at hRead
      next hStart =>
      split at hRead
      · simp at hRead
      next hName =>
      split at hRead
      case h_2 => simp at hRead
      next hColon =>
      split at hRead
      · simp at hRead
      next hValue =>
      have hMember :=
        SpellsMember.named hStart hName hColon
          (spells_of_parseValue fuel hValue)
      split at hRead
      · next hEnd =>
          cases hRead
          exact .last hMember hEnd
      · next hComma =>
          simp only [Prod.mk.injEq] at hRead
          rw [← hRead.1]
          exact
            .more hMember hComma
              (spellsMembers_of_parseMembers fuel
                (Prod.ext rfl hRead.2))
      · simp at hRead

end

------------------------------------------------------------
-- What is spelt is intact
------------------------------------------------------------

theorem SpellsScalar.isIntact
    {bs rest : Bytes}
    {v : Json}
    (hScalar : SpellsScalar bs v rest) :
    v.isIntact = true := by
  cases hScalar with
  | word hWord =>
      simp only [words, List.mem_cons, List.not_mem_nil,
        or_false, Prod.mk.injEq] at hWord
      rcases hWord with
        ⟨rfl, rfl⟩ | ⟨rfl, rfl⟩ | ⟨rfl, rfl⟩ <;>
        rfl
  | number => rfl

mutual

theorem Spells.isIntact
    {bs rest : Bytes}
    {v : Json} :
    Spells bs v rest → v.isIntact = true
  | .text _ _ => rfl
  | .noItems _ _ => rfl
  | .items _ hItems => hItems.intactItems
  | .noMembers _ _ => rfl
  | .members _ hMembers => hMembers.intactMembers
  | .scalar _ hScalar => hScalar.isIntact

theorem SpellsItems.intactItems
    {bs rest : Bytes}
    {vs : List Json} :
    SpellsItems bs vs rest → Json.intactItems vs = true
  | .last hValue _ => by
      rw [Json.intactItems, hValue.isIntact]
      rfl
  | .more hValue _ hItems => by
      rw [Json.intactItems, hValue.isIntact,
        hItems.intactItems]
      rfl

theorem SpellsMembers.intactMembers
    {bs rest : Bytes}
    {ms : List (Option String × Json)} :
    SpellsMembers bs ms rest →
      Json.intactMembers ms = true
  | .last (.named _ _ _ hValue) _ => by
      rw [Json.intactMembers, hValue.isIntact]
      rfl
  | .more (.named _ _ _ hValue) _ hMembers => by
      rw [Json.intactMembers, hValue.isIntact,
        hMembers.intactMembers]
      rfl

end

------------------------------------------------------------
-- What is spelt is read
------------------------------------------------------------

theorem length_lt_of_skipBlanks
    {bs tail : Bytes}
    {b : UInt8}
    (hStart : skipBlanks bs = b :: tail) :
    tail.length < bs.length := by
  have hLength : (skipBlanks bs).length ≤ bs.length :=
    (List.dropWhile_sublist isBlankByte).length_le
  rw [hStart, List.length_cons] at hLength
  omega

mutual

/- A value is at least one byte. -/
theorem Spells.length_lt
    {bs rest : Bytes}
    {v : Json} :
    Spells bs v rest → rest.length < bs.length
  | .text hStart hText =>
      Nat.lt_trans (length_lt_of_parseText hText)
        (length_lt_of_skipBlanks hStart)
  | .noItems hStart hEnd =>
      Nat.lt_trans (length_lt_of_skipBlanks hEnd)
        (length_lt_of_skipBlanks hStart)
  | .items hStart hItems =>
      Nat.lt_trans hItems.length_lt
        (length_lt_of_skipBlanks hStart)
  | .noMembers hStart hEnd =>
      Nat.lt_trans (length_lt_of_skipBlanks hEnd)
        (length_lt_of_skipBlanks hStart)
  | .members hStart hMembers =>
      Nat.lt_trans hMembers.length_lt
        (length_lt_of_skipBlanks hStart)
  | .scalar hStart hScalar => by
      rcases hScalar.exists_start with
        ⟨b, tail, hFront, hLength, -⟩
      exact
        Nat.lt_of_le_of_lt hLength
          (length_lt_of_skipBlanks (hStart.trans hFront))

theorem SpellsItems.length_lt
    {bs rest : Bytes}
    {vs : List Json} :
    SpellsItems bs vs rest → rest.length < bs.length
  | .last hValue hEnd =>
      Nat.lt_trans (length_lt_of_skipBlanks hEnd)
        hValue.length_lt
  | .more hValue hComma hItems =>
      Nat.lt_trans hItems.length_lt
        (Nat.lt_trans (length_lt_of_skipBlanks hComma)
          hValue.length_lt)

theorem SpellsMember.length_lt
    {bs rest : Bytes}
    {k : Option String}
    {v : Json} :
    SpellsMember bs k v rest → rest.length < bs.length
  | .named hStart hName hColon hValue =>
      Nat.lt_trans hValue.length_lt
        (Nat.lt_trans (length_lt_of_skipBlanks hColon)
          (Nat.lt_trans (length_lt_of_parseText hName)
            (length_lt_of_skipBlanks hStart)))

theorem SpellsMembers.length_lt
    {bs rest : Bytes}
    {ms : List (Option String × Json)} :
    SpellsMembers bs ms rest → rest.length < bs.length
  | .last hMember hEnd =>
      Nat.lt_trans (length_lt_of_skipBlanks hEnd)
        hMember.length_lt
  | .more hMember hComma hMembers =>
      Nat.lt_trans hMembers.length_lt
        (Nat.lt_trans (length_lt_of_skipBlanks hComma)
          hMember.length_lt)

end

theorem parseValue_scalar
    {fuel : Nat}
    {bs front rest : Bytes}
    {v : Json}
    (hStart : skipBlanks bs = front)
    (hScalar : SpellsScalar front v rest) :
    parseValue (fuel + 1) bs = (v, some rest) := by
  rcases hScalar.exists_start with
    ⟨b, tail, rfl, -, hQuote, hBracket, hBrace⟩
  rw [parseValue, hStart]
  simp only
  rw [if_neg hQuote, if_neg hBracket, if_neg hBrace]
  exact parseScalar_eq_some_iff.mpr hScalar

mutual

/- Two steps for every byte are enough to read a value. -/
theorem Spells.parseValue_eq
    {bs rest : Bytes}
    {v : Json} :
    Spells bs v rest →
      ∀ fuel,
        2 * bs.length ≤ 2 * rest.length + fuel →
        parseValue fuel bs = (v, some rest)
  | hSpells, 0, hFuel => by
      have hLength := hSpells.length_lt
      omega
  | .text hStart hText, fuel + 1, _ =>
      parseValue_text hStart hText
  | .noItems hStart hEnd, fuel + 1, _ => by
      rw [parseValue, hStart]
      simp only
      rw [if_neg (by decide), if_pos trivial, hEnd]
      rfl
  | .items hStart hItems, fuel + 1, hFuel => by
      have hLength := length_lt_of_skipBlanks hStart
      exact
        parseValue_array hStart
          (hItems.parseItems_eq fuel (by omega))
  | .noMembers hStart hEnd, fuel + 1, _ => by
      rw [parseValue, hStart]
      simp only
      rw [if_neg (by decide), if_neg (by decide),
        if_pos trivial, hEnd]
      rfl
  | .members hStart hMembers, fuel + 1, hFuel => by
      have hLength := length_lt_of_skipBlanks hStart
      exact
        parseValue_object hStart
          (hMembers.parseMembers_eq fuel (by omega))
  | .scalar hStart hScalar, fuel + 1, _ =>
      parseValue_scalar hStart hScalar

theorem SpellsItems.parseItems_eq
    {bs rest : Bytes}
    {vs : List Json} :
    SpellsItems bs vs rest →
      ∀ fuel,
        2 * bs.length ≤ 2 * rest.length + fuel + 1 →
        parseItems fuel bs = (vs, some rest)
  | hSpells, 0, hFuel => by
      have hLength := hSpells.length_lt
      omega
  | .last hValue hEnd, fuel + 1, hFuel => by
      have hBracket := length_lt_of_skipBlanks hEnd
      exact
        parseItems_last (hValue.parseValue_eq fuel (by omega))
          hEnd
  | .more hValue hComma hItems, fuel + 1, hFuel => by
      have hLength := hValue.length_lt
      have hOthers := hItems.length_lt
      have hAfter := length_lt_of_skipBlanks hComma
      exact
        parseItems_more (hValue.parseValue_eq fuel (by omega))
          hComma (hItems.parseItems_eq fuel (by omega))

theorem SpellsMembers.parseMembers_eq
    {bs rest : Bytes}
    {ms : List (Option String × Json)} :
    SpellsMembers bs ms rest →
      ∀ fuel,
        2 * bs.length ≤ 2 * rest.length + fuel + 1 →
        parseMembers fuel bs = (ms, some rest)
  | hSpells, 0, hFuel => by
      have hLength := hSpells.length_lt
      omega
  | .last (.named hStart hName hColon hValue) hEnd,
      fuel + 1, hFuel => by
      have hInside := length_lt_of_skipBlanks hStart
      have hAfterName := length_lt_of_parseText hName
      have hLength := length_lt_of_skipBlanks hColon
      have hBrace := length_lt_of_skipBlanks hEnd
      exact
        parseMembers_last hStart hName hColon
          (hValue.parseValue_eq fuel (by omega)) hEnd
  | .more (.named hStart hName hColon hValue) hComma hMembers,
      fuel + 1, hFuel => by
      have hInside := length_lt_of_skipBlanks hStart
      have hAfterName := length_lt_of_parseText hName
      have hLength := length_lt_of_skipBlanks hColon
      have hAfter := length_lt_of_skipBlanks hComma
      have hOthers := hMembers.length_lt
      have hMore := hValue.length_lt
      exact
        parseMembers_more hStart hName hColon
          (hValue.parseValue_eq fuel (by omega)) hComma
          (hMembers.parseMembers_eq fuel (by omega))

end

/- Bytes spell one value at most, and it ends in one place. -/
theorem Spells.unique
    {bs rest rest' : Bytes}
    {v v' : Json}
    (hSpells : Spells bs v rest)
    (hSpells' : Spells bs v' rest') :
    v = v' ∧ rest = rest' := by
  have hRead :=
    hSpells.parseValue_eq (2 * bs.length) (by omega)
  have hRead' :=
    hSpells'.parseValue_eq (2 * bs.length) (by omega)
  rw [hRead] at hRead'
  simpa using hRead'

/- Bytes spell a value, and nothing but blanks after it. -/
def IsDocument
    (bs : Bytes)
    (v : Json) : Prop :=
  ∃ rest,
    Spells bs v rest ∧ ∀ b ∈ rest, isBlankByte b = true

/- A document is closed with the value that it spells. -/
theorem parse_eq_iff
    {bs : Bytes}
    {v : Json} :
    parse bs = { value := v, closed := true } ↔
      IsDocument bs v := by
  unfold IsDocument
  simp only [← skipBlanks_isEmpty_iff]
  unfold parse
  constructor
  · intro hParse
    split at hParse
    · next rest hRead =>
        simp only [Document.mk.injEq] at hParse
        rcases hParse with ⟨rfl, hBlank⟩
        exact ⟨rest, spells_of_parseValue _ hRead, hBlank⟩
    · simp at hParse
  · rintro ⟨rest, hSpells, hBlank⟩
    rw [hSpells.parseValue_eq _ (by omega)]
    simp only
    rw [hBlank]

------------------------------------------------------------
-- What follows a value
------------------------------------------------------------

theorem skipBlanks_append_of_cons
    {bs tail : Bytes}
    {b : UInt8}
    (hStart : skipBlanks bs = b :: tail)
    (more : Bytes) :
    skipBlanks (bs ++ more) = b :: (tail ++ more) := by
  unfold skipBlanks at hStart ⊢
  rw [List.dropWhile_append, hStart]
  rfl

theorem ne_nil_of_skipBlanks
    {bs tail : Bytes}
    {b : UInt8}
    (hStart : skipBlanks bs = b :: tail) :
    bs ≠ [] := by
  rintro rfl
  simp [skipBlanks] at hStart

mutual

/-
  What follows a value is not looked at. After a number,
  there has to be a byte that ends it.
-/
theorem Spells.append
    {bs rest : Bytes}
    {v : Json}
    (more : Bytes) :
    Spells bs v rest →
      (rest ≠ [] ∨ ∀ n, v ≠ .number n) →
      Spells (bs ++ more) v (rest ++ more)
  | .text hStart hText, _ =>
      .text (skipBlanks_append_of_cons hStart more)
        (parseText_append hText more)
  | .noItems hStart hEnd, _ =>
      .noItems (skipBlanks_append_of_cons hStart more)
        (skipBlanks_append_of_cons hEnd more)
  | .items hStart hItems, _ =>
      .items (skipBlanks_append_of_cons hStart more)
        (hItems.append more)
  | .noMembers hStart hEnd, _ =>
      .noMembers (skipBlanks_append_of_cons hStart more)
        (skipBlanks_append_of_cons hEnd more)
  | .members hStart hMembers, _ =>
      .members (skipBlanks_append_of_cons hStart more)
        (hMembers.append more)
  | .scalar hStart hScalar, hEnd => by
      have hMore := hScalar.append hEnd more
      rcases hScalar.exists_start with ⟨b, tail, rfl, -⟩
      exact
        .scalar (skipBlanks_append_of_cons hStart more) hMore

theorem SpellsItems.append
    {bs rest : Bytes}
    {vs : List Json}
    (more : Bytes) :
    SpellsItems bs vs rest →
      SpellsItems (bs ++ more) vs (rest ++ more)
  | .last hValue hEnd =>
      .last
        (hValue.append more (.inl (ne_nil_of_skipBlanks hEnd)))
        (skipBlanks_append_of_cons hEnd more)
  | .more hValue hComma hItems =>
      .more
        (hValue.append more
          (.inl (ne_nil_of_skipBlanks hComma)))
        (skipBlanks_append_of_cons hComma more)
        (hItems.append more)

theorem SpellsMember.append
    {bs rest : Bytes}
    {k : Option String}
    {v : Json}
    (more : Bytes) :
    SpellsMember bs k v rest →
      rest ≠ [] →
      SpellsMember (bs ++ more) k v (rest ++ more)
  | .named hStart hName hColon hValue, hEnd =>
      .named (skipBlanks_append_of_cons hStart more)
        (parseText_append hName more)
        (skipBlanks_append_of_cons hColon more)
        (hValue.append more (.inl hEnd))

theorem SpellsMembers.append
    {bs rest : Bytes}
    {ms : List (Option String × Json)}
    (more : Bytes) :
    SpellsMembers bs ms rest →
      SpellsMembers (bs ++ more) ms (rest ++ more)
  | .last hMember hEnd =>
      .last (hMember.append more (ne_nil_of_skipBlanks hEnd))
        (skipBlanks_append_of_cons hEnd more)
  | .more hMember hComma hMembers =>
      .more
        (hMember.append more (ne_nil_of_skipBlanks hComma))
        (skipBlanks_append_of_cons hComma more)
        (hMembers.append more)

end

/- Whatever follows a number, a number is read at most. -/
theorem Spells.number_of_append
    {bs rest more rest' : Bytes}
    {n : Numeral}
    {v : Json}
    (hNumber : Spells bs (.number n) rest)
    (hSpells : Spells (bs ++ more) v rest') :
    ∃ n', v = .number n' := by
  cases hNumber with
  | scalar hStart hScalar =>
    cases hScalar with
    | word hWord => simp [words] at hWord
    | number hNumeral =>
      rcases exists_start_of_parseNumeral hNumeral with
        ⟨b, tail, rfl, hDigit, -⟩
      have hMore := skipBlanks_append_of_cons hStart more
      have hOther :
          ∀ c inside,
            skipBlanks (bs ++ more) = c :: inside →
            startsNumber c = true := by
        intro c inside hFront
        rw [hMore, List.cons.injEq] at hFront
        rw [← hFront.1]
        exact hDigit
      cases hSpells with
      | text hFront _ =>
          exact absurd (hOther _ _ hFront) (by decide)
      | noItems hFront _ =>
          exact absurd (hOther _ _ hFront) (by decide)
      | items hFront _ =>
          exact absurd (hOther _ _ hFront) (by decide)
      | noMembers hFront _ =>
          exact absurd (hOther _ _ hFront) (by decide)
      | members hFront _ =>
          exact absurd (hOther _ _ hFront) (by decide)
      | scalar hFront hScalar =>
          cases hScalar with
          | number => exact ⟨_, rfl⟩
          | word hWord =>
              rcases exists_start_of_word hWord with
                ⟨c, letters, hLetters, hNone, -⟩
              rw [hLetters] at hFront
              have hSome := hOther _ _ hFront
              rw [hNone] at hSome
              simp at hSome

------------------------------------------------------------
-- Written values
------------------------------------------------------------

/- A textual value is spelt the way it is written. -/
theorem spells_pretty
    {v : Json}
    (hTextual : isTextual v = true) :
    Spells (Bytes.ofText v.pretty) v [] := by
  have hRead := readsBack 0 v hTextual _ [] (Nat.le_refl _)
  rw [List.append_nil] at hRead
  unfold pretty
  rw [Bytes.ofText_ofList]
  exact spells_of_parseValue _ hRead

/-
  A textual value is not read from less than all that was
  written of it, and neither is any other value.
-/
theorem not_closed_of_prefix
    {v : Json}
    {cut : Bytes}
    (hTextual : isTextual v = true)
    (hCut : cut <+: Bytes.ofText v.pretty)
    (hShort : cut ≠ Bytes.ofText v.pretty) :
    (parse cut).closed = false := by
  rw [Bool.eq_false_iff]
  intro hClosed
  have hParse :
      parse cut =
        { value := (parse cut).value, closed := true } := by
    rw [← hClosed]
  rcases parse_eq_iff.mp hParse with ⟨rest, hSpells, -⟩
  rcases hCut with ⟨more, hWhole⟩
  have hWritten := spells_pretty hTextual
  rw [← hWhole] at hWritten
  by_cases hNumber : ∃ n, (parse cut).value = .number n
  · rcases hNumber with ⟨n, hNumber⟩
    rw [hNumber] at hSpells
    rcases hSpells.number_of_append hWritten with ⟨n', rfl⟩
    simp [isTextual] at hTextual
  · have hOther : ∀ n, (parse cut).value ≠ .number n := by
      simpa using hNumber
    have hEnd :=
      (hSpells.append more (.inr hOther)).unique hWritten
    have hMore : more = [] :=
      (List.append_eq_nil_iff.mp hEnd.2).2
    rw [hMore, List.append_nil] at hWhole
    exact hShort hWhole

end Json
end WorkspaceClient
