import WorkspaceClient.Proofs.Json.Grammar

/-
  This file shows that a document is the encoding of a text
  if all of its value can be read.

  Only the strings of a document have bytes that are not
  ASCII. Those that stand for themselves are encodings of
  texts, because the characters that are escaped among them
  start and end one.

  Main declarations:
    * `Json.Scans.isText`
    * `Json.Spells.isText`
    * `Json.isText_of_parse`
-/

namespace WorkspaceClient
namespace Json

open Bytes (IsText)

------------------------------------------------------------
-- Bytes of a document
------------------------------------------------------------

theorem isText_cons
    {b : UInt8}
    {bs : Bytes}
    (hAscii : b < 0x80)
    (hText : IsText bs) :
    IsText (b :: bs) := by
  have hFirst : IsText [b] :=
    Bytes.isText_of_ascii (List.forall_mem_singleton.mpr hAscii)
  exact hFirst.append hText

theorem ascii_of_isBlankByte
    {b : UInt8}
    (hBlank : isBlankByte b = true) :
    b < 0x80 := by
  simp only [isBlankByte, Bool.or_eq_true, beq_iff_eq] at hBlank
  rcases hBlank with ((rfl | rfl) | rfl) | rfl <;> decide

theorem isText_of_skipBlanks
    {bs : Bytes}
    (hText : IsText (skipBlanks bs)) :
    IsText bs := by
  rw [← List.takeWhile_append_dropWhile
    (p := isBlankByte) (l := bs)]
  refine (Bytes.isText_of_ascii ?_).append hText
  intro b hb
  exact ascii_of_isBlankByte (List.mem_takeWhile_imp hb)

/- A mark of the syntax is not part of any text. -/
theorem isText_of_mark
    {bs tail : Bytes}
    {b : UInt8}
    (hStart : skipBlanks bs = b :: tail)
    (hAscii : b < 0x80)
    (hText : IsText tail) :
    IsText bs := by
  refine isText_of_skipBlanks ?_
  rw [hStart]
  exact isText_cons hAscii hText

theorem ascii_of_hexByte?
    {b : UInt8}
    {n : Nat}
    (hHex : hexByte? b = some n) :
    b < 0x80 :=
  Bytes.lt_of_hexValue? hHex

------------------------------------------------------------
-- Escapes
------------------------------------------------------------

theorem ascii_of_escaped?
    {letter b : UInt8}
    (hEscaped : escaped? letter = some b) :
    letter < 0x80 ∧ b < 0x80 := by
  unfold escaped? at hEscaped
  split at hEscaped
  · next hSelf =>
      cases hEscaped
      rcases hSelf with rfl | rfl | rfl <;> decide
  -- all other letters stand for control characters
  repeat' split at hEscaped
  all_goals cases hEscaped
  all_goals
    subst_vars
    decide

theorem isText_letter
    {letter b : UInt8}
    {bs : Bytes}
    (hEscaped : escaped? letter = some b)
    (hText : IsText bs) :
    IsText (0x5C :: letter :: bs) :=
  isText_cons (by decide)
    (isText_cons (ascii_of_escaped? hEscaped).1 hText)

theorem isText_unit
    {h₁ h₂ h₃ h₄ : UInt8}
    {n : Nat}
    {bs : Bytes}
    (hUnit : unit? h₁ h₂ h₃ h₄ = some n)
    (hText : IsText bs) :
    IsText (0x5C :: 0x75 :: h₁ :: h₂ :: h₃ :: h₄ :: bs) := by
  unfold unit? at hUnit
  simp only [Option.bind_eq_bind,
    Option.bind_eq_some_iff] at hUnit
  rcases hUnit with ⟨_, hHex₁, _, hHex₂, _, hHex₃, _, hHex₄, -⟩
  have hDigits : ∀ h ∈ [h₁, h₂, h₃, h₄], h < 0x80 := by
    simp [ascii_of_hexByte? hHex₁, ascii_of_hexByte? hHex₂,
      ascii_of_hexByte? hHex₃, ascii_of_hexByte? hHex₄]
  exact
    isText_cons (by decide)
      (isText_cons (by decide)
        ((Bytes.isText_of_ascii hDigits).append hText))

------------------------------------------------------------
-- Strings
------------------------------------------------------------

/-
  A string is written as text if it denotes one. What comes
  before it is `front`, which can end inside a character.
-/
theorem Scans.isText
    {front bs rest decoded : Bytes}
    {parts : List TextPart}
    (hScans : Scans bs parts rest)
    (hParts : partBytes parts = some decoded)
    (hText : IsText (front ++ decoded))
    (hRest : IsText rest) :
    IsText (front ++ bs) := by
  fun_induction partBytes parts
      generalizing front bs decoded with
  | case1 =>
      cases hParts
      cases hScans
      rw [List.append_nil] at hText
      exact hText.append (isText_cons (by decide) hRest)
  | case2 b parts ih =>
      rcases Option.map_eq_some_iff.mp hParts with
        ⟨others, hOthers, rfl⟩
      cases hScans with
      | byte _ hScans =>
          rw [List.append_cons] at hText ⊢
          exact ih hScans hOthers hText
      | letter _ hEscaped hScans =>
          have hByte := (ascii_of_escaped? hEscaped).2
          change IsText (front ++ ([b] ++ others)) at hText
          rw [← Bytes.utf8EncodeChar_byte hByte] at hText
          rcases hText.around with ⟨hFront, hText⟩
          rw [← List.nil_append others] at hText
          have hBytes := ih hScans hOthers hText
          exact hFront.append (isText_letter hEscaped hBytes)
  | case3 n parts hOne ih =>
      rcases Option.map_eq_some_iff.mp hParts with
        ⟨others, hOthers, rfl⟩
      rw [codePointBytes_eq] at hText
      rcases hText.around with ⟨hFront, hText⟩
      rw [← List.nil_append others] at hText
      cases hScans with
      | unit hUnit hScans =>
          have hBytes := ih hScans hOthers hText
          exact hFront.append (isText_unit hUnit hBytes)
  | case4 n hFirst m parts hPair ih =>
      rcases Option.map_eq_some_iff.mp hParts with
        ⟨others, hOthers, rfl⟩
      rw [codePointBytes_eq] at hText
      rcases hText.around with ⟨hFront, hText⟩
      rw [← List.nil_append others] at hText
      cases hScans with
      | unit hUnit hScans =>
      cases hScans with
      | unit hUnit' hScans =>
          have hBytes := ih hScans hOthers hText
          exact
            hFront.append
              (isText_unit hUnit (isText_unit hUnit' hBytes))
  | case5 => cases hParts
  | case6 => cases hParts

theorem isText_of_parseText
    {bs rest : Bytes}
    {s : Option String}
    (hText : parseText bs = some (s, rest))
    (hKnown : s.isSome = true)
    (hRest : IsText rest) :
    IsText bs := by
  rcases parseText_eq_some_iff.mp hText with
    ⟨parts, hScans, rfl⟩
  rcases Option.isSome_iff_exists.mp hKnown with
    ⟨text, hBind⟩
  rcases Option.bind_eq_some_iff.mp hBind with
    ⟨decoded, hParts, hDecoded⟩
  rw [← List.nil_append bs]
  refine hScans.isText hParts ?_ hRest
  exact ⟨text, (Bytes.ofText_of_toText? hDecoded).symm⟩

------------------------------------------------------------
-- Values
------------------------------------------------------------

theorem SpellsScalar.isText
    {bs rest : Bytes}
    {v : Json}
    (hSpells : SpellsScalar bs v rest)
    (hRest : IsText rest) :
    IsText bs := by
  cases hSpells with
  | word => exact IsText.append ⟨_, rfl⟩ hRest
  | number hNumeral =>
      rcases readsFront_parseNumeral.used hNumeral with
        ⟨used, rfl, hAscii⟩
      exact (Bytes.isText_of_ascii hAscii).append hRest

mutual

/- A value that can be read is written as text. -/
theorem Spells.isText
    {bs rest : Bytes}
    {v : Json} :
    Spells bs v rest →
      v.isReadable = true → IsText rest → IsText bs
  | .text hStart hText, hReadable, hRest =>
      isText_of_mark hStart (by decide)
        (isText_of_parseText hText hReadable hRest)
  | .noItems hStart hEnd, _, hRest =>
      isText_of_mark hStart (by decide)
        (isText_of_mark hEnd (by decide) hRest)
  | .items hStart hItems, hReadable, hRest =>
      isText_of_mark hStart (by decide)
        (hItems.isText hReadable hRest)
  | .noMembers hStart hEnd, _, hRest =>
      isText_of_mark hStart (by decide)
        (isText_of_mark hEnd (by decide) hRest)
  | .members hStart hMembers, hReadable, hRest =>
      isText_of_mark hStart (by decide)
        (hMembers.isText hReadable hRest)
  | .scalar hStart hScalar, _, hRest => by
      refine isText_of_skipBlanks ?_
      rw [hStart]
      exact hScalar.isText hRest

theorem SpellsItems.isText
    {bs rest : Bytes}
    {vs : List Json} :
    SpellsItems bs vs rest →
      readableItems vs = true → IsText rest → IsText bs
  | .last hValue hEnd, hReadable, hRest => by
      rw [readableItems, Bool.and_eq_true] at hReadable
      exact
        hValue.isText hReadable.1
          (isText_of_mark hEnd (by decide) hRest)
  | .more hValue hComma hItems, hReadable, hRest => by
      rw [readableItems, Bool.and_eq_true] at hReadable
      exact
        hValue.isText hReadable.1
          (isText_of_mark hComma (by decide)
            (hItems.isText hReadable.2 hRest))

theorem SpellsMember.isText
    {bs rest : Bytes}
    {k : Option String}
    {v : Json} :
    SpellsMember bs k v rest →
      k.isSome = true →
      v.isReadable = true → IsText rest → IsText bs
  | .named hStart hName hColon hValue, hKnown, hReadable,
      hRest =>
      isText_of_mark hStart (by decide)
        (isText_of_parseText hName hKnown
          (isText_of_mark hColon (by decide)
            (hValue.isText hReadable hRest)))

theorem SpellsMembers.isText
    {bs rest : Bytes}
    {ms : List (Option String × Json)} :
    SpellsMembers bs ms rest →
      readableMembers ms = true → IsText rest → IsText bs
  | .last hMember hEnd, hReadable, hRest => by
      rw [readableMembers, Bool.and_eq_true,
        Bool.and_eq_true] at hReadable
      exact
        hMember.isText hReadable.1.1 hReadable.1.2
          (isText_of_mark hEnd (by decide) hRest)
  | .more hMember hComma hMembers, hReadable, hRest => by
      rw [readableMembers, Bool.and_eq_true,
        Bool.and_eq_true] at hReadable
      exact
        hMember.isText hReadable.1.1 hReadable.1.2
          (isText_of_mark hComma (by decide)
            (hMembers.isText hReadable.2 hRest))

end

/- A document of which all can be read is text. -/
theorem isText_of_parse
    {bs : Bytes}
    {v : Json}
    (hParse : parse bs = { value := v, closed := true })
    (hReadable : v.isReadable = true) :
    IsText bs := by
  rcases parse_eq_iff.mp hParse with ⟨rest, hSpells, hBlank⟩
  refine hSpells.isText hReadable ?_
  exact
    Bytes.isText_of_ascii fun b hb =>
      ascii_of_isBlankByte (hBlank b hb)

end Json
end WorkspaceClient
