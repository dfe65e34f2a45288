import WorkspaceClient.Regex.Expression

/-
  This file shows what it means that an expression matches a
  text: the text can be cut into consecutive pieces, one for
  each item.

  Key definitions include:
    * `Text.Cut`
    * `Regex.Item.Matches`

  Main declarations:
    * `Regex.isMatch_iff`
-/

namespace WorkspaceClient

------------------------------------------------------------
-- Cuts
------------------------------------------------------------

namespace Text

variable {α β : Type}

/-
  A text is cut into consecutive pieces that stand for the
  members of a list, in this order.
-/
inductive Cut
    (R : α → List Char → Prop) :
    List α → List Char → Prop where
  | nil : Cut R [] []
  | cons
      {a : α}
      {as : List α}
      {piece rest : List Char}
      (hPiece : R a piece)
      (hRest : Cut R as rest) :
      Cut R (a :: as) (piece ++ rest)

/- A text is cut at the end of the first list. -/
theorem cut_append_iff
    {R : α → List Char → Prop}
    (as bs : List α)
    (text : List Char) :
    Cut R (as ++ bs) text ↔
      ∃ before after,
        text = before ++ after ∧
          Cut R as before ∧ Cut R bs after := by
  constructor
  · intro hCut
    induction as generalizing text with
    | nil => exact ⟨[], text, rfl, .nil, hCut⟩
    | cons a as ih =>
        cases hCut with
        | cons hPiece hRest =>
            rcases ih _ hRest with
              ⟨before, after, rfl, hAs, hBs⟩
            refine
              ⟨_ ++ before, after, ?_, .cons hPiece hAs, hBs⟩
            rw [List.append_assoc]
  · rintro ⟨before, after, rfl, hAs, hBs⟩
    induction hAs with
    | nil => exact hBs
    | cons hPiece _ ih =>
        rw [List.append_assoc]
        exact .cons hPiece ih

theorem cut_singleton_iff
    {R : α → List Char → Prop}
    (a : α)
    (text : List Char) :
    Cut R [a] text ↔ R a text := by
  constructor
  · intro hCut
    cases hCut with
    | cons hPiece hRest =>
        cases hRest
        rwa [List.append_nil]
  · intro hPiece
    have hCut := Cut.cons hPiece (.nil (R := R))
    rwa [List.append_nil] at hCut

/- Only what the members stand for matters. -/
theorem cut_cons_congr
    {R : α → List Char → Prop}
    {S : β → List Char → Prop}
    {a : α}
    {b : β}
    {as : List α}
    {bs : List β}
    (hFirst : ∀ piece, R a piece ↔ S b piece)
    (hRest : ∀ text, Cut R as text ↔ Cut S bs text)
    (text : List Char) :
    Cut R (a :: as) text ↔ Cut S (b :: bs) text := by
  constructor
  · intro hCut
    cases hCut with
    | cons hPiece hOthers =>
        exact
          .cons ((hFirst _).mp hPiece) ((hRest _).mp hOthers)
  · intro hCut
    cases hCut with
    | cons hPiece hOthers =>
        exact
          .cons ((hFirst _).mpr hPiece)
            ((hRest _).mpr hOthers)

end Text

namespace Regex

open Text (Cut)

------------------------------------------------------------
-- Items
------------------------------------------------------------

/- The pieces of a text that an item stands for. -/
def Item.Matches : Item → List Char → Prop
  | one set, piece =>
      ∃ c, piece = [c] ∧ set.contains c = true
  | many set, piece =>
      ∀ c ∈ piece, set.contains c = true

------------------------------------------------------------
-- Places
------------------------------------------------------------

/-
  The place after some characters is reached by one more
  character if the place before it was reached.
-/
theorem shift_getElem?
    (set : CharSet)
    (before after : List Char)
    (c : Char)
    (places : List Bool) :
    (shift set (before ++ c :: after) places)[before.length]? =
        some true ↔
      places[before.length]? = some true ∧
        set.contains c = true := by
  induction before generalizing places with
  | nil =>
      cases places with
      | nil => simp [shift]
      | cons b places => simp [shift]
  | cons d before ih =>
      cases places with
      | nil => simp [shift]
      | cons b places =>
          simp only [List.cons_append, shift,
            List.length_cons, List.getElem?_cons_succ]
          exact ih places

/-
  The place after some characters is reached by any number
  of characters if one of the places before it, or this
  place itself, was reached.
-/
theorem spread_getElem?
    (set : CharSet)
    (seen : Bool)
    (before after : List Char)
    (places : List Bool)
    (hLength :
      places.length = (before ++ after).length + 1) :
    (spread set seen (before ++ after) places)[before.length]? =
        some true ↔
      ∃ start piece,
        before = start ++ piece ∧
          (places[start.length]? = some true ∨
            (start = [] ∧ seen = true)) ∧
          ∀ c ∈ piece, set.contains c = true := by
  induction before generalizing seen places with
  | nil =>
      cases places with
      | nil => simp at hLength
      | cons b places =>
          have hHere :
              (spread set seen ([] ++ after)
                (b :: places))[0]? = some (seen || b) := by
            cases after <;> rfl
          rw [List.length_nil, hHere]
          constructor
          · intro hReached
            refine ⟨[], [], rfl, ?_, by simp⟩
            simpa [or_comm] using hReached
          · rintro ⟨start, piece, hSplit, hStart, _⟩
            have hEmpty : start = [] :=
              (List.append_eq_nil_iff.mp hSplit.symm).1
            subst hEmpty
            simpa [or_comm] using hStart
  | cons d before ih =>
      cases places with
      | nil => simp at hLength
      | cons b places =>
          have hRest :
              places.length =
                (before ++ after).length + 1 := by
            simpa using hLength
          simp only [List.cons_append, spread,
            List.length_cons, List.getElem?_cons_succ]
          rw [ih _ _ hRest]
          constructor
          · rintro ⟨start, piece, rfl, hStart, hPiece⟩
            rcases hStart with hPlace | ⟨rfl, hSeen⟩
            · exact
                ⟨d :: start, piece, rfl, .inl hPlace, hPiece⟩
            · rw [Bool.and_eq_true] at hSeen
              refine ⟨[], d :: piece, rfl, ?_, ?_⟩
              · simpa [or_comm] using hSeen.1
              · intro c hc
                rcases List.mem_cons.mp hc with rfl | hc
                · exact hSeen.2
                · exact hPiece c hc
          · rintro ⟨start, piece, hSplit, hStart, hPiece⟩
            cases start with
            | nil =>
                rw [List.nil_append] at hSplit
                subst hSplit
                refine ⟨[], before, rfl, ?_, ?_⟩
                · refine .inr ⟨rfl, ?_⟩
                  rw [Bool.and_eq_true]
                  refine ⟨?_, hPiece d List.mem_cons_self⟩
                  simpa [or_comm] using hStart
                · intro c hc
                  exact hPiece c (List.mem_cons_of_mem _ hc)
            | cons d' start =>
                rw [List.cons_append, List.cons.injEq]
                  at hSplit
                rcases hSplit with ⟨rfl, rfl⟩
                refine ⟨start, piece, rfl, .inl ?_, hPiece⟩
                simpa using hStart

theorem length_shift
    (set : CharSet)
    (text : List Char)
    (places : List Bool)
    (hLength : places.length = text.length + 1) :
    (shift set text places).length = text.length := by
  induction text generalizing places with
  | nil =>
      cases places with
      | nil => rfl
      | cons b places => rfl
  | cons c text ih =>
      cases places with
      | nil => simp at hLength
      | cons b places =>
          rw [shift, List.length_cons, List.length_cons,
            ih places (by simpa using hLength)]

theorem length_spread
    (set : CharSet)
    (seen : Bool)
    (text : List Char)
    (places : List Bool)
    (hLength : places.length = text.length + 1) :
    (spread set seen text places).length =
      text.length + 1 := by
  induction text generalizing seen places with
  | nil =>
      cases places with
      | nil => simp at hLength
      | cons b places => rfl
  | cons c text ih =>
      cases places with
      | nil => simp at hLength
      | cons b places =>
          rw [spread, List.length_cons, List.length_cons,
            ih _ places (by simpa using hLength)]

/-
  The reached places are those before which the text can be
  cut into pieces for the items.
-/
structure Reached
    (items : List Item)
    (text : List Char)
    (places : List Bool) : Prop where
  length : places.length = text.length + 1
  place :
    ∀ before after,
      text = before ++ after →
        (places[before.length]? = some true ↔
          Cut Item.Matches items before)

theorem reached_startPlaces
    (text : List Char) :
    Reached [] text (startPlaces text) where
  length := by simp [startPlaces]
  place := by
    intro before after hSplit
    cases before with
    | nil =>
        constructor
        · intro _
          exact .nil
        · intro _
          rfl
    | cons c before =>
        constructor
        · intro hReached
          rw [startPlaces, List.length_cons,
            List.getElem?_cons_succ, List.getElem?_map,
            Option.map_eq_some_iff] at hReached
          rcases hReached with ⟨_, _, hPlace⟩
          cases hPlace
        · intro hCut
          cases hCut

/- One more item reaches the places that it should. -/
theorem Reached.advance
    {items : List Item}
    {text : List Char}
    {places : List Bool}
    (h : Reached items text places)
    (item : Item) :
    Reached (items ++ [item]) text
      (Regex.advance text places item) := by
  cases item with
  | one set =>
      refine ⟨?_, ?_⟩
      · rw [Regex.advance, List.length_cons,
          length_shift set text places h.length]
      · intro before after hSplit
        rw [Text.cut_append_iff, Regex.advance]
        rcases List.eq_nil_or_concat before with
          rfl | ⟨start, c, rfl⟩
        · constructor
          · intro hReached
            simp at hReached
          · rintro ⟨first, last, hEmpty, _, hLast⟩
            rcases (Text.cut_singleton_iff _ _).mp hLast with
              ⟨c, rfl, _⟩
            simp at hEmpty
        · rw [List.concat_eq_append] at hSplit ⊢
          have hText : text = start ++ c :: after := by
            rw [hSplit, List.append_assoc,
              List.singleton_append]
          rw [List.length_append, List.length_singleton,
            List.getElem?_cons_succ, hText, shift_getElem?,
            h.place start (c :: after) hText]
          constructor
          · rintro ⟨hStart, hSet⟩
            exact
              ⟨start, [c], rfl, hStart,
                (Text.cut_singleton_iff _ _).mpr
                  ⟨c, rfl, hSet⟩⟩
          · rintro ⟨first, last, hParts, hFirst, hLast⟩
            rcases (Text.cut_singleton_iff _ _).mp hLast with
              ⟨d, rfl, hSet⟩
            rcases List.append_inj' hParts rfl with
              ⟨rfl, hLastChar⟩
            cases hLastChar
            exact ⟨hFirst, hSet⟩
  | many set =>
      refine ⟨?_, ?_⟩
      · rw [Regex.advance,
          length_spread set false text places h.length]
      · intro before after hSplit
        have hLength := h.length
        rw [hSplit] at hLength
        rw [Text.cut_append_iff, Regex.advance, hSplit,
          spread_getElem? set false before after places
            hLength]
        constructor
        · rintro ⟨start, piece, rfl, hStart, hPiece⟩
          have hReached :
              places[start.length]? = some true := by
            simpa using hStart
          rw [h.place start (piece ++ after)
            (by rw [hSplit, List.append_assoc])] at hReached
          exact
            ⟨start, piece, rfl, hReached,
              (Text.cut_singleton_iff _ _).mpr hPiece⟩
        · rintro ⟨start, piece, rfl, hStart, hPiece⟩
          refine
            ⟨start, piece, rfl, .inl ?_,
              (Text.cut_singleton_iff _ _).mp hPiece⟩
          rwa [h.place start (piece ++ after)
            (by rw [hSplit, List.append_assoc])]

/- All items together reach the places that they should. -/
theorem Reached.foldl
    {items : List Item}
    {text : List Char}
    {places : List Bool}
    (h : Reached items text places)
    (more : List Item) :
    Reached (items ++ more) text
      (more.foldl (Regex.advance text) places) := by
  induction more generalizing items places with
  | nil => rwa [List.append_nil]
  | cons item more ih =>
      have hMore := ih (h.advance item)
      rwa [List.append_assoc, List.singleton_append]
        at hMore

------------------------------------------------------------
-- Expressions
------------------------------------------------------------

/-
  An expression matches the texts that can be cut into
  pieces for its items.
-/
theorem isMatch_iff
    (regex : Regex)
    (text : List Char) :
    regex.isMatch text = true ↔
      Cut Item.Matches regex.items text := by
  have hReached :=
    (reached_startPlaces text).foldl regex.items
  rw [List.nil_append] at hReached
  have hEnd :=
    hReached.place text [] (List.append_nil text).symm
  rw [← hEnd]
  unfold isMatch
  have hLast :
      ∀ places : List Bool,
        places.length = text.length + 1 →
        (places.getLastD false = true ↔
          places[text.length]? = some true) := by
    intro places hLength
    have hNonempty : places ≠ [] := by
      intro hEmpty
      rw [hEmpty] at hLength
      simp at hLength
    rw [List.getLastD_eq_getLast?, List.getLast?_eq_getElem?,
      hLength, Nat.add_sub_cancel]
    cases places[text.length]? <;> simp
  exact hLast _ hReached.length

end Regex
end WorkspaceClient
