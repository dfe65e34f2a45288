import WorkspaceClient.Proofs.Glob.Classes

/-
  This file shows how the translation of a pattern is read
  as a regular expression: every piece becomes one item.

  Key definitions include:
    * `Glob.Piece.item?`

  Main declarations:
    * `Glob.readItem_piece`
    * `Glob.read?_translated`
-/

namespace WorkspaceClient
namespace Glob

open Regex

------------------------------------------------------------
-- Items of pieces
------------------------------------------------------------

/- The item of a piece, if no range in it is reversed. -/
def Piece.item? : Piece → Option Item
  | anyRun => some (.many .all)
  | anyChar => some (.one .all)
  | literal c => some (.one (.single c))
  | bracket negated ms => (markedSet negated ms).map .one

/- Whether a class starts with a member, as all classes do. -/
def Piece.IsProper : Piece → Prop
  | bracket _ ms => ∃ c tail, ms = .member c :: tail
  | _ => True

/- A character is escaped if it could be something else. -/
theorem charSymbol_ne
    (c : Char)
    {d : Char}
    (hMeta : isMeta d = true) :
    charSymbol c ≠ .plain d := by
  intro hSame
  unfold charSymbol at hSame
  split at hSame
  · simp at hSame
  · next hPlain =>
      rw [Symbol.plain.injEq] at hSame
      subst hSame
      exact hPlain hMeta

/- Operators can be escaped. -/
theorem isMeta_of_operator
    {c : Char}
    (hOperator : operators.contains c = true) :
    isMeta c = true := by
  simp only [operators, List.contains_eq_mem, List.mem_cons,
    List.not_mem_nil, or_false, decide_eq_true_eq]
    at hOperator
  rcases hOperator with rfl | rfl | rfl | rfl | rfl | rfl |
    rfl | rfl | rfl | rfl | rfl | rfl <;> rfl

/- A written character is read as itself. -/
theorem readSet_charSymbol
    (c : Char)
    (rest : List Symbol) :
    readSet (charSymbol c :: rest) =
      some (.single c, rest) := by
  have hNe :
      ∀ d, isMeta d = true → charSymbol c ≠ .plain d :=
    fun d hMeta => charSymbol_ne c hMeta
  unfold charSymbol at hNe ⊢
  by_cases hMeta : isMeta c = true
  · rw [if_pos hMeta]
    rfl
  · rw [if_neg hMeta] at hNe ⊢
    rw [readSet.eq_4]
    · rw [if_neg]
      intro hOperator
      exact hMeta (isMeta_of_operator hOperator)
    · rintro rfl
      exact hMeta rfl
    · rintro rfl
      exact hMeta rfl

theorem readItem_many
    {cs rest : List Symbol}
    {set : CharSet}
    (hSet : readSet cs = some (set, .plain '*' :: rest)) :
    readItem cs = some (.many set, rest) := by
  unfold readItem
  rw [hSet]
  rfl

theorem readItem_one
    {cs rest : List Symbol}
    {set : CharSet}
    (hSet : readSet cs = some (set, rest))
    (hRest : ∀ tail, rest ≠ .plain '*' :: tail) :
    readItem cs = some (.one set, rest) := by
  unfold readItem
  rw [hSet]
  split <;> simp_all

/- A written piece is read as its item. -/
theorem readItem_piece
    (piece : Piece)
    (rest : List Symbol)
    (hProper : piece.IsProper)
    (hRest : ∀ tail, rest ≠ .plain '*' :: tail) :
    readItem (piece.symbols ++ rest) =
      piece.item?.map fun item => (item, rest) := by
  cases piece with
  | anyRun => exact readItem_many rfl
  | anyChar => exact readItem_one rfl hRest
  | literal c =>
      exact readItem_one (readSet_charSymbol c rest) hRest
  | bracket negated ms =>
      rcases hProper with ⟨c, tail, rfl⟩
      have hSet := readSet_class negated c tail rest
      unfold Piece.item?
      simp only
      cases hMarked : markedSet negated (.member c :: tail) with
      | none =>
          rw [hMarked] at hSet
          unfold readItem
          rw [hSet]
          rfl
      | some set =>
          rw [hMarked] at hSet
          exact readItem_one hSet hRest

------------------------------------------------------------
-- Items of patterns
------------------------------------------------------------

/- The symbols of pieces and of the end of the expression. -/
def endedSymbols
    (pieces : List Piece) : List Symbol :=
  pieces.flatMap Piece.symbols ++ [.plain ')', .plain '$']

theorem endedSymbols_cons
    (piece : Piece)
    (pieces : List Piece) :
    endedSymbols (piece :: pieces) =
      piece.symbols ++ endedSymbols pieces := by
  unfold endedSymbols
  rw [List.flatMap_cons, List.append_assoc]

/- Neither a star nor the end of the group starts a piece. -/
theorem symbols_head_ne
    (piece : Piece)
    (rest : List Symbol)
    {c : Char}
    (hChar : c = '*' ∨ c = ')') :
    ∀ tail, piece.symbols ++ rest ≠ .plain c :: tail := by
  intro tail hSame
  cases piece with
  | anyRun =>
      have hFirst := (List.cons.inj hSame).1
      rw [Symbol.plain.injEq] at hFirst
      subst hFirst
      simp at hChar
  | anyChar =>
      have hFirst := (List.cons.inj hSame).1
      rw [Symbol.plain.injEq] at hFirst
      subst hFirst
      simp at hChar
  | literal d =>
      have hFirst := (List.cons.inj hSame).1
      refine charSymbol_ne d ?_ hFirst
      rcases hChar with rfl | rfl <;> rfl
  | bracket negated ms =>
      have hFirst := (List.cons.inj hSame).1
      rw [Symbol.plain.injEq] at hFirst
      subst hFirst
      simp at hChar

theorem endedSymbols_ne_star
    (pieces : List Piece) :
    ∀ tail, endedSymbols pieces ≠ .plain '*' :: tail := by
  cases pieces with
  | nil =>
      intro tail hSame
      simp [endedSymbols] at hSame
  | cons piece pieces =>
      rw [endedSymbols_cons]
      exact symbols_head_ne piece _ (.inl rfl)

theorem readItems_some
    {cs rest : List Symbol}
    {item : Item}
    (hMore : cs ≠ [.plain ')', .plain '$'])
    (hItem : readItem cs = some (item, rest)) :
    readItems cs = (item :: ·) <$> readItems rest := by
  rw [readItems, if_neg hMore]
  split
  · next hNone =>
      rw [hNone] at hItem
      simp at hItem
  · next item' rest' hSome =>
      rw [hSome, Option.some.injEq, Prod.mk.injEq] at hItem
      rw [hItem.1, hItem.2]

theorem readItems_none
    {cs : List Symbol}
    (hMore : cs ≠ [.plain ')', .plain '$'])
    (hItem : readItem cs = none) :
    readItems cs = none := by
  rw [readItems, if_neg hMore]
  split
  · rfl
  · next item rest hSome =>
      rw [hSome] at hItem
      simp at hItem

/- Written pieces are read as their items. -/
theorem readItems_endedSymbols
    (pieces : List Piece)
    (hProper : ∀ piece ∈ pieces, piece.IsProper) :
    readItems (endedSymbols pieces) =
      pieces.mapM Piece.item? := by
  induction pieces with
  | nil =>
      rw [readItems]
      rfl
  | cons piece pieces ih =>
      have hFirst :=
        readItem_piece piece (endedSymbols pieces)
          (hProper piece List.mem_cons_self)
          (endedSymbols_ne_star pieces)
      have hOthers :=
        ih fun p hp => hProper p (List.mem_cons_of_mem _ hp)
      have hMore :
          endedSymbols (piece :: pieces) ≠
            [.plain ')', .plain '$'] := by
        rw [endedSymbols_cons]
        exact symbols_head_ne piece _ (.inr rfl) _
      rw [← endedSymbols_cons] at hFirst
      rw [List.mapM_cons]
      cases hItem : piece.item? with
      | none =>
          rw [hItem] at hFirst
          exact readItems_none hMore hFirst
      | some item =>
          rw [hItem] at hFirst
          rw [readItems_some hMore hFirst, hOthers]
          cases pieces.mapM Piece.item? <;> rfl

/- The translation of pieces is read as their items. -/
theorem read?_translated
    (pieces : List Piece)
    (hProper : ∀ piece ∈ pieces, piece.IsProper) :
    Regex.read?
        (['^', '(', '?', 's', ':']
          ++ pieces.flatMap Piece.written ++ [')', '$']) =
      (pieces.mapM Piece.item?).map Regex.mk := by
  have hItems := readItems_endedSymbols pieces hProper
  unfold endedSymbols at hItems
  unfold Regex.read?
  rw [symbols?_translated]
  change
    (readItems (pieces.flatMap Piece.symbols
      ++ [.plain ')', .plain '$'])).bind
        (fun items => some (Regex.mk items)) = _
  rw [hItems]
  cases pieces.mapM Piece.item? <;> rfl

end Glob
end WorkspaceClient
