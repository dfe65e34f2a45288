import WorkspaceClient.Proofs.Glob.Ranges

/-
  This file shows that a compiled glob does what its pattern
  means: it exists when the pattern can be read and has no
  reversed range, and it matches the texts that can be cut
  into pieces for the tokens of the pattern.

  Key definitions include:
    * `Glob.Faithful`

  Main declarations:
    * `Glob.items_of_tokens`
    * `Glob.faithful_of_apart`
-/

namespace WorkspaceClient
namespace Glob

open Regex
open Text (Cut)

------------------------------------------------------------
-- Tokens
------------------------------------------------------------

/- The first mark of a class is a member. -/
theorem isProper_oneOf
    (negated : Bool)
    {ms : List Member}
    (hMembers : ms ≠ []) :
    (Token.oneOf negated ms).piece.IsProper := by
  cases ms with
  | nil => exact absurd rfl hMembers
  | cons m ms =>
      cases hMark : mark true ms m with
      | member c =>
          exact
            ⟨c, marks false ms, by rw [marks, hMark]⟩
      | dash =>
          rw [mark_eq_dash_iff] at hMark
          simp at hMark

theorem Reads.isProper
    {position : Nat}
    {cs : List Char}
    {ts : List Token}
    {ending : Ending}
    (h : Reads position cs ts ending) :
    ∀ piece ∈ ts.map Token.piece, piece.IsProper := by
  induction h with
  | nil _ => simp
  | anyRun _ ih => simpa [Token.piece, Piece.IsProper] using ih
  | anyChar _ ih =>
      simpa [Token.piece, Piece.IsProper] using ih
  | backslash _ => simp [Token.piece, Piece.IsProper]
  | escaped _ _ ih =>
      simpa [Token.piece, Piece.IsProper] using ih
  | @oneOf position cs body rest negated ms ts ending
      _ hBody _ ih =>
      intro piece hPiece
      rcases List.mem_cons.mp hPiece with rfl | hPiece
      · exact isProper_oneOf negated hBody.ne_nil
      · exact ih piece hPiece
  | unterminated _ _ _ => simp
  | dangling _ _ _ => simp
  | char _ _ _ ih =>
      simpa [Token.piece, Piece.IsProper] using ih

theorem not_hasDoubleMark
    {ms : List Member}
    (hApart : ¬ HasDoubleDash ms) :
    ¬ HasDoubleMark (marks true ms) := by
  intro hDouble
  rw [hasDoubleMark_marks_iff] at hDouble
  rcases hDouble with ⟨before, after, rfl, _, _⟩
  apply hApart
  exact ⟨before, after, by simp⟩

theorem isOrdered_iff
    (ms : List Member) :
    (ranges ms).all isOrdered = true ↔ IsOrdered ms := by
  unfold IsOrdered isOrdered
  rw [List.all_eq_true]
  simp only [decide_eq_true_eq]

theorem any_contains_iff
    (ms : List Member)
    (c : Char) :
    ((ranges ms).any fun r => r.contains c) = true ↔
      InRanges ms c := by
  unfold InRanges CharRange.contains
  rw [List.any_eq_true]
  simp only [Bool.and_eq_true, decide_eq_true_eq]

/- The set of a class accepts what the class stands for. -/
theorem accepts_iff
    (negated : Bool)
    (ms : List Member)
    (c : Char) :
    ((ranges ms).any (·.contains c) != negated) = true ↔
      Accepts negated ms c := by
  rw [bne_iff_ne, Accepts, ← any_contains_iff]
  cases negated with
  | false => simp
  | true => simp

------------------------------------------------------------
-- Items
------------------------------------------------------------

/- A token has no item if one of its ranges is reversed. -/
theorem item?_eq_none_iff
    {t : Token}
    (hApart : AllApart [t]) :
    t.piece.item? = none ↔ ¬ AllOrdered [t] := by
  have hOther :
      (∀ negated ms, t ≠ .oneOf negated ms) →
      AllOrdered [t] := by
    intro hClass negated ms hMem
    exact
      absurd (List.mem_singleton.mp hMem).symm
        (hClass negated ms)
  cases t with
  | anyRun =>
      simp [Token.piece, Piece.item?, hOther]
  | anyChar =>
      simp [Token.piece, Piece.item?, hOther]
  | char c =>
      simp [Token.piece, Piece.item?, hOther]
  | oneOf negated ms =>
      have hBody : ¬ HasDoubleDash ms :=
        hApart negated ms List.mem_cons_self
      have hSet :=
        (markedSet_of_apart negated (marks true ms)
          (not_hasDoubleMark hBody)).1
      rw [markRanges_marks, ← Bool.not_eq_true,
        isOrdered_iff] at hSet
      have hAll :
          AllOrdered [.oneOf negated ms] ↔ IsOrdered ms := by
        simp [AllOrdered]
      rw [hAll, ← hSet, Token.piece, Piece.item?,
        Option.map_eq_none_iff]

/- The item of a token stands for the same pieces. -/
theorem item_matches_iff
    {t : Token}
    {item : Item}
    (hItem : t.piece.item? = some item)
    (hApart : AllApart [t])
    (piece : List Char) :
    item.Matches piece ↔ t.Stands piece := by
  cases t with
  | anyRun =>
      cases hItem
      constructor
      · intro _
        trivial
      · intro _ c _
        rfl
  | anyChar =>
      cases hItem
      constructor
      · rintro ⟨c, rfl, _⟩
        exact ⟨c, rfl⟩
      · rintro ⟨c, rfl⟩
        exact ⟨c, rfl, rfl⟩
  | char c =>
      cases hItem
      have hSingle :
          ∀ d, (CharSet.single c).contains d = true ↔
            d = c := by
        intro d
        simp only [CharSet.single, CharSet.contains,
          CharRange.single, CharRange.contains,
          Bool.and_eq_true, decide_eq_true_eq]
        constructor
        · intro hBounds
          exact Char.le_antisymm hBounds.2 hBounds.1
        · rintro rfl
          exact ⟨Char.le_refl d, Char.le_refl d⟩
      constructor
      · rintro ⟨d, rfl, hContains⟩
        rw [(hSingle d).mp hContains]
        rfl
      · rintro rfl
        exact ⟨c, rfl, (hSingle c).mpr rfl⟩
  | oneOf negated ms =>
      have hBody : ¬ HasDoubleDash ms :=
        hApart negated ms List.mem_cons_self
      rw [Token.piece, Piece.item?, Option.map_eq_some_iff]
        at hItem
      rcases hItem with ⟨set, hSet, rfl⟩
      have hContains :=
        (markedSet_of_apart negated (marks true ms)
          (not_hasDoubleMark hBody)).2 set hSet
      rw [markRanges_marks] at hContains
      have hAccepts :
          ∀ c, set.contains c = true ↔
            Accepts negated ms c := by
        intro c
        rw [hContains c, accepts_iff]
      constructor
      · rintro ⟨c, rfl, hSet⟩
        exact ⟨c, rfl, (hAccepts c).mp hSet⟩
      · rintro ⟨c, rfl, hStands⟩
        exact ⟨c, rfl, (hAccepts c).mpr hStands⟩

theorem allOrdered_cons
    (t : Token)
    (ts : List Token) :
    AllOrdered (t :: ts) ↔
      AllOrdered [t] ∧ AllOrdered ts := by
  unfold AllOrdered
  constructor
  · intro hAll
    refine ⟨?_, ?_⟩
    · intro negated ms hMem
      rw [List.mem_singleton] at hMem
      rw [← hMem] at hAll
      exact hAll negated ms List.mem_cons_self
    · intro negated ms hMem
      exact hAll negated ms (List.mem_cons_of_mem t hMem)
  · rintro ⟨hFirst, hOthers⟩ negated ms hMem
    rcases List.mem_cons.mp hMem with rfl | hMem
    · exact hFirst negated ms List.mem_cons_self
    · exact hOthers negated ms hMem

theorem AllApart.uncons
    {t : Token}
    {ts : List Token}
    (h : AllApart (t :: ts)) :
    AllApart [t] ∧ AllApart ts := by
  refine ⟨?_, ?_⟩
  · intro negated ms hMem
    rw [List.mem_singleton] at hMem
    rw [← hMem] at h
    exact h negated ms List.mem_cons_self
  · intro negated ms hMem
    exact h negated ms (List.mem_cons_of_mem t hMem)

/-
  Tokens have items if no range is reversed, and the items
  cut texts as the tokens do.
-/
theorem items_of_tokens
    {ts : List Token}
    (hApart : AllApart ts) :
    (¬ AllOrdered ts ∧
        (ts.map Token.piece).mapM Piece.item? = none) ∨
      (AllOrdered ts ∧
        ∃ items,
          (ts.map Token.piece).mapM Piece.item? =
              some items ∧
            ∀ text,
              Cut Item.Matches items text ↔
                Cut Token.Stands ts text) := by
  induction ts with
  | nil =>
      refine .inr ⟨by simp [AllOrdered], [], rfl, ?_⟩
      intro text
      constructor
      · intro hCut
        cases hCut
        exact .nil
      · intro hCut
        cases hCut
        exact .nil
  | cons t ts ih =>
      rcases hApart.uncons with ⟨hFirst, hOthers⟩
      rw [allOrdered_cons, List.map_cons, List.mapM_cons]
      cases hItem : t.piece.item? with
      | none =>
          rw [item?_eq_none_iff hFirst] at hItem
          exact .inl ⟨fun hAll => hItem hAll.1, rfl⟩
      | some item =>
          have hOrdered : AllOrdered [t] := by
            apply Classical.byContradiction
            intro hReversed
            rw [← item?_eq_none_iff hFirst, hItem]
              at hReversed
            simp at hReversed
          rcases ih hOthers with
            ⟨hReversed, hNone⟩ | ⟨hAll, items, hSome, hCut⟩
          · rw [hNone]
            exact .inl ⟨fun hAll => hReversed hAll.2, rfl⟩
          · rw [hSome]
            refine
              .inr ⟨⟨hOrdered, hAll⟩, item :: items, rfl, ?_⟩
            exact
              Text.cut_cons_congr
                (item_matches_iff hItem hFirst) hCut

------------------------------------------------------------
-- Globs
------------------------------------------------------------

/- A class without an end is reported at its position. -/
theorem compile_unterminated
    {source : String}
    {ts : List Token}
    {position : Nat}
    (h : Reads 0 source.toList ts (.unterminated position)) :
    compile source = .error (.unterminatedClass position) := by
  unfold compile translate
  rw [scanPieces_of_reads h]
  rfl

theorem compile_dangling
    {source : String}
    {ts : List Token}
    {position : Nat}
    (h : Reads 0 source.toList ts (.dangling position)) :
    compile source = .error (.danglingEscape position) := by
  unfold compile translate
  rw [scanPieces_of_reads h]
  rfl

/- A pattern that is read to its end has its items. -/
theorem compile_complete
    {source : String}
    {ts : List Token}
    (h : Reads 0 source.toList ts .complete) :
    compile source =
      match (ts.map Token.piece).mapM Piece.item? with
      | some items => .ok { source, regex := { items } }
      | none => .error .unreadable := by
  have hRead :=
    read?_translated (ts.map Token.piece) h.isProper
  unfold compile translate
  rw [scanPieces_of_reads h]
  simp only [Ending.scanned, bind, Except.bind, pure,
    Except.pure]
  rw [hRead]
  cases (ts.map Token.piece).mapM Piece.item? <;> rfl

theorem compile_items
    {source : String}
    {ts : List Token}
    {items : List Item}
    (h : Reads 0 source.toList ts .complete)
    (hItems :
      (ts.map Token.piece).mapM Piece.item? = some items) :
    compile source = .ok { source, regex := { items } } := by
  rw [compile_complete h, hItems]

theorem compile_unreadable
    {source : String}
    {ts : List Token}
    (h : Reads 0 source.toList ts .complete)
    (hItems :
      (ts.map Token.piece).mapM Piece.item? = none) :
    compile source = .error .unreadable := by
  rw [compile_complete h, hItems]

/-
  What a pattern compiles to when it is read in a way. Only
  a pattern that is read to its end may become a glob, which
  then matches what can be cut into pieces for its tokens.
-/
inductive Outcome :
    List Token → Ending → Except Fault Glob → Prop where
  | compiled
      {ts : List Token}
      {glob : Glob}
      (hAll : AllOrdered ts)
      (hMatch :
        ∀ text : String,
          glob.isMatch text = true ↔
            Cut Token.Stands ts text.toList) :
      Outcome ts .complete (.ok glob)
  | reversed
      {ts : List Token}
      (hReversed : ¬ AllOrdered ts) :
      Outcome ts .complete (.error .unreadable)
  | unterminated
      {ts : List Token}
      (position : Nat) :
      Outcome ts (.unterminated position)
        (.error (.unterminatedClass position))
  | dangling
      {ts : List Token}
      (position : Nat) :
      Outcome ts (.dangling position)
        (.error (.danglingEscape position))

/- How a pattern is read decides how it is compiled. -/
theorem outcome_of_reads
    {source : String}
    {ts : List Token}
    {ending : Ending}
    (h : Reads 0 source.toList ts ending)
    (hApart : ending = .complete → AllApart ts) :
    Outcome ts ending (compile source) := by
  cases ending with
  | unterminated position =>
      rw [compile_unterminated h]
      exact .unterminated position
  | dangling position =>
      rw [compile_dangling h]
      exact .dangling position
  | complete =>
      rcases items_of_tokens (hApart rfl) with
        ⟨hReversed, hNone⟩ | ⟨hAll, items, hSome, hCut⟩
      · rw [compile_unreadable h hNone]
        exact .reversed hReversed
      · rw [compile_items h hSome]
        refine .compiled hAll ?_
        intro text
        exact (isMatch_iff _ text.toList).trans (hCut _)

/-
  A pattern compiles if every class has an end and no range
  is reversed, and fails for the reason for which it does
  not. What it compiles to matches the texts that can be cut
  into consecutive pieces for its tokens.
-/
structure Faithful
    (source : String) : Prop where
  compiles :
    (∃ glob, compile source = .ok glob) ↔
      ∃ ts,
        Reads 0 source.toList ts .complete ∧ AllOrdered ts
  unterminated :
    ∀ position,
      compile source = .error (.unterminatedClass position) ↔
        ∃ ts,
          Reads 0 source.toList ts (.unterminated position)
  dangling :
    ∀ position,
      compile source = .error (.danglingEscape position) ↔
        ∃ ts, Reads 0 source.toList ts (.dangling position)
  reversed :
    compile source = .error .unreadable ↔
      ∃ ts,
        Reads 0 source.toList ts .complete ∧ ¬ AllOrdered ts
  isMatch :
    ∀ glob ts,
      compile source = .ok glob →
      Reads 0 source.toList ts .complete →
        ∀ text : String,
          glob.isMatch text = true ↔
            Cut Token.Stands ts text.toList

/-
  A glob is faithful to its pattern if no class of the
  pattern has two dashes in a row without backslashes.
-/
theorem faithful_of_apart
    (source : String)
    (hApart :
      ∀ ts,
        Reads 0 source.toList ts .complete → AllApart ts) :
    Faithful source := by
  have hOutcome :
      ∀ ts ending,
        Reads 0 source.toList ts ending →
          Outcome ts ending (compile source) :=
    fun ts ending hReads =>
      outcome_of_reads hReads fun hEnd =>
        hApart ts (hEnd ▸ hReads)
  rcases exists_reads 0 source.toList with
    ⟨ts, ending, hReads⟩
  have hHere := hOutcome ts ending hReads
  refine ⟨?_, ?_, ?_, ?_, ?_⟩
  · constructor
    · rintro ⟨glob, hOk⟩
      rw [hOk] at hHere
      cases hHere with
      | compiled hAll _ => exact ⟨ts, hReads, hAll⟩
    · rintro ⟨ts', hReads', hAll⟩
      have hThere := hOutcome ts' .complete hReads'
      generalize compile source = result at hThere
      cases hThere with
      | compiled _ _ => exact ⟨_, rfl⟩
      | reversed hReversed => exact absurd hAll hReversed
  · intro position
    constructor
    · intro hError
      rw [hError] at hHere
      cases hHere with
      | unterminated _ => exact ⟨ts, hReads⟩
    · rintro ⟨ts', hReads'⟩
      exact compile_unterminated hReads'
  · intro position
    constructor
    · intro hError
      rw [hError] at hHere
      cases hHere with
      | dangling _ => exact ⟨ts, hReads⟩
    · rintro ⟨ts', hReads'⟩
      exact compile_dangling hReads'
  · constructor
    · intro hError
      rw [hError] at hHere
      cases hHere with
      | reversed hReversed => exact ⟨ts, hReads, hReversed⟩
    · rintro ⟨ts', hReads', hReversed⟩
      have hThere := hOutcome ts' .complete hReads'
      generalize compile source = result at hThere ⊢
      cases hThere with
      | compiled hAll _ => exact absurd hAll hReversed
      | reversed _ => rfl
  · intro glob ts' hOk hReads'
    have hThere := hOutcome ts' .complete hReads'
    rw [hOk] at hThere
    cases hThere with
    | compiled _ hMatch => exact hMatch

theorem faithful_of_apart_range :
    (∀ ts,
      Reads 0 "a*[!b-d]".toList ts .complete →
        AllApart ts) ∧
      Faithful "a*[!b-d]" := by
  have hApart :
      ∀ ts,
        Reads 0 "a*[!b-d]".toList ts .complete →
          AllApart ts := by
    intro ts hReads
    have hChars :
        "a*[!b-d]".toList =
          ['a', '*', '[', '!', 'b', '-', 'd', ']'] := by
      simp
    rw [hChars] at hReads
    have hText :
        ¬ ['-', '-'] <:+:
          ['a', '*', '[', '!', 'b', '-', 'd', ']'] := by
      simp [List.infix_cons_iff]
    exact hReads.allApart hText
  exact ⟨hApart, faithful_of_apart "a*[!b-d]" hApart⟩

end Glob
end WorkspaceClient
