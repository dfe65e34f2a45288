import WorkspaceClient.Glob.Translation

/-
  This file shows which symbols of a regular expression the
  translation of a pattern consists of. Every character of
  the pattern comes back as a symbol of its own, which is
  escaped where it could have a meaning.

  Key definitions include:
    * `Glob.charSymbol`
    * `Glob.Mark.symbol`
    * `Glob.Piece.symbols`

  Main declarations:
    * `Glob.symbols?_translated`
-/

namespace WorkspaceClient
namespace Glob

open Regex (Symbol symbols?)

------------------------------------------------------------
-- Symbols
------------------------------------------------------------

/- The symbol of a character outside of classes. -/
def charSymbol
    (c : Char) : Symbol :=
  if Regex.isMeta c then .escaped c else .plain c

/- The symbol of a mark. -/
def Mark.symbol : Mark → Symbol
  | member c =>
      if classMetaChars.contains c then .escaped c else .plain c
  | dash => .plain '-'

/- The symbols of a class after its opening bracket. -/
def classSymbols
    (negated : Bool)
    (marks : List Mark) : List Symbol :=
  (if negated then [.plain '^'] else [])
    ++ marks.map Mark.symbol ++ [.plain ']']

/- The symbols of a piece. -/
def Piece.symbols : Piece → List Symbol
  | anyRun => [.plain '.', .plain '*']
  | anyChar => [.plain '.']
  | literal c => [charSymbol c]
  | bracket negated marks =>
      .plain '[' :: classSymbols negated marks

------------------------------------------------------------
-- Written text
------------------------------------------------------------

/- A text has these symbols, whatever comes after it. -/
def HasSymbols
    (text : List Char)
    (symbols : List Symbol) : Prop :=
  ∀ rest,
    symbols? (text ++ rest) =
      (symbols ++ ·) <$> symbols? rest

theorem HasSymbols.append
    {text text' : List Char}
    {symbols symbols' : List Symbol}
    (h : HasSymbols text symbols)
    (h' : HasSymbols text' symbols') :
    HasSymbols (text ++ text') (symbols ++ symbols') := by
  intro rest
  rw [List.append_assoc, h, h']
  cases symbols? rest with
  | none => rfl
  | some others =>
      simp only [Option.map_eq_map, Option.map_some,
        List.append_assoc]

theorem hasSymbols_nil :
    HasSymbols [] [] := by
  intro rest
  rw [List.nil_append]
  cases symbols? rest <;> rfl

/- A character without a backslash is plain. -/
theorem hasSymbols_plain
    {c : Char}
    (hEscape : c ≠ '\\') :
    HasSymbols [c] [.plain c] := by
  intro rest
  rw [List.singleton_append, Regex.symbols?.eq_4]
  · rfl
  · intro hSame
    exact absurd hSame hEscape
  · intro d rest' hSame
    exact absurd hSame hEscape

theorem hasSymbols_plains
    {cs : List Char}
    (hEscape : '\\' ∉ cs) :
    HasSymbols cs (cs.map .plain) := by
  induction cs with
  | nil => exact hasSymbols_nil
  | cons c cs ih =>
      rw [List.mem_cons, not_or] at hEscape
      have hFirst : HasSymbols [c] [.plain c] :=
        hasSymbols_plain (Ne.symm hEscape.1)
      exact hFirst.append (ih hEscape.2)

theorem hasSymbols_escaped
    {c : Char}
    (hMeta : Regex.isMeta c = true) :
    HasSymbols ['\\', c] [.escaped c] := by
  intro rest
  rw [List.cons_append, List.singleton_append,
    Regex.symbols?.eq_3, if_pos hMeta]
  rfl

theorem hasSymbols_flatMap
    {α : Type}
    {written : α → List Char}
    {symbols : α → List Symbol}
    (hOne : ∀ a, HasSymbols (written a) (symbols a))
    (as : List α) :
    HasSymbols (as.flatMap written) (as.flatMap symbols) := by
  induction as with
  | nil => exact hasSymbols_nil
  | cons a as ih =>
      rw [List.flatMap_cons, List.flatMap_cons]
      exact (hOne a).append ih

theorem hasSymbols_char
    (c : Char) :
    HasSymbols (writtenChar c) [charSymbol c] := by
  unfold writtenChar charSymbol
  by_cases hMeta : Regex.isMeta c = true
  · rw [if_pos hMeta, if_pos hMeta]
    exact hasSymbols_escaped hMeta
  · rw [if_neg hMeta, if_neg hMeta]
    apply hasSymbols_plain
    intro hSame
    subst hSame
    exact hMeta rfl

/- Whatever is escaped in a class can be escaped. -/
theorem isMeta_of_classMeta
    {c : Char}
    (hMeta : classMetaChars.contains c = true) :
    Regex.isMeta c = true := by
  simp only [classMetaChars, List.contains_eq_mem,
    List.mem_cons, List.not_mem_nil, or_false,
    decide_eq_true_eq] at hMeta
  rcases hMeta with rfl | rfl | rfl | rfl | rfl | rfl | rfl <;>
    rfl

theorem hasSymbols_mark
    (m : Mark) :
    HasSymbols m.written [m.symbol] := by
  cases m with
  | dash => exact hasSymbols_plain (by decide)
  | member c =>
      simp only [Mark.written, Mark.symbol]
      by_cases hMeta : classMetaChars.contains c = true
      · rw [if_pos hMeta, if_pos hMeta]
        exact hasSymbols_escaped (isMeta_of_classMeta hMeta)
      · rw [if_neg hMeta, if_neg hMeta]
        apply hasSymbols_plain
        intro hSame
        subst hSame
        exact hMeta rfl

theorem hasSymbols_class
    (negated : Bool)
    (marks : List Mark) :
    HasSymbols (writtenClass negated marks)
      (.plain '[' :: classSymbols negated marks) := by
  have hOpening : HasSymbols ['['] [.plain '['] :=
    hasSymbols_plain (by decide)
  have hSign :
      HasSymbols (if negated then ['^'] else [])
        (if negated then [.plain '^'] else []) := by
    cases negated with
    | false => exact hasSymbols_nil
    | true => exact hasSymbols_plain (by decide)
  have hMarks :=
    hasSymbols_flatMap hasSymbols_mark marks
  have hClosing : HasSymbols [']'] [.plain ']'] :=
    hasSymbols_plain (by decide)
  have hSingles :
      marks.flatMap (fun m => [m.symbol]) =
        marks.map Mark.symbol := by
    rw [← List.map_eq_flatMap]
  rw [hSingles] at hMarks
  exact
    hOpening.append ((hSign.append hMarks).append hClosing)

theorem hasSymbols_piece
    (piece : Piece) :
    HasSymbols piece.written piece.symbols := by
  cases piece with
  | anyRun => exact hasSymbols_plains (by decide)
  | anyChar => exact hasSymbols_plain (by decide)
  | literal c => exact hasSymbols_char c
  | bracket negated marks =>
      exact hasSymbols_class negated marks

/- The symbols of a translated pattern. -/
theorem symbols?_translated
    (pieces : List Piece) :
    symbols?
        (['^', '(', '?', 's', ':']
          ++ pieces.flatMap Piece.written ++ [')', '$']) =
      some
        ([.plain '^', .plain '(', .plain '?', .plain 's',
            .plain ':']
          ++ (pieces.flatMap Piece.symbols
            ++ [.plain ')', .plain '$'])) := by
  have hStart :
      HasSymbols ['^', '(', '?', 's', ':']
        [.plain '^', .plain '(', .plain '?', .plain 's',
          .plain ':'] :=
    hasSymbols_plains (by decide)
  have hPieces := hasSymbols_flatMap hasSymbols_piece pieces
  rw [List.append_assoc, hStart, hPieces]
  rfl

end Glob
end WorkspaceClient
