import WorkspaceClient.Proofs.Text.Search

/-
  This file shows where a list is cut at a separator: at the
  first place where the separator stands, and then in the
  rest.

  Key definitions include:
    * `Text.FirstCut`

  Main declarations:
    * `Text.splitOn_of_not_infix`
    * `Text.FirstCut.splitOn_eq`
    * `Text.exists_firstCut`
    * `Text.splitOn_eq_pair_iff`
    * `Text.pair_infix_append_iff`
-/

namespace WorkspaceClient
namespace Text

------------------------------------------------------------
-- The first cut
------------------------------------------------------------

/-
  A list is cut at the first place where the separator
  stands: it does not stand there or before once its own
  last character is left out.
-/
structure FirstCut
    (separator cs before after : List Char) : Prop where
  parts : cs = before ++ separator ++ after
  first : ¬ separator <:+: before ++ separator.dropLast

section

variable {separator : List Char}

theorem FirstCut.isInfix
    {cs before after : List Char}
    (h : FirstCut separator cs before after) :
    separator <:+: cs :=
  ⟨before, after, h.parts.symm⟩

/- A separator does not stand in a part of itself. -/
theorem not_infix_dropLast
    (hSome : separator ≠ []) :
    ¬ separator <:+: separator.dropLast := by
  intro hInfix
  have hLength := hInfix.length_le
  rw [List.length_dropLast] at hLength
  have hPositive := List.length_pos_iff.mpr hSome
  omega

/- All but the last character of a separator is still there. -/
theorem append_dropLast_isPrefix
    (separator before after : List Char) :
    before ++ separator.dropLast <+:
      before ++ separator ++ after :=
  ((List.prefix_append_right_inj before).mpr
      (List.dropLast_prefix separator)).trans
    (List.prefix_append _ after)

/-
  A list that is cut after its first character does not
  start with the separator.
-/
theorem FirstCut.not_isPrefix
    {c : Char}
    {cs before after : List Char}
    (h : FirstCut separator cs (c :: before) after) :
    ¬ separator <+: cs := by
  intro hPrefix
  apply h.first
  have hShort :
      (c :: before) ++ separator.dropLast <+: cs := by
    rw [h.parts]
    exact append_dropLast_isPrefix separator _ after
  have hLength :
      separator.length ≤
        ((c :: before) ++ separator.dropLast).length := by
    simp
    omega
  exact
    (List.prefix_of_prefix_length_le hPrefix hShort
      hLength).isInfix

theorem FirstCut.tail
    {c : Char}
    {cs before after : List Char}
    (h : FirstCut separator (c :: cs) (c :: before) after) :
    FirstCut separator cs before after where
  parts := (List.cons.inj h.parts).2
  first := fun hInfix =>
    h.first (List.infix_cons_iff.mpr (.inr hInfix))

/- A separator that stands in a list stands somewhere first. -/
theorem exists_firstCut
    (hSome : separator ≠ [])
    {cs : List Char}
    (hInfix : separator <:+: cs) :
    ∃ before after, FirstCut separator cs before after := by
  induction cs with
  | nil => exact absurd (List.infix_nil.mp hInfix) hSome
  | cons c cs ih =>
      by_cases hPrefix : separator <+: c :: cs
      · rcases hPrefix with ⟨after, hAfter⟩
        exact
          ⟨[], after,
            { parts := hAfter.symm
              first := not_infix_dropLast hSome }⟩
      · have hTail :=
          (List.infix_cons_iff.mp hInfix).resolve_left hPrefix
        rcases ih hTail with ⟨before, after, hCut⟩
        refine
          ⟨c :: before, after,
            { parts := by rw [hCut.parts]; rfl
              first := ?_ }⟩
        intro hInfix
        rcases List.infix_cons_iff.mp hInfix with hStart | hLater
        · apply hPrefix
          rw [hCut.parts]
          exact
            hStart.trans
              (append_dropLast_isPrefix separator (c :: before)
                after)
        · exact hCut.first hLater

------------------------------------------------------------
-- Pieces
------------------------------------------------------------

/- The rest of a separator is passed over. -/
theorem splitLoop_skip
    (piece skipped rest : List Char) :
    splitLoop separator skipped.length piece (skipped ++ rest) =
      splitLoop separator 0 piece rest := by
  induction skipped with
  | nil => rfl
  | cons c skipped ih => exact ih

theorem splitLoop_of_not_infix
    {cs : List Char}
    (hNone : ¬ separator <:+: cs)
    (piece : List Char) :
    splitLoop separator 0 piece cs = [piece.reverse ++ cs] := by
  induction cs generalizing piece with
  | nil => rw [splitLoop, List.append_nil]
  | cons c cs ih =>
      rw [List.infix_cons_iff, not_or] at hNone
      rw [splitLoop, if_neg, ih hNone.2, List.reverse_cons,
        List.append_assoc]
      · rfl
      · rw [List.isPrefixOf_iff_prefix]
        exact hNone.1

theorem splitLoop_of_firstCut
    (hSome : separator ≠ [])
    {cs before after : List Char}
    (hCut : FirstCut separator cs before after)
    (piece : List Char) :
    splitLoop separator 0 piece cs =
      (piece.reverse ++ before) :: splitOn separator after := by
  induction before generalizing cs piece with
  | nil =>
      rcases List.exists_cons_of_ne_nil hSome with
        ⟨s, rest, rfl⟩
      have hParts : cs = s :: (rest ++ after) := hCut.parts
      rw [hParts, splitLoop, if_pos, List.append_nil]
      · rw [List.length_cons, Nat.add_sub_cancel,
          splitLoop_skip]
        rfl
      · rw [List.isPrefixOf_iff_prefix]
        exact List.prefix_append (s :: rest) after
  | cons c before ih =>
      have hParts : cs = c :: (before ++ separator ++ after) :=
        hCut.parts
      have hNot := hCut.not_isPrefix
      rw [hParts] at hCut hNot ⊢
      rw [splitLoop, if_neg, ih hCut.tail, List.reverse_cons,
        List.append_assoc]
      · rfl
      · rw [List.isPrefixOf_iff_prefix]
        exact hNot

/- Without a separator there is one piece. -/
theorem splitOn_of_not_infix
    {cs : List Char}
    (hNone : ¬ separator <:+: cs) :
    splitOn separator cs = [cs] :=
  splitLoop_of_not_infix hNone []

/- The first piece ends where the separator stands first. -/
theorem FirstCut.splitOn_eq
    (hSome : separator ≠ [])
    {cs before after : List Char}
    (hCut : FirstCut separator cs before after) :
    splitOn separator cs = before :: splitOn separator after :=
  splitLoop_of_firstCut hSome hCut []

/-
  A separator stands nowhere in a list, or the list is cut
  where it stands first.
-/
theorem splitOn_cases
    (hSome : separator ≠ [])
    (cs : List Char) :
    (¬ separator <:+: cs ∧ splitOn separator cs = [cs]) ∨
      ∃ before after,
        FirstCut separator cs before after ∧
          splitOn separator cs =
            before :: splitOn separator after := by
  by_cases hInfix : separator <:+: cs
  · rcases exists_firstCut hSome hInfix with
      ⟨before, after, hCut⟩
    exact .inr ⟨before, after, hCut, hCut.splitOn_eq hSome⟩
  · exact .inl ⟨hInfix, splitOn_of_not_infix hInfix⟩

theorem splitOn_ne_nil
    (hSome : separator ≠ [])
    (cs : List Char) :
    splitOn separator cs ≠ [] := by
  rcases splitOn_cases hSome cs with
    ⟨_, hSplit⟩ | ⟨_, _, _, hSplit⟩ <;>
  · rw [hSplit]
    exact List.cons_ne_nil _ _

/- There are two pieces if the separator stands once only. -/
theorem splitOn_eq_pair_iff
    (hSome : separator ≠ [])
    {cs before after : List Char} :
    splitOn separator cs = [before, after] ↔
      FirstCut separator cs before after ∧
        ¬ separator <:+: after := by
  constructor
  · intro hPair
    rcases splitOn_cases hSome cs with
      ⟨_, hOne⟩ | ⟨before', after', hCut, hSplit⟩
    · rw [hOne] at hPair
      cases hPair
    · rw [hSplit] at hPair
      rcases List.cons.inj hPair with ⟨rfl, hRest⟩
      rcases splitOn_cases hSome after' with
        ⟨hNone, hOne⟩ | ⟨before'', after'', _, hMore⟩
      · rw [hOne] at hRest
        cases hRest
        exact ⟨hCut, hNone⟩
      · rw [hMore] at hRest
        exact
          absurd (List.cons.inj hRest).2
            (splitOn_ne_nil hSome after'')
  · rintro ⟨hCut, hNone⟩
    rw [hCut.splitOn_eq hSome, splitOn_of_not_infix hNone]

end

------------------------------------------------------------
-- Two characters
------------------------------------------------------------

/-
  Two characters stand together in one of two lists, or
  across the place where the lists meet.
-/
theorem pair_infix_append_iff
    {a b : Char}
    {xs ys : List Char} :
    [a, b] <:+: xs ++ ys ↔
      [a, b] <:+: xs ∨ [a, b] <:+: ys ∨
        (xs.getLast? = some a ∧ ys.head? = some b) := by
  rw [List.infix_append_iff_ne_nil]
  refine or_congr_right (or_congr_right ⟨?_, ?_⟩)
  · rintro ⟨left, right, hLeft, hRight, hPair, hEnd, hStart⟩
    rcases List.cons_eq_append_iff.mp hPair with
      ⟨rfl, _⟩ | ⟨rest, rfl, hRest⟩
    · exact absurd rfl hLeft
    · rcases List.cons_eq_append_iff.mp hRest with
        ⟨rfl, rfl⟩ | ⟨more, rfl, hMore⟩
      · exact
          ⟨List.singleton_suffix_iff_getLast?_eq_some.mp hEnd,
            List.singleton_prefix_iff_head?_eq_some.mp hStart⟩
      · exact
          absurd (List.append_eq_nil_iff.mp hMore.symm).2 hRight
  · rintro ⟨hEnd, hStart⟩
    exact
      ⟨[a], [b], List.cons_ne_nil a [], List.cons_ne_nil b [],
        rfl,
        List.singleton_suffix_iff_getLast?_eq_some.mpr hEnd,
        List.singleton_prefix_iff_head?_eq_some.mpr hStart⟩

end Text
end WorkspaceClient
