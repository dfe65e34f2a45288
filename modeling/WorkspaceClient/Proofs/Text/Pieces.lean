import WorkspaceClient.Text.Search

/-
  This file shows that a list is cut at a single character
  into pieces without this character, and that pieces with
  the character between them are cut into these pieces. It
  also shows where a list is cut once.

  Key definitions include:
    * `Text.marked`

  Main declarations:
    * `Text.splitOn_char`
    * `Text.splitOn_intercalate`
    * `Text.intercalate_splitOn`
    * `Text.notMem_of_mem_splitOn`
    * `Text.splitOn_eq_iff`
    * `Text.nil_mem_splitOn_of_infix`
    * `Text.flatMap_splitOn`
    * `Text.mem_intercalate`
    * `Text.toList_join_map`
    * `Text.splitAtFirst_append`
    * `Text.splitAtFirst_fst`
    * `Text.splitAtFirst_marked`
-/

namespace WorkspaceClient
namespace Text

section

variable {c : Char}

------------------------------------------------------------
-- Pieces
------------------------------------------------------------

/- A piece that is read grows at its end. -/
theorem splitLoop_char
    (piece cs : List Char) :
    splitLoop [c] 0 piece cs =
      List.splitOnPPrepend (· == c) cs piece := by
  induction cs generalizing piece with
  | nil => rfl
  | cons d cs ih =>
      have hHead : [c].isPrefixOf (d :: cs) = (d == c) := by
        rw [List.isPrefixOf_cons_cons, List.isPrefixOf_nil_left,
          Bool.and_true, Bool.beq_comm]
      rw [splitLoop, List.splitOnPPrepend_cons_eq_if, hHead, ih,
        List.length_singleton, Nat.sub_self, ih]
      rfl

/- To cut at one character is to cut at an element. -/
theorem splitOn_char
    (c : Char)
    (cs : List Char) :
    splitOn [c] cs = cs.splitOn c :=
  splitLoop_char [] cs

/- Pieces without the character are cut apart again. -/
theorem splitOn_intercalate
    {pieces : List (List Char)}
    (hSome : pieces ≠ [])
    (hNone : ∀ piece ∈ pieces, c ∉ piece) :
    splitOn [c] ([c].intercalate pieces) = pieces := by
  rw [splitOn_char]
  exact List.splitOn_intercalate c hNone hSome

/- The pieces of a list are put together again. -/
theorem intercalate_splitOn
    (c : Char)
    (cs : List Char) :
    [c].intercalate (splitOn [c] cs) = cs := by
  rw [splitOn_char]
  exact List.intercalate_splitOn c

theorem splitOn_char_ne_nil
    (c : Char)
    (cs : List Char) :
    splitOn [c] cs ≠ [] := by
  rw [splitOn_char]
  exact List.splitOn_ne_nil c cs

/- The character stands in no piece. -/
theorem notMem_of_mem_splitOn
    {cs piece : List Char}
    (h : piece ∈ splitOn [c] cs) :
    c ∉ piece := by
  rw [splitOn_char] at h
  induction cs generalizing piece with
  | nil =>
      rw [List.splitOn_nil, List.mem_singleton] at h
      rw [h]
      exact List.not_mem_nil
  | cons d cs ih =>
      rw [List.splitOn_cons_eq_if_modifyHead] at h
      split at h
      · rcases List.mem_cons.mp h with hEmpty | hLater
        · rw [hEmpty]
          exact List.not_mem_nil
        · exact ih hLater
      · next hOther =>
          rcases List.exists_cons_of_ne_nil
              (List.splitOn_ne_nil c cs) with
            ⟨first, rest, hSplit⟩
          rw [hSplit] at h ih
          rcases List.mem_cons.mp h with hFirst | hLater
          · rw [hFirst, List.mem_cons, not_or]
            refine ⟨?_, ih List.mem_cons_self⟩
            intro hSame
            rw [hSame, beq_self_eq_true] at hOther
            exact hOther rfl
          · exact ih (List.mem_cons_of_mem first hLater)

/- The character always cuts a list. -/
theorem splitOn_append_cons
    (before after : List Char) :
    splitOn [c] (before ++ c :: after) =
      splitOn [c] before ++ splitOn [c] after := by
  simp only [splitOn_char, List.splitOn]
  exact List.splitOnP_append_cons _ _ (beq_self_eq_true c)

/- Which pieces a list is cut into. -/
theorem splitOn_eq_iff
    {cs : List Char}
    {pieces : List (List Char)} :
    splitOn [c] cs = pieces ↔
      pieces ≠ [] ∧ (∀ piece ∈ pieces, c ∉ piece) ∧
        cs = [c].intercalate pieces := by
  constructor
  · rintro rfl
    exact
      ⟨splitOn_char_ne_nil c cs,
        fun _ => notMem_of_mem_splitOn,
        (intercalate_splitOn c cs).symm⟩
  · rintro ⟨hSome, hNone, rfl⟩
    exact splitOn_intercalate hSome hNone

/- Between two characters there is an empty piece. -/
theorem nil_mem_splitOn_of_infix
    {cs : List Char}
    (h : [c, c] <:+: cs) :
    [] ∈ splitOn [c] cs := by
  rcases h with ⟨before, after, rfl⟩
  have hParts :
      before ++ [c, c] ++ after =
        before ++ c :: ([] ++ c :: after) := by
    rw [List.append_assoc]
    rfl
  rw [hParts, splitOn_append_cons, splitOn_append_cons]
  exact
    List.mem_append_right _
      (List.mem_append_left _ List.mem_cons_self)

/- Behind a character at the end there is an empty piece. -/
theorem nil_mem_splitOn_of_getLast?
    {cs : List Char}
    (h : cs.getLast? = some c) :
    [] ∈ splitOn [c] cs := by
  rcases List.getLast?_eq_some_iff.mp h with ⟨before, rfl⟩
  rw [splitOn_append_cons]
  exact List.mem_append_right _ List.mem_cons_self

/- Pieces with the character in front of each of them. -/
theorem flatMap_cons_eq
    {pieces : List (List Char)}
    (hSome : pieces ≠ []) :
    pieces.flatMap (c :: ·) = c :: [c].intercalate pieces := by
  induction pieces with
  | nil => exact absurd rfl hSome
  | cons first rest ih =>
      cases rest with
      | nil =>
          rw [List.flatMap_singleton,
            List.intercalate_singleton]
      | cons second rest =>
          rw [List.flatMap_cons, ih (List.cons_ne_nil _ _),
            List.intercalate_cons_cons, List.append_assoc]
          rfl

theorem flatMap_splitOn
    (c : Char)
    (cs : List Char) :
    (splitOn [c] cs).flatMap (c :: ·) = c :: cs := by
  rw [flatMap_cons_eq (splitOn_char_ne_nil c cs),
    intercalate_splitOn]

/- What stands between pieces or in one of them. -/
theorem mem_intercalate
    {pieces : List (List Char)}
    {d : Char}
    (h : d ∈ [c].intercalate pieces) :
    d = c ∨ ∃ piece ∈ pieces, d ∈ piece := by
  by_cases hSome : pieces = []
  · rw [hSome] at h
    exact absurd h List.not_mem_nil
  · have hInside := List.mem_cons_of_mem c h
    rw [← flatMap_cons_eq hSome, List.mem_flatMap] at hInside
    rcases hInside with ⟨piece, hPiece, hMem⟩
    rcases List.mem_cons.mp hMem with hSame | hThere
    · exact .inl hSame
    · exact .inr ⟨piece, hPiece, hThere⟩

/- A piece has only characters of the list. -/
theorem mem_of_mem_splitOn
    {cs piece : List Char}
    {d : Char}
    (hPiece : piece ∈ splitOn [c] cs)
    (hMem : d ∈ piece) :
    d ∈ cs := by
  have hInside : d ∈ (splitOn [c] cs).flatMap (c :: ·) :=
    List.mem_flatMap.mpr
      ⟨piece, hPiece, List.mem_cons_of_mem c hMem⟩
  rw [flatMap_splitOn] at hInside
  rcases List.mem_cons.mp hInside with hSame | hList
  · rw [hSame] at hMem
    exact absurd hMem (notMem_of_mem_splitOn hPiece)
  · exact hList

end

/- Texts that are joined are pieces with a separator. -/
theorem toList_join_map
    {α : Type}
    {f : α → String}
    {g : α → List Char}
    (h : ∀ x, (f x).toList = g x)
    (separator : String)
    (xs : List α) :
    (join separator (xs.map f)).toList =
      separator.toList.intercalate (xs.map g) := by
  unfold join
  rw [String.toList_intercalate, List.map_map]
  exact congrArg _ (List.map_congr_left fun x _ => h x)

------------------------------------------------------------
-- One cut
------------------------------------------------------------

section

variable {α : Type}
variable {p : α → Bool}

theorem splitAtFirst_of_forall
    {xs : List α}
    (hNone : ∀ x ∈ xs, p x = false) :
    splitAtFirst p xs = (xs, none) := by
  induction xs with
  | nil => rfl
  | cons x xs ih =>
      rw [List.forall_mem_cons] at hNone
      rw [splitAtFirst, hNone.1, ih hNone.2]
      rfl

theorem splitAtFirst_append
    {xs : List α}
    {x : α}
    (hNone : ∀ y ∈ xs, p y = false)
    (hFirst : p x = true)
    (rest : List α) :
    splitAtFirst p (xs ++ x :: rest) = (xs, some rest) := by
  induction xs with
  | nil => rw [List.nil_append, splitAtFirst, if_pos hFirst]
  | cons y xs ih =>
      rw [List.forall_mem_cons] at hNone
      rw [List.cons_append, splitAtFirst, hNone.1, ih hNone.2]
      rfl

/- The part before the cut has no element to cut at. -/
theorem splitAtFirst_fst
    (p : α → Bool)
    (xs : List α) :
    (splitAtFirst p xs).1 = xs.takeWhile (!p ·) := by
  induction xs with
  | nil => rfl
  | cons x xs ih =>
      rw [splitAtFirst, List.takeWhile_cons]
      cases p x with
      | true => rfl
      | false => exact congrArg (x :: ·) ih

end

------------------------------------------------------------
-- Marked parts
------------------------------------------------------------

/- A part behind its mark, if there is such a part. -/
def marked
    (mark : Char) : Option (List Char) → List Char
  | some part => mark :: part
  | none => []

section

variable {mark : Char}
variable {part : Option (List Char)}

theorem mem_marked_cases
    {shown : Char → Bool}
    (hShown :
      ∀ cs, part = some cs → ∀ c ∈ cs, shown c = true)
    {c : Char}
    (hMem : c ∈ marked mark part) :
    c = mark ∨ shown c = true := by
  cases part with
  | none => exact absurd hMem List.not_mem_nil
  | some cs =>
      rcases List.mem_cons.mp hMem with hMark | hInside
      · exact .inl hMark
      · exact .inr (hShown cs rfl c hInside)

/- A part is cut off at its mark. -/
theorem splitAtFirst_marked
    {front : List Char}
    (hNone : mark ∉ front) :
    splitAtFirst (· == mark) (front ++ marked mark part) =
      (front, part) := by
  have hFront : ∀ c ∈ front, (c == mark) = false := by
    intro c hc
    rw [beq_eq_false_iff_ne]
    rintro rfl
    exact hNone hc
  cases part with
  | none =>
      exact
        (congrArg _ (List.append_nil front)).trans
          (splitAtFirst_of_forall hFront)
  | some cs =>
      exact
        splitAtFirst_append hFront (beq_self_eq_true mark)
          cs

end

end Text
end WorkspaceClient
