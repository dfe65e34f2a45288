import WorkspaceClient.Text.Blank

/-
  This file shows what trimming takes away, and which texts
  it leaves as they are: those without a blank at either
  end.

  Key definitions include:
    * `Text.IsTrimmed`

  Main declarations:
    * `Text.exists_trimChars`
    * `Text.head?_trimChars`
    * `Text.getLast?_trimChars`
    * `Text.isTrimmed_trimChars`
    * `Text.trimChars_of_isTrimmed`
-/

namespace WorkspaceClient
namespace Text

------------------------------------------------------------
-- What is taken away
------------------------------------------------------------

/- A part of nothing but blanks is taken from each end. -/
theorem exists_trimChars
    (cs : List Char) :
    ∃ left right,
      cs = left ++ trimChars cs ++ right ∧
        (∀ c ∈ left, isBlank c = true) ∧
        ∀ c ∈ right, isBlank c = true := by
  have hTaken :
      ∀ ds : List Char,
        ∀ c ∈ ds.takeWhile isBlank, isBlank c = true := by
    intro ds c hc
    exact List.all_eq_true.mp List.all_takeWhile c hc
  refine ⟨cs.takeWhile isBlank,
    ((cs.dropWhile isBlank).reverse.takeWhile
      isBlank).reverse, ?_, hTaken cs, ?_⟩
  · rw [trimChars, List.append_assoc, ← List.reverse_append,
      List.takeWhile_append_dropWhile, List.reverse_reverse,
      List.takeWhile_append_dropWhile]
  · intro c hc
    exact hTaken _ c (List.mem_reverse.mp hc)

theorem trimChars_isInfix
    (cs : List Char) :
    trimChars cs <:+: cs := by
  rcases exists_trimChars cs with ⟨left, right, hParts, _⟩
  exact ⟨left, right, hParts.symm⟩

/- Trimming adds no character. -/
theorem mem_of_mem_trim
    {s : String}
    {c : Char}
    (h : c ∈ (trim s).toList) :
    c ∈ s.toList := by
  rw [trim, String.toList_ofList] at h
  exact (trimChars_isInfix s.toList).subset h

/-
  A text between blanks that does not start with one starts
  as the part between them does.
-/
theorem head?_between
    {left middle right : List Char}
    (hLeft : ∀ c ∈ left, isBlank c = true)
    (hRight : ∀ c ∈ right, isBlank c = true)
    (hStart :
      ∀ c ∈ (left ++ middle ++ right).head?,
        isBlank c = false) :
    middle.head? = (left ++ middle ++ right).head? := by
  cases left with
  | cons c left =>
      have hBlank := hLeft c List.mem_cons_self
      rw [hStart c rfl] at hBlank
      cases hBlank
  | nil =>
      cases middle with
      | cons c middle => rfl
      | nil =>
          cases right with
          | nil => rfl
          | cons c right =>
              have hBlank := hRight c List.mem_cons_self
              rw [hStart c rfl] at hBlank
              cases hBlank

/-
  A text that does not start with a blank starts as it does
  when it is trimmed.
-/
theorem head?_trimChars
    {cs : List Char}
    (hStart : ∀ c ∈ cs.head?, isBlank c = false) :
    (trimChars cs).head? = cs.head? := by
  rcases exists_trimChars cs with
    ⟨left, right, hParts, hLeft, hRight⟩
  rw [hParts] at hStart
  rw [head?_between hLeft hRight hStart, ← hParts]

theorem getLast?_trimChars
    {cs : List Char}
    (hEnd : ∀ c ∈ cs.getLast?, isBlank c = false) :
    (trimChars cs).getLast? = cs.getLast? := by
  rcases exists_trimChars cs with
    ⟨left, right, hParts, hLeft, hRight⟩
  have hReverse :
      cs.reverse =
        right.reverse ++ (trimChars cs).reverse
          ++ left.reverse := by
    rw [List.append_assoc, ← List.reverse_append,
      ← List.reverse_append, ← hParts]
  rw [← List.head?_reverse, hReverse] at hEnd
  rw [← List.head?_reverse, ← List.head?_reverse, hReverse]
  apply head?_between _ _ hEnd
  · simpa using hRight
  · simpa using hLeft

------------------------------------------------------------
-- Trimmed texts
------------------------------------------------------------

/- There is no blank at either end. -/
structure IsTrimmed
    (cs : List Char) : Prop where
  first : ∀ c ∈ cs.head?, isBlank c = false
  last : ∀ c ∈ cs.getLast?, isBlank c = false

theorem dropWhile_isBlank_eq
    {cs : List Char}
    (h : ∀ c ∈ cs.head?, isBlank c = false) :
    cs.dropWhile isBlank = cs := by
  cases cs with
  | nil => rfl
  | cons c cs =>
      rw [List.dropWhile_cons_of_neg]
      simp [h c rfl]

/- A trimmed text is left as it is. -/
theorem trimChars_of_isTrimmed
    {cs : List Char}
    (h : IsTrimmed cs) :
    trimChars cs = cs := by
  have hReverse :
      cs.reverse.dropWhile isBlank = cs.reverse := by
    apply dropWhile_isBlank_eq
    rw [List.head?_reverse]
    exact h.last
  rw [trimChars, dropWhile_isBlank_eq h.first, hReverse,
    List.reverse_reverse]

/- Nothing is trimmed from characters that are not blank. -/
theorem trimChars_of_forall
    {cs : List Char}
    (h : ∀ c ∈ cs, isBlank c = false) :
    trimChars cs = cs :=
  trimChars_of_isTrimmed
    { first := fun c hc => h c (List.mem_of_head? hc)
      last := fun c hc => h c (List.mem_of_getLast? hc) }

/- What was trimmed is trimmed. -/
theorem isTrimmed_trimChars
    (cs : List Char) :
    IsTrimmed (trimChars cs) := by
  have hDropped :
      ∀ ds : List Char,
        ∀ c ∈ (ds.dropWhile isBlank).head?,
          isBlank c = false := by
    intro ds c hc
    have hNot := List.head?_dropWhile_not isBlank ds
    rw [hc] at hNot
    simpa using hNot
  constructor
  · intro c hc
    have hPrefix :
        trimChars cs <+: cs.dropWhile isBlank := by
      rw [trimChars, ← List.reverse_suffix,
        List.reverse_reverse]
      exact List.dropWhile_suffix _
    rcases hPrefix with ⟨rest, hRest⟩
    apply hDropped cs c
    rw [← hRest, Option.mem_def, List.head?_append, hc]
    rfl
  · intro c hc
    rw [trimChars, List.getLast?_reverse] at hc
    exact hDropped _ c hc

end Text
end WorkspaceClient
