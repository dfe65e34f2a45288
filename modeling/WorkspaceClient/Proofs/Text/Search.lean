import WorkspaceClient.Text.Search

/-
  This file shows what it means that a part occurs in a
  text, and that a part without a separator occurs on one
  side of the separator.

  Key definitions include:
    * `Text.Mentions`
    * `Text.StandsAt`
    * `Text.MentionsOnce`

  Main declarations:
    * `Text.occurs_iff`
    * `Text.contains_iff`
    * `Text.infix_separated_iff`
    * `Text.mentions_colon_iff`
    * `Text.mentions_iff_exists_standsAt`
    * `Text.prefix_drop_separated_iff`
-/

namespace WorkspaceClient
namespace Text

section

variable {α : Type}
variable [BEq α] [LawfulBEq α]

/- A part that is found stands in the list without a gap. -/
theorem occurs_iff
    {part cs : List α} :
    occurs part cs = true ↔ part <:+: cs := by
  induction cs with
  | nil =>
      rw [occurs, List.isEmpty_iff, List.infix_nil]
  | cons c cs ih =>
      rw [occurs, Bool.or_eq_true, ih, List.isPrefixOf_iff_prefix,
        List.infix_cons_iff]

end

/- Whether a text has another one inside, without a gap. -/
def Mentions
    (s part : String) : Prop :=
  part.toList <:+: s.toList

theorem contains_iff
    {s part : String} :
    contains s part = true ↔ Mentions s part :=
  occurs_iff

instance
    (s part : String) :
    Decidable (Mentions s part) :=
  decidable_of_iff _ contains_iff

theorem mentions_middle
    (s part rest : String) :
    Mentions (s ++ part ++ rest) part := by
  unfold Mentions
  rw [String.toList_append, String.toList_append]
  exact ⟨s.toList, rest.toList, rfl⟩

/- What stands on both sides of a separator is mentioned. -/
theorem mentions_before
    (s separator t : String) :
    Mentions (s ++ separator ++ t) s := by
  unfold Mentions
  rw [String.append_assoc, String.toList_append]
  exact (List.prefix_append _ _).isInfix

theorem mentions_behind
    (s separator t : String) :
    Mentions (s ++ separator ++ t) t := by
  unfold Mentions
  rw [String.toList_append]
  exact (List.suffix_append _ _).isInfix

/- A part without a separator does not reach across it. -/
theorem infix_separated_iff
    {part xs ys : List Char}
    {c : Char}
    (hPart : c ∉ part) :
    part <:+: xs ++ c :: ys ↔ part <:+: xs ∨ part <:+: ys := by
  constructor
  · intro h
    rcases List.infix_append_iff.mp h with
      hLeft | hRight | ⟨left, right, rfl, hLeft, hRight⟩
    · exact .inl hLeft
    · rcases List.infix_cons_iff.mp hRight with hHead | hTail
      · rcases List.prefix_cons_iff.mp hHead with
          rfl | ⟨rest, rfl, _⟩
        · exact .inr (List.nil_infix)
        · exact absurd List.mem_cons_self hPart
      · exact .inr hTail
    · rcases List.prefix_cons_iff.mp hRight with
        rfl | ⟨rest, rfl, _⟩
      · rw [List.append_nil]
        exact .inl hLeft.isInfix
      · exact absurd (by simp) hPart
  · rintro (hLeft | hRight)
    · exact hLeft.trans (List.prefix_append xs _).isInfix
    · apply hRight.trans
      exact (List.suffix_append_of_suffix
        (List.suffix_cons c ys)).isInfix

/-
  A part without a colon, and with no blank at its start,
  stands on one side of a colon and a blank.
-/
theorem mentions_colon_iff
    {part : String}
    (hColon : ':' ∉ part.toList)
    (hStart : part.toList.head? ≠ some ' ')
    (s t : String) :
    Mentions (s ++ ": " ++ t) part ↔
      Mentions s part ∨ Mentions t part := by
  have hText :
      (s ++ ": " ++ t).toList =
        s.toList ++ ':' :: ' ' :: t.toList := by
    simp
  have hBlank :
      part.toList <+: ' ' :: t.toList →
        part.toList <:+: t.toList := by
    intro h
    rcases List.prefix_cons_iff.mp h with
      hNone | ⟨rest, hPart, _⟩
    · rw [hNone]
      exact List.nil_infix
    · rw [hPart] at hStart
      exact absurd rfl hStart
  unfold Mentions
  rw [hText, infix_separated_iff hColon, List.infix_cons_iff,
    or_iff_right_of_imp hBlank]

------------------------------------------------------------
-- Places
------------------------------------------------------------

/- A part stands in a text behind its first `n` characters. -/
def StandsAt
    (s part : String)
    (n : Nat) : Prop :=
  part.toList <+: s.toList.drop n

theorem mentions_iff_exists_standsAt
    {s part : String} :
    Mentions s part ↔ ∃ n, StandsAt s part n := by
  constructor
  · rintro ⟨before, after, hParts⟩
    refine ⟨before.length, after, ?_⟩
    rw [← hParts, List.append_assoc, List.drop_left]
  · rintro ⟨n, hPart⟩
    exact hPart.isInfix.trans (List.drop_suffix n _).isInfix

/- A part stands at one place of a text, and at no other. -/
def MentionsOnce
    (s part : String) : Prop :=
  ∃ n, ∀ m, StandsAt s part m ↔ m = n

/- A part without a separator ends before it. -/
theorem prefix_separated_iff
    {part xs ys : List Char}
    {c : Char}
    (hPart : c ∉ part) :
    part <+: xs ++ c :: ys ↔ part <+: xs := by
  constructor
  · intro h
    induction xs generalizing part with
    | nil =>
        rcases List.prefix_cons_iff.mp h with
          rfl | ⟨rest, rfl, _⟩
        · exact List.nil_prefix
        · exact absurd List.mem_cons_self hPart
    | cons x xs ih =>
        rcases List.prefix_cons_iff.mp h with
          rfl | ⟨rest, rfl, hRest⟩
        · exact List.nil_prefix
        · rw [List.prefix_cons_inj]
          apply ih _ hRest
          exact fun hMem => hPart (List.mem_cons_of_mem _ hMem)
  · intro h
    exact h.trans (List.prefix_append xs _)

/-
  A part without a separator starts on one side of it, and
  ends on the same side.
-/
theorem prefix_drop_separated_iff
    {part xs ys : List Char}
    {c : Char}
    (hSome : part ≠ [])
    (hPart : c ∉ part)
    (n : Nat) :
    part <+: (xs ++ c :: ys).drop n ↔
      part <+: xs.drop n ∨
        ∃ m, n = xs.length + 1 + m ∧ part <+: ys.drop m := by
  by_cases hBefore : n ≤ xs.length
  · rw [List.drop_append_of_le_length hBefore,
      prefix_separated_iff hPart, or_iff_left]
    rintro ⟨m, hBehind, _⟩
    omega
  · rcases Nat.exists_eq_add_of_lt (Nat.lt_of_not_le hBefore)
      with ⟨m, hPlace⟩
    have hBehind : n = xs.length + 1 + m := by omega
    have hNone : xs.drop n = [] :=
      List.drop_eq_nil_of_le (by omega)
    have hRest : (xs ++ c :: ys).drop n = ys.drop m := by
      rw [List.drop_append, hNone, List.nil_append, hBehind,
        Nat.add_assoc, Nat.add_sub_cancel_left, Nat.add_comm,
        List.drop_succ_cons]
    rw [hRest, hNone, List.prefix_nil, or_iff_right hSome]
    constructor
    · intro h
      exact ⟨m, hBehind, h⟩
    · rintro ⟨m', hPlace', h⟩
      have hSame : m' = m := by omega
      rwa [hSame] at h

/- A last character that a part does not end in is no part. -/
theorem prefix_drop_concat_iff
    {part xs : List Char}
    {c : Char}
    (hEnd : part.getLast? ≠ some c)
    (n : Nat) :
    part <+: (xs ++ [c]).drop n ↔ part <+: xs.drop n := by
  by_cases hBefore : n ≤ xs.length
  · rw [List.drop_append_of_le_length hBefore,
      List.prefix_concat_iff, or_iff_right]
    intro hWhole
    rw [hWhole] at hEnd
    exact hEnd List.getLast?_concat
  · have hNone : xs.drop n = [] :=
      List.drop_eq_nil_of_le (by omega)
    have hLast : [c].drop (n - xs.length) = [] :=
      List.drop_eq_nil_of_le (by simp; omega)
    rw [List.drop_append, hNone, hLast, List.append_nil]

end Text
end WorkspaceClient
