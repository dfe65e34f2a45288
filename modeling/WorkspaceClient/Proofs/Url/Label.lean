import Mathlib.Data.List.Basic
import WorkspaceClient.Url.Host

/-
  This file shows what the ASCII form of a label of a domain
  name consists of: the label itself, or a mark, its
  characters of ASCII, and digits for the others, of which
  there is at least one.

  Key definitions include:
    * `Url.labelDigits`
    * `Url.GoesOn`

  Main declarations:
    * `Url.goesOn_punycodeLoop`
    * `Url.asciiLabel_cases`
    * `Url.isHollow_asciiLabel`
-/

namespace WorkspaceClient
namespace Url

------------------------------------------------------------
-- Digits
------------------------------------------------------------

/- The digits that characters above ASCII are written with. -/
def labelDigits : List Char :=
  "abcdefghijklmnopqrstuvwxyz0123456789".toList

theorem punycodeDigit_mem :
    ∀ n < 36, punycodeDigit n ∈ labelDigits := by
  decide

theorem mem_variableDigits
    {bias fuel k q : Nat}
    {c : Char}
    (h : c ∈ variableDigits bias fuel k q) :
    c ∈ labelDigits := by
  induction fuel generalizing k q with
  | zero => exact absurd h List.not_mem_nil
  | succ fuel ih =>
      have hLow : 1 ≤ min 26 (max 1 (k - bias)) := by omega
      have hHigh : min 26 (max 1 (k - bias)) ≤ 26 := by omega
      unfold variableDigits at h
      dsimp only at h
      generalize min 26 (max 1 (k - bias)) = t at h hLow hHigh
      split at h
      · rw [List.mem_singleton.mp h]
        exact punycodeDigit_mem q (by omega)
      · rcases List.mem_cons.mp h with hFirst | hRest
        · have hRemainder := Nat.mod_lt (q - t)
            (show 0 < 36 - t by omega)
          rw [hFirst]
          exact punycodeDigit_mem _ (by omega)
        · exact ih hRest

theorem variableDigits_ne_nil
    (bias fuel k q : Nat) :
    variableDigits bias (fuel + 1) k q ≠ [] := by
  unfold variableDigits
  dsimp only
  split <;> exact List.cons_ne_nil _ _

------------------------------------------------------------
-- Growing texts
------------------------------------------------------------

/-
  A text goes on with digits, and with one at least if
  something must be written.
-/
def GoesOn
    (must : Prop)
    (old new : List Char) : Prop :=
  ∃ digits,
    new = old ++ digits ∧
      (∀ d ∈ digits, d ∈ labelDigits) ∧
      (must → digits ≠ [])

section

variable {must must' : Prop}
variable {old new newer : List Char}

theorem GoesOn.refl
    (hNone : ¬ must)
    (old : List Char) :
    GoesOn must old old :=
  ⟨[], (List.append_nil old).symm,
    fun _ h => absurd h List.not_mem_nil,
    fun h => absurd h hNone⟩

theorem GoesOn.trans
    (h : GoesOn must old new)
    (h' : GoesOn must' new newer) :
    GoesOn (must ∨ must') old newer := by
  rcases h with ⟨digits, rfl, hDigits, hMust⟩
  rcases h' with ⟨digits', rfl, hDigits', hMust'⟩
  refine ⟨digits ++ digits', List.append_assoc _ _ _, ?_, ?_⟩
  · rw [List.forall_mem_append]
    exact ⟨hDigits, hDigits'⟩
  · rintro (hFirst | hSecond)
    · exact List.append_ne_nil_of_left_ne_nil (hMust hFirst) _
    · exact
        List.append_ne_nil_of_right_ne_nil _ (hMust' hSecond)

theorem GoesOn.mono
    (h : GoesOn must old new)
    (hLess : must' → must) :
    GoesOn must' old new := by
  rcases h with ⟨digits, hNew, hDigits, hMust⟩
  exact ⟨digits, hNew, hDigits, fun h => hMust (hLess h)⟩

end

------------------------------------------------------------
-- Labels
------------------------------------------------------------

section

variable {n : Nat}
variable {label : List Char}

/- A character at the code point that is due is written. -/
theorem goesOn_step
    (n : Nat)
    (s : PunycodeState)
    (c : Char) :
    GoesOn (c.toNat = n) s.text (s.step n c).text := by
  unfold PunycodeState.step
  by_cases hLess : c.toNat < n
  · rw [if_pos hLess]
    exact GoesOn.refl (by omega) s.text
  · rw [if_neg hLess]
    by_cases hDue : c.toNat = n
    · rw [if_pos hDue]
      exact
        ⟨_, rfl, fun _ h => mem_variableDigits h,
          fun _ => variableDigits_ne_nil _ _ _ _⟩
    · rw [if_neg hDue]
      exact GoesOn.refl hDue s.text

theorem goesOn_foldl
    (n : Nat)
    (label : List Char)
    (s : PunycodeState) :
    GoesOn (∃ c ∈ label, c.toNat = n) s.text
      (label.foldl (PunycodeState.step n) s).text := by
  induction label generalizing s with
  | nil => exact GoesOn.refl (by simp) s.text
  | cons c label ih =>
      refine ((goesOn_step n s c).trans (ih _)).mono ?_
      simp only [List.mem_cons, exists_eq_or_imp]
      exact id

/- All characters at the code points of a list are written. -/
theorem goesOn_punycodeLoop
    (label : List Char)
    (points : List Nat)
    (n : Nat)
    (s : PunycodeState) :
    GoesOn (∃ m ∈ points, ∃ c ∈ label, c.toNat = m) s.text
      (punycodeLoop label points n s) := by
  induction points generalizing n s with
  | nil => exact GoesOn.refl (by simp) s.text
  | cons m points ih =>
      unfold punycodeLoop
      simp only [List.mem_cons, exists_eq_or_imp]
      have hFirst :=
        goesOn_foldl m label
          { s with delta := s.delta + (m - n) * (s.done + 1) }
      exact hFirst.trans (ih _ _)

theorem mem_foreignPoints
    {c : Char}
    (hMem : c ∈ label)
    (hForeign : 0x80 ≤ c.toNat) :
    c.toNat ∈ foreignPoints label := by
  unfold foreignPoints
  rw [List.mem_mergeSort, List.mem_eraseDups, List.mem_filter]
  exact ⟨List.mem_map_of_mem hMem, decide_eq_true hForeign⟩

theorem asciiLabel_of_ascii
    (h : ∀ c ∈ label, c.toNat < 0x80) :
    asciiLabel label = label := by
  unfold asciiLabel
  rw [if_pos]
  simpa using h

/-
  A label of ASCII characters is left as it is. Another one
  ends in digits.
-/
theorem asciiLabel_cases
    (label : List Char) :
    (asciiLabel label = label ∧ ∀ c ∈ label, c.toNat < 0x80) ∨
      ∃ basic digits,
        asciiLabel label = "xn--".toList ++ basic ++ digits ∧
          (∀ c ∈ basic,
            c = '-' ∨ (c ∈ label ∧ c.toNat < 0x80)) ∧
          (∀ d ∈ digits, d ∈ labelDigits) ∧
          digits ≠ [] := by
  by_cases hAscii : ∀ c ∈ label, c.toNat < 0x80
  · exact .inl ⟨asciiLabel_of_ascii hAscii, hAscii⟩
  · right
    unfold asciiLabel
    rw [if_neg (by simpa using hAscii)]
    simp only [not_forall, exists_prop, Nat.not_lt] at hAscii
    rcases hAscii with ⟨c, hMem, hForeign⟩
    dsimp only
    generalize hBasic :
      (label.filter fun c => decide (c.toNat < 0x80)) = basic
    rcases goesOn_punycodeLoop label (foreignPoints label) 0x80
        { delta := 0
          bias := 72
          done := basic.length
          basic := basic.length
          text := [] } with
      ⟨digits, hText, hDigits, hSome⟩
    refine
      ⟨if basic.isEmpty then [] else basic ++ ['-'], digits, ?_,
        ?_, hDigits, ?_⟩
    · rw [hText, List.nil_append]
    · intro d hd
      split at hd
      · exact absurd hd List.not_mem_nil
      · rcases List.mem_append.mp hd with hOld | hSign
        · rw [← hBasic, List.mem_filter, decide_eq_true_eq]
            at hOld
          exact .inr hOld
        · exact .inl (List.mem_singleton.mp hSign)
    · exact
        hSome
          ⟨c.toNat, mem_foreignPoints hMem hForeign, c, hMem,
            rfl⟩

/- The ASCII form of a label writes all of its characters. -/
theorem isHollow_asciiLabel
    (h : isHollow label = false) :
    isHollow (asciiLabel label) = false := by
  rcases asciiLabel_cases label with
    ⟨hSame, _⟩ | ⟨basic, digits, hText, _, hDigits, hSome⟩
  · rwa [hSame]
  · have hLast : digits.getLast? ≠ some '-' := by
      intro hSign
      have hDigit := hDigits _ (List.mem_of_getLast? hSign)
      exact absurd hDigit (by decide)
    unfold isHollow
    rw [hText, List.getLast?_append_of_ne_nil _ hSome,
      Bool.and_eq_false_iff, beq_eq_false_iff_ne]
    exact .inr hLast

end

end Url
end WorkspaceClient
