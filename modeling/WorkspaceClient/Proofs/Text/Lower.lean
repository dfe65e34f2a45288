import WorkspaceClient.Text.Blank

/-
  This file shows what is changed when a text is put in
  lower case: nothing but the capital letters of ASCII.

  Main declarations:
    * `Text.toLower_cases`
    * `Text.isBlank_toLower`
    * `Text.toLower_toLower`
    * `Text.eq_map_toLower_iff`
-/

namespace WorkspaceClient
namespace Text

/- Only a capital letter is changed to lower case. -/
theorem toLower_cases
    (c : Char) :
    c.toLower = c ∨
      (65 ≤ c.toNat ∧ c.toNat ≤ 90 ∧
        c.toLower.toNat = c.toNat + 32) := by
  by_cases hUpper : 'A'.val ≤ c.val ∧ c.val ≤ 'Z'.val
  · right
    have hLow : 65 ≤ c.toNat := UInt32.le_iff_toNat_le.mp hUpper.1
    have hHigh : c.toNat ≤ 90 := UInt32.le_iff_toNat_le.mp hUpper.2
    refine ⟨hLow, hHigh, ?_⟩
    unfold Char.toLower
    rw [dif_pos hUpper]
    change (c.val + 32).toNat = c.val.toNat + 32
    rw [UInt32.toNat_add]
    change (c.toNat + 32) % 2 ^ 32 = c.toNat + 32
    omega
  · left
    unfold Char.toLower
    rw [dif_neg hUpper]

/- No letter is blank. -/
theorem isBlank_letter
    {c : Char}
    (hLow : 65 ≤ c.toNat)
    (hHigh : c.toNat ≤ 122) :
    isBlank c = false := by
  unfold isBlank
  simp only [Bool.or_eq_false_iff, Bool.and_eq_false_iff,
    decide_eq_false_iff_not, beq_eq_false_iff_ne]
  omega

theorem isBlank_toLower
    (c : Char) :
    isBlank c.toLower = isBlank c := by
  rcases toLower_cases c with hSame | ⟨hLow, hHigh, hNext⟩
  · rw [hSame]
  · rw [isBlank_letter hLow (by omega),
      isBlank_letter (by omega) (by omega)]

theorem toLower_toLower
    (c : Char) :
    c.toLower.toLower = c.toLower := by
  rcases toLower_cases c.toLower with hSame | ⟨hLow, hHigh, _⟩
  · exact hSame
  · rcases toLower_cases c with hSame | ⟨_, _, hNext⟩
    · rw [hSame, hSame]
    · omega

/- A character below the letters is no letter in lower case. -/
theorem toLower_eq_iff
    {c d : Char}
    (hSign : d.toNat < 65) :
    c.toLower = d ↔ c = d := by
  rcases toLower_cases c with hSame | ⟨hLow, hHigh, hNext⟩
  · rw [hSame]
  · constructor
    · rintro rfl
      omega
    · rintro rfl
      omega

/- Nothing but letters is changed to letters. -/
theorem eq_map_toLower_iff
    {signs cs : List Char}
    (hSigns : ∀ c ∈ signs, c.toNat < 65) :
    signs = cs.map Char.toLower ↔ signs = cs := by
  induction cs generalizing signs with
  | nil => rfl
  | cons c cs ih =>
      cases signs with
      | nil => simp
      | cons d signs =>
          rw [List.forall_mem_cons] at hSigns
          rw [List.map_cons, List.cons_eq_cons,
            List.cons_eq_cons, ih hSigns.2, eq_comm,
            toLower_eq_iff hSigns.1, eq_comm]

end Text
end WorkspaceClient
