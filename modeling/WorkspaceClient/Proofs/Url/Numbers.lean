import Mathlib.Data.List.Basic
import WorkspaceClient.Url.Host

/-
  This file shows that the digits of a number are read as
  this number, and that a number of few digits is small.

  Key definitions include:
    * `Url.lowerDigits`

  Main declarations:
    * `Url.digitsToNat_toDigits`
    * `Url.valueInBase?_toDigits`
    * `Url.lt_of_valueInBase?`
    * `Url.mem_lowerDigits`
    * `Url.head?_toDigits`
-/

namespace WorkspaceClient
namespace Url

------------------------------------------------------------
-- Reading digits
------------------------------------------------------------

theorem digitsToNat_toDigits
    (n : Nat) :
    Text.digitsToNat (Nat.toDigits 10 n) = n :=
  Nat.ofDigitChars_toDigits (by decide) (by decide)

theorem hexValue?_digitChar
    {n : Nat}
    (h : n < 16) :
    Text.hexValue? (Nat.digitChar n) = some n := by
  decide +revert

section

variable {base : Nat}

/- One more digit is read. -/
theorem valueInBase?_concat
    {cs : List Char}
    {m d : Nat}
    (hBase : base ≤ 16)
    (hFront : valueInBase? base cs = some m)
    (hDigit : d < base) :
    valueInBase? base (cs ++ [Nat.digitChar d]) =
      some (base * m + d) := by
  have hValue :=
    hexValue?_digitChar (Nat.lt_of_lt_of_le hDigit hBase)
  unfold valueInBase? at hFront ⊢
  rw [List.foldlM_append, hFront]
  simp [hValue, hDigit]

/- The digits of a number are read as the number. -/
theorem valueInBase?_toDigits
    (hTwo : 1 < base)
    (hBase : base ≤ 16)
    (n : Nat) :
    valueInBase? base (Nat.toDigits base n) = some n := by
  induction n using Nat.strongRecOn with
  | ind n ih =>
      by_cases hSmall : n < base
      · have hEmpty : valueInBase? base [] = some 0 := rfl
        have hOne := valueInBase?_concat hBase hEmpty hSmall
        rw [Nat.toDigits_of_lt_base hSmall]
        simpa using hOne
      · have hLarge : base ≤ n := Nat.le_of_not_lt hSmall
        have hDigit : n % base < base :=
          Nat.mod_lt n (by omega)
        have hLess : n / base < n :=
          Nat.div_lt_self (by omega) hTwo
        rw [Nat.toDigits_of_base_le hTwo hLarge,
          valueInBase?_concat hBase (ih _ hLess) hDigit,
          Nat.div_add_mod]

/- What is read after a number grows with every digit. -/
theorem lt_of_foldlM
    {cs : List Char}
    {m n : Nat}
    (h :
      cs.foldlM (fun n c => do
        let d ← Text.hexValue? c
        if d < base then some (base * n + d) else none) m =
      some n) :
    n < (m + 1) * Nat.pow base cs.length := by
  induction cs generalizing m with
  | nil =>
      cases h
      simp
  | cons c cs ih =>
      rw [List.foldlM_cons] at h
      rcases hValue : Text.hexValue? c with _ | d
      · simp [hValue] at h
      · by_cases hDigit : d < base
        · simp only [hValue, Option.bind_eq_bind,
            Option.bind_some, if_pos hDigit] at h
          calc
            n < (base * m + d + 1) * Nat.pow base cs.length :=
                ih h
            _ ≤ (base * (m + 1)) * Nat.pow base cs.length := by
                apply Nat.mul_le_mul_right
                rw [Nat.mul_succ]
                omega
            _ = (m + 1) * Nat.pow base (c :: cs).length := by
                rw [List.length_cons, Nat.pow_eq, Nat.pow_eq,
                  Nat.pow_succ]
                ac_rfl
        · simp [hValue, hDigit] at h

/- A number of few digits is small. -/
theorem lt_of_valueInBase?
    {cs : List Char}
    {n : Nat}
    (h : valueInBase? base cs = some n) :
    n < Nat.pow base cs.length := by
  have hLess := lt_of_foldlM h
  rwa [Nat.zero_add, Nat.one_mul] at hLess

end

------------------------------------------------------------
-- Writing digits
------------------------------------------------------------

theorem toList_toString
    (n : Nat) :
    (toString n).toList = Nat.toDigits 10 n := by
  change n.repr.toList = _
  rw [Nat.repr_eq_ofList_toDigits, String.toList_ofList]

/- The digits that numbers are written with. -/
def lowerDigits : List Char :=
  "0123456789abcdef".toList

theorem mem_lowerDigits
    {base n : Nat}
    {c : Char}
    (hTwo : 1 < base)
    (hBase : base ≤ 16)
    (h : c ∈ Nat.toDigits base n) :
    c ∈ lowerDigits := by
  have hDigit : ∀ d < 16, Nat.digitChar d ∈ lowerDigits := by
    decide
  induction n using Nat.strongRecOn with
  | ind n ih =>
      by_cases hSmall : n < base
      · rw [Nat.toDigits_of_lt_base hSmall,
          List.mem_singleton] at h
        rw [h]
        exact hDigit n (Nat.lt_of_lt_of_le hSmall hBase)
      · have hLarge : base ≤ n := Nat.le_of_not_lt hSmall
        have hLess : n / base < n :=
          Nat.div_lt_self (by omega) hTwo
        have hLast : n % base < base :=
          Nat.mod_lt n (by omega)
        rw [Nat.toDigits_of_base_le hTwo hLarge,
          List.mem_append, List.mem_singleton] at h
        rcases h with hFront | hEnd
        · exact ih (n / base) hLess hFront
        · rw [hEnd]
          exact hDigit _ (Nat.lt_of_lt_of_le hLast hBase)

theorem all_isDigit_toDigits
    (n : Nat) :
    (Nat.toDigits 10 n).all Char.isDigit = true := by
  rw [List.all_eq_true]
  intro c hMem
  exact Nat.isDigit_of_mem_toDigits (by decide) (by decide) hMem

/- Only zero is written with a zero in front. -/
theorem head?_toDigits
    {n : Nat}
    (h : (Nat.toDigits 10 n).head? = some '0') :
    n = 0 := by
  induction n using Nat.strongRecOn with
  | ind n ih =>
      by_cases hSmall : n < 10
      · have hDigit :
            ∀ n < 10, Nat.digitChar n = '0' → n = 0 := by
          decide
        rw [Nat.toDigits_of_lt_base hSmall] at h
        exact hDigit n hSmall (Option.some.inj h)
      · have hLarge : 10 ≤ n := Nat.le_of_not_lt hSmall
        rw [Nat.toDigits_of_base_le (by decide) hLarge,
          List.head?_append_of_ne_nil _ Nat.toDigits_ne_nil]
          at h
        -- a zero in front would be that of a smaller number
        have hZero := ih (n / 10) (by omega) h
        omega

end Url
end WorkspaceClient
