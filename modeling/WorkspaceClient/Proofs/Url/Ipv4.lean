import WorkspaceClient.Proofs.Result
import WorkspaceClient.Proofs.Text.Pieces
import WorkspaceClient.Proofs.Url.Numbers

/-
  This file shows that an address of version 4 that was read
  is one of four bytes, and that the text of such an address
  is read as this address.

  Key definitions include:
    * `Url.ipv4Bytes`

  Main declarations:
    * `Url.lt_of_parseIpv4`
    * `Url.endsInNumber_ipv4Text`
    * `Url.parseIpv4_ipv4Text`
-/

namespace WorkspaceClient
namespace Url

------------------------------------------------------------
-- Parts
------------------------------------------------------------

/- The digits of a number are read as a part. -/
theorem ipv4Part?_toDigits
    (n : Nat) :
    ipv4Part? (Nat.toDigits 10 n) = some n := by
  -- a zero in front stands alone, so the base is ten
  have hAlone :
      ∀ {d : Char} {rest : List Char},
        Nat.toDigits 10 n ≠ '0' :: d :: rest := by
    intro d rest hDigits
    have hFront : (Nat.toDigits 10 n).head? = some '0' := by
      rw [hDigits]
      rfl
    rw [head?_toDigits hFront, Nat.toDigits_zero] at hDigits
    cases hDigits
  unfold ipv4Part?
  split
  · next hNone => exact absurd hNone Nat.toDigits_ne_nil
  · next hHex => exact absurd hHex hAlone
  · next hHex => exact absurd hHex hAlone
  · next hOctal => exact absurd hOctal hAlone
  · exact valueInBase?_toDigits (by decide) (by decide) n

------------------------------------------------------------
-- Bytes
------------------------------------------------------------

/- The four bytes of an address. -/
def ipv4Bytes
    (address : Nat) : List Nat :=
  [3, 2, 1, 0].map fun i => address / Nat.pow 256 i % 256

theorem ipv4Text_eq
    (address : Nat) :
    ipv4Text address =
      ['.'].intercalate
        ((ipv4Bytes address).map (Nat.toDigits 10)) :=
  Text.toList_join_map toList_toString "." (ipv4Bytes address)

/- The text of an address is cut into its bytes. -/
theorem splitOn_ipv4Text
    (address : Nat) :
    Text.splitOn ['.'] (ipv4Text address) =
      (ipv4Bytes address).map (Nat.toDigits 10) := by
  rw [ipv4Text_eq]
  apply Text.splitOn_intercalate
  · simp [ipv4Bytes]
  · intro part hPart hPoint
    rcases List.mem_map.mp hPart with ⟨n, _, rfl⟩
    have hDigit :=
      List.all_eq_true.mp (all_isDigit_toDigits n) '.' hPoint
    exact absurd hDigit (by decide)

theorem nameParts_ipv4Text
    (address : Nat) :
    nameParts (ipv4Text address) =
      (ipv4Bytes address).map (Nat.toDigits 10) := by
  unfold nameParts
  rw [splitOn_ipv4Text]
  exact if_neg (by simp [ipv4Bytes])

/- The text of an address is not taken for a domain name. -/
theorem endsInNumber_ipv4Text
    (address : Nat) :
    endsInNumber (ipv4Text address) = true := by
  unfold endsInNumber
  rw [nameParts_ipv4Text]
  simp [ipv4Bytes, all_isDigit_toDigits]

/- The text of an address is read as the address. -/
theorem parseIpv4_ipv4Text
    {address : Nat}
    (h : address < Nat.pow 256 4) :
    parseIpv4 (ipv4Text address) = .ok address := by
  have hNumbers :
      (nameParts (ipv4Text address)).mapM ipv4Part? =
        some (ipv4Bytes address) := by
    rw [nameParts_ipv4Text, Result.mapM_eq_some_iff,
      List.forall₂_map_left_iff, List.forall₂_same]
    exact fun n _ => ipv4Part?_toDigits n
  have hFour : address < 4294967296 := h
  unfold parseIpv4
  rw [hNumbers]
  simp [ipv4Bytes, Nat.pow_eq]
  rw [if_neg (by omega)]
  refine congrArg Except.ok ?_
  omega

/-
  Bytes at the places from `i` on fill the numbers up to that
  of one more at the place before.
-/
theorem sum_add_le
    {front : List Nat}
    {i : Nat}
    (hFew : i + front.length ≤ 3)
    (hBytes : ∀ n ∈ front, n ≤ 255)
    (sum : Nat) :
    (front.zipIdx i).foldl
          (fun sum x => sum + x.1 * Nat.pow 256 (3 - x.2)) sum
        + Nat.pow 256 (4 - i - front.length) ≤
      sum + Nat.pow 256 (4 - i) := by
  induction front generalizing i sum with
  | nil => exact Nat.le_refl _
  | cons n front ih =>
      rw [List.forall_mem_cons] at hBytes
      rw [List.length_cons] at hFew ⊢
      have hFewer : i + 1 + front.length ≤ 3 := by omega
      have hRest :=
        ih hFewer hBytes.2 (sum + n * Nat.pow 256 (3 - i))
      have hPlace : 4 - (i + 1) = 3 - i := by omega
      have hShift :
          4 - i - (front.length + 1) = 3 - i - front.length := by
        omega
      have hPower :
          Nat.pow 256 (4 - i) = 256 * Nat.pow 256 (3 - i) := by
        have hNext : 4 - i = 3 - i + 1 := by omega
        rw [hNext, Nat.pow_eq, Nat.pow_succ, Nat.mul_comm]
        rfl
      rw [hPlace] at hRest
      rw [List.zipIdx_cons, List.foldl_cons, hShift]
      -- a byte and one more unit make at most the unit before
      calc
        _ ≤ sum + n * Nat.pow 256 (3 - i)
              + Nat.pow 256 (3 - i) := hRest
        _ = sum + (n + 1) * Nat.pow 256 (3 - i) := by
            rw [Nat.add_mul, Nat.one_mul, Nat.add_assoc]
        _ ≤ sum + Nat.pow 256 (4 - i) := by
            rw [hPower]
            apply Nat.add_le_add_left
            apply Nat.mul_le_mul_right
            omega

/- An address that was read has four bytes. -/
theorem lt_of_parseIpv4
    {cs : List Char}
    {address : Nat}
    (h : parseIpv4 cs = .ok address) :
    address < Nat.pow 256 4 := by
  unfold parseIpv4 at h
  split at h
  · cases h
  · next numbers _ =>
      dsimp only at h
      split at h
      · cases h
      · next hSizes =>
          simp only [Bool.or_eq_true, decide_eq_true_eq,
            List.any_eq_true, not_or, not_exists, not_and,
            Nat.not_lt, Nat.not_le] at hSizes
          rcases hSizes with ⟨⟨hFew, hBytes⟩, hLast⟩
          cases h
          have hFront : 0 + numbers.dropLast.length ≤ 3 := by
            rw [List.length_dropLast]
            omega
          have hSum :=
            sum_add_le hFront hBytes (numbers.getLastD 0)
          rw [Nat.sub_zero] at hSum
          omega

end Url
end WorkspaceClient
