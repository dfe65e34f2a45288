import WorkspaceClient.Proofs.Result
import WorkspaceClient.Proofs.Text.Cutting
import WorkspaceClient.Proofs.Text.Pieces
import WorkspaceClient.Proofs.Url.Numbers

/-
  This file shows that an address of version 6 that was read
  has eight pieces of two bytes, and that the text of such
  an address is read as this address, with two colons in
  place of zeros or without.

  Key definitions include:
    * `Url.IsIpv6`
    * `Url.ipv6Group`

  Main declarations:
    * `Url.isIpv6_of_parseIpv6`
    * `Url.append_zeros_append`
    * `Url.parseIpv6_ipv6Text`
-/

namespace WorkspaceClient
namespace Url

/- The pieces of an address of version 6. -/
structure IsIpv6
    (pieces : List Nat) : Prop where
  length : pieces.length = 8
  bytes : ∀ n ∈ pieces, n < 65536

------------------------------------------------------------
-- Addresses that are read
------------------------------------------------------------

section

variable {cs : List Char}
variable {n : Nat}
variable {ns : List Nat}

theorem lt_of_ipv6Piece?
    (h : ipv6Piece? cs = some n) :
    n < 65536 := by
  unfold ipv6Piece? at h
  split at h
  · cases h
  · next hLength =>
      simp only [Bool.or_eq_true, decide_eq_true_eq, not_or,
        Nat.not_lt] at hLength
      calc
        n < Nat.pow 16 cs.length := lt_of_valueInBase? h
        _ ≤ Nat.pow 16 4 :=
            Nat.pow_le_pow_right (by decide) hLength.2

theorem lt_of_ipv4Byte?
    (h : ipv4Byte? cs = some n) :
    n < 256 := by
  unfold ipv4Byte? at h
  dsimp only at h
  split at h
  · cases h
  · split at h
    · cases h
    · rcases Option.bind_eq_some_iff.mp h with ⟨m, _, hByte⟩
      split at hByte
      · next hSmall =>
          cases hByte
          exact hSmall
      · cases hByte

theorem lt_of_ipv6Pieces?
    {parts : List (List Char)}
    (h : ipv6Pieces? parts = some ns) :
    ∀ n ∈ ns, n < 65536 := by
  fun_induction ipv6Pieces? parts generalizing ns with
  | case1 =>
      cases h
      exact fun _ hMem => absurd hMem List.not_mem_nil
  | case2 last n hPiece =>
      cases h
      intro m hm
      rw [List.mem_singleton.mp hm]
      exact lt_of_ipv6Piece? hPiece
  | case3 last hPiece =>
      rcases Option.bind_eq_some_iff.mp h with
        ⟨bytes, hBytes, h⟩
      split at h
      · next a b c d =>
          have hSmall :=
            Result.exists_forall₂_iff.mp
              ⟨_, (Result.mapM_eq_some_iff.mp hBytes).flip⟩
          rw [List.forall_mem_cons, List.forall_mem_cons,
            List.forall_mem_cons, List.forall_mem_singleton]
            at hSmall
          rcases hSmall with
            ⟨⟨_, ha⟩, ⟨_, hb⟩, ⟨_, hc⟩, ⟨_, hd⟩⟩
          have ha := lt_of_ipv4Byte? ha
          have hb := lt_of_ipv4Byte? hb
          have hc := lt_of_ipv4Byte? hc
          have hd := lt_of_ipv4Byte? hd
          cases h
          rw [List.forall_mem_cons, List.forall_mem_singleton]
          omega
      · cases h
  | case4 p rest hRest ih =>
      rcases Option.bind_eq_some_iff.mp h with ⟨n, hPiece, h⟩
      rcases Option.bind_eq_some_iff.mp h with ⟨ms, hMore, h⟩
      cases h
      rw [List.forall_mem_cons]
      exact ⟨lt_of_ipv6Piece? hPiece, ih hMore⟩

theorem lt_of_ipv6Half?
    (h : ipv6Half? cs = some ns) :
    ∀ n ∈ ns, n < 65536 := by
  unfold ipv6Half? at h
  split at h
  · cases h
    exact fun _ hMem => absurd hMem List.not_mem_nil
  · exact lt_of_ipv6Pieces? h

/- Zeros fill up what is left between two parts. -/
theorem isIpv6_of_halves
    {ls rs : List Nat}
    (hFew : ls.length + rs.length ≤ 7)
    (hLeft : ∀ n ∈ ls, n < 65536)
    (hRight : ∀ n ∈ rs, n < 65536) :
    IsIpv6
      (ls ++ List.replicate (8 - ls.length - rs.length) 0
        ++ rs) where
  length := by
    rw [List.length_append, List.length_append,
      List.length_replicate]
    omega
  bytes := by
    simp only [List.forall_mem_append]
    refine ⟨⟨hLeft, ?_⟩, hRight⟩
    intro n hn
    rw [List.eq_of_mem_replicate hn]
    decide

/- An address that was read has eight pieces. -/
theorem isIpv6_of_parseIpv6
    (h : parseIpv6 cs = .ok ns) :
    IsIpv6 ns := by
  unfold parseIpv6 at h
  dsimp only at h
  split at h
  · next pieces hPieces =>
      cases h
      split at hPieces
      · rcases Option.bind_eq_some_iff.mp hPieces with
          ⟨ms, hWhole, h⟩
        split at h
        · next hLength =>
            cases h
            exact ⟨hLength, lt_of_ipv6Half? hWhole⟩
        · cases h
      · rcases Option.bind_eq_some_iff.mp hPieces with
          ⟨ls, hLeft, h⟩
        rcases Option.bind_eq_some_iff.mp h with
          ⟨rs, hRight, h⟩
        split at h
        · cases h
        · split at h
          · next hFew =>
              cases h
              exact
                isIpv6_of_halves hFew (lt_of_ipv6Half? hLeft)
                  (lt_of_ipv6Half? hRight)
          · cases h
      · cases hPieces
  · cases h

end

------------------------------------------------------------
-- Groups
------------------------------------------------------------

/- Pieces with colons between them. -/
def ipv6Group
    (ns : List Nat) : List Char :=
  [':'].intercalate (ns.map (Nat.toDigits 16))

section

variable {ns : List Nat}

theorem join_map_hexText
    (ns : List Nat) :
    (Text.join ":" (ns.map Text.hexText)).toList =
      ipv6Group ns :=
  Text.toList_join_map (fun _ => String.toList_ofList) ":" ns

/- A group has digits and colons only. -/
theorem mem_ipv6Group_cases
    {c : Char}
    (h : c ∈ ipv6Group ns) :
    c = ':' ∨ c ∈ lowerDigits := by
  rcases Text.mem_intercalate h with
    hColon | ⟨piece, hPiece, hMem⟩
  · exact .inl hColon
  · rcases List.mem_map.mp hPiece with ⟨n, _, rfl⟩
    exact .inr (mem_lowerDigits (by decide) (by decide) hMem)

/- A group is cut at its colons. -/
theorem splitOn_ipv6Group
    (hSome : ns ≠ []) :
    Text.splitOn [':'] (ipv6Group ns) =
      ns.map (Nat.toDigits 16) := by
  apply Text.splitOn_intercalate
  · rwa [ne_eq, List.map_eq_nil_iff]
  · intro piece hPiece hColon
    rcases List.mem_map.mp hPiece with ⟨n, _, rfl⟩
    have hDigit :=
      mem_lowerDigits (by decide) (by decide) hColon
    exact absurd hDigit (by decide)

/- No piece of a group is empty. -/
theorem nil_notMem_splitOn_ipv6Group
    (hSome : ns ≠ []) :
    [] ∉ Text.splitOn [':'] (ipv6Group ns) := by
  rw [splitOn_ipv6Group hSome]
  intro hMem
  rcases List.mem_map.mp hMem with ⟨n, _, hEmpty⟩
  exact Nat.toDigits_ne_nil hEmpty

theorem not_infix_ipv6Group
    (ns : List Nat) :
    ¬ [':', ':'] <:+: ipv6Group ns := by
  intro hInfix
  by_cases hSome : ns = []
  · rw [hSome] at hInfix
    exact absurd (List.infix_nil.mp hInfix) (List.cons_ne_nil _ _)
  · exact
      nil_notMem_splitOn_ipv6Group hSome
        (Text.nil_mem_splitOn_of_infix hInfix)

theorem getLast?_ipv6Group_ne
    (ns : List Nat) :
    (ipv6Group ns).getLast? ≠ some ':' := by
  intro hLast
  by_cases hSome : ns = []
  · rw [hSome] at hLast
    cases hLast
  · exact
      nil_notMem_splitOn_ipv6Group hSome
        (Text.nil_mem_splitOn_of_getLast? hLast)

theorem ipv6Piece?_toDigits
    {n : Nat}
    (h : n < 65536) :
    ipv6Piece? (Nat.toDigits 16 n) = some n := by
  have hLength : (Nat.toDigits 16 n).length ≤ 4 :=
    (Nat.length_toDigits_le_iff (by decide) (by decide)).mpr h
  unfold ipv6Piece?
  rw [if_neg, valueInBase?_toDigits (by decide) (by decide)]
  simpa using hLength

theorem ipv6Pieces?_map
    (h : ∀ n ∈ ns, n < 65536) :
    ipv6Pieces? (ns.map (Nat.toDigits 16)) = some ns := by
  induction ns with
  | nil => rfl
  | cons n ns ih =>
      rw [List.forall_mem_cons] at h
      have hPiece := ipv6Piece?_toDigits h.1
      have hRest := ih h.2
      cases ns with
      | nil => simp [ipv6Pieces?, hPiece]
      | cons m ns =>
          rw [List.map_cons] at hRest
          simp [ipv6Pieces?, hPiece, hRest]

/- A group is read as its pieces. -/
theorem ipv6Half?_ipv6Group
    (h : ∀ n ∈ ns, n < 65536) :
    ipv6Half? (ipv6Group ns) = some ns := by
  by_cases hSome : ns = []
  · rw [hSome]
    rfl
  · have hNotEmpty : ipv6Group ns ≠ [] := by
      intro hEmpty
      have hPieces := nil_notMem_splitOn_ipv6Group hSome
      rw [hEmpty] at hPieces
      exact hPieces List.mem_cons_self
    unfold ipv6Half?
    rw [if_neg (by simpa using hNotEmpty),
      splitOn_ipv6Group hSome, ipv6Pieces?_map h]

end

------------------------------------------------------------
-- Zeros
------------------------------------------------------------

section

variable {ns : List Nat}

/- A list starts with the zeros of its run. -/
theorem eq_replicate_append_drop
    {n : Nat}
    (h : n ≤ zeroRun ns) :
    ns = List.replicate n 0 ++ ns.drop n := by
  induction ns generalizing n with
  | nil =>
      rw [Nat.le_zero.mp h]
      rfl
  | cons m ns ih =>
      cases n with
      | zero => rfl
      | succ n =>
          unfold zeroRun at h ih
          rw [List.takeWhile_cons] at h
          split at h
          · next hZero =>
              rw [List.length_cons, Nat.succ_le_succ_iff] at h
              rw [beq_iff_eq.mp hZero, List.drop_succ_cons,
                List.replicate_succ, List.cons_append, ← ih h]
          · cases h

/- What is found is not longer than the zeros that are there. -/
theorem longestZeros_le
    (ns : List Nat) :
    (longestZeros ns).2 ≤
      zeroRun (ns.drop (longestZeros ns).1) := by
  unfold longestZeros
  refine
    List.foldlRecOn
      (motive := fun run : Nat × Nat =>
        run.2 ≤ zeroRun (ns.drop run.1))
      _ _ (Nat.zero_le _) ?_
  intro best hBest run hRun
  split
  · rcases List.mem_map.mp hRun with ⟨i, _, rfl⟩
    exact Nat.le_refl _
  · exact hBest

/- The zeros that are found stand between the other pieces. -/
theorem append_zeros_append
    (ns : List Nat) :
    ns.take (longestZeros ns).1
        ++ List.replicate (longestZeros ns).2 0
        ++ ns.drop ((longestZeros ns).1 + (longestZeros ns).2) =
      ns := by
  rw [← List.drop_drop, List.append_assoc,
    ← eq_replicate_append_drop (longestZeros_le ns),
    List.take_append_drop]

end

------------------------------------------------------------
-- Addresses that are written
------------------------------------------------------------

section

variable {ns : List Nat}

/- The text of an address without two colons. -/
theorem parseIpv6_ipv6Group
    (h : IsIpv6 ns) :
    parseIpv6 (ipv6Group ns) = .ok ns := by
  unfold parseIpv6
  rw [Text.splitOn_of_not_infix (not_infix_ipv6Group ns)]
  simp [ipv6Half?_ipv6Group h.bytes, h.length]

/- Two colons stand for the zeros between two groups. -/
theorem parseIpv6_two
    {ls rs : List Nat}
    {length : Nat}
    (hSome : 1 ≤ length)
    (h : IsIpv6 (ls ++ List.replicate length 0 ++ rs)) :
    parseIpv6 (ipv6Group ls ++ [':', ':'] ++ ipv6Group rs) =
      .ok (ls ++ List.replicate length 0 ++ rs) := by
  have hLength := h.length
  have hBytes := h.bytes
  simp only [List.length_append, List.length_replicate]
    at hLength
  simp only [List.forall_mem_append] at hBytes
  have hSplit :
      Text.splitOn [':', ':']
          (ipv6Group ls ++ [':', ':'] ++ ipv6Group rs) =
        [ipv6Group ls, ipv6Group rs] := by
    -- no colon ends the left group, so the cut is not earlier
    rw [Text.splitOn_eq_pair_iff (List.cons_ne_nil _ _)]
    refine ⟨⟨rfl, ?_⟩, not_infix_ipv6Group rs⟩
    rw [Text.pair_infix_append_iff, not_or, not_or]
    refine ⟨not_infix_ipv6Group ls, by decide, ?_⟩
    exact fun hAcross => getLast?_ipv6Group_ne ls hAcross.1
  have hPoint : '.' ∉ ipv6Group ls := by
    intro hMem
    rcases mem_ipv6Group_cases hMem with hColon | hDigit
    · exact absurd hColon (by decide)
    · exact absurd hDigit (by decide)
  have hFew : ls.length + rs.length ≤ 7 := by omega
  have hZeros : 8 - (ls.length + rs.length) = length := by
    omega
  unfold parseIpv6
  rw [hSplit]
  simp [ipv6Half?_ipv6Group hBytes.1.1,
    ipv6Half?_ipv6Group hBytes.2, hPoint, hFew, Nat.sub_sub,
    hZeros]

/- The text of an address has digits and colons only. -/
theorem mem_ipv6Text_cases
    {c : Char}
    (h : c ∈ ipv6Text ns) :
    c = ':' ∨ c ∈ lowerDigits := by
  unfold ipv6Text at h
  dsimp only at h
  split at h
  · rw [join_map_hexText] at h
    exact mem_ipv6Group_cases h
  · rw [join_map_hexText, join_map_hexText, List.mem_append,
      List.mem_append] at h
    rcases h with (hLeft | hColons) | hRight
    · exact mem_ipv6Group_cases hLeft
    · exact .inl (by simpa using hColons)
    · exact mem_ipv6Group_cases hRight

/- The text of an address is read as the address. -/
theorem parseIpv6_ipv6Text
    (h : IsIpv6 ns) :
    parseIpv6 (ipv6Text ns) = .ok ns := by
  have hParts := append_zeros_append ns
  unfold ipv6Text
  dsimp only
  split
  · rw [join_map_hexText, parseIpv6_ipv6Group h]
  · next hLong =>
      rw [← hParts] at h
      rw [join_map_hexText, join_map_hexText,
        parseIpv6_two (by omega) h, hParts]

end

end Url
end WorkspaceClient
