import WorkspaceClient.Proofs.Url.Domain
import WorkspaceClient.Proofs.Url.Ipv4
import WorkspaceClient.Proofs.Url.Ipv6

/-
  This file shows that the text of a host that was read is
  read as this host, and that none of its characters ends
  it or moves to its text from outside.

  Key definitions include:
    * `Url.Host.IsNormal`

  Main declarations:
    * `Url.isNormal_of_parseHost`
    * `Url.Host.parseHost_text`
    * `Url.Host.mem_text_cases`
-/

namespace WorkspaceClient
namespace Url

------------------------------------------------------------
-- Names of addresses
------------------------------------------------------------

theorem isNameChar_of_mem_lowerDigits
    {c : Char}
    (h : c ∈ lowerDigits) :
    isNameChar c = true := by
  have hAll : lowerDigits.all isNameChar = true := by decide
  exact List.all_eq_true.mp hAll c h

/- A number claims to be nothing else. -/
theorem isHollow_toDigits
    (n : Nat) :
    isHollow (Nat.toDigits 10 n) = false := by
  unfold isHollow
  rw [Bool.and_eq_false_iff, Bool.eq_false_iff, ne_eq,
    List.isPrefixOf_iff_prefix]
  left
  intro hPrefix
  have hLetter : 'x' ∈ Nat.toDigits 10 n :=
    hPrefix.subset (by decide)
  have hDigit :=
    mem_lowerDigits (by decide) (by decide) hLetter
  exact absurd hDigit (by decide)

/- The text of an address of version 4 is a name. -/
theorem isName_ipv4Text
    (address : Nat) :
    IsName (ipv4Text address) where
  nonempty := by
    intro hEmpty
    have hNumber := endsInNumber_ipv4Text address
    rw [hEmpty] at hNumber
    exact absurd hNumber (by decide)
  chars := by
    intro c hc
    rw [ipv4Text_eq] at hc
    rcases Text.mem_intercalate hc with
      hPoint | ⟨piece, hPiece, hMem⟩
    · rw [hPoint]
      decide
    · rcases List.mem_map.mp hPiece with ⟨n, _, rfl⟩
      exact
        isNameChar_of_mem_lowerDigits
          (mem_lowerDigits (by decide) (by decide) hMem)
  full := by
    intro label hLabel
    rw [splitOn_ipv4Text] at hLabel
    rcases List.mem_map.mp hLabel with ⟨n, _, rfl⟩
    exact isHollow_toDigits n

------------------------------------------------------------
-- Hosts
------------------------------------------------------------

/- What stands in brackets is an address of version 6. -/
theorem parseHost_brackets
    (inside : List Char) :
    parseHost ('[' :: (inside ++ [']'])) =
      Host.ipv6 <$> parseIpv6 inside := by
  have hBrackets :
      bracketed? ('[' :: (inside ++ [']'])) = some inside := by
    have hLast :
        ('[' :: (inside ++ [']'])).getLast? = some ']' := by
      rw [← List.cons_append, List.getLast?_concat]
    unfold bracketed?
    rw [if_pos hLast, List.tail_cons, List.dropLast_concat]
  unfold parseHost
  rw [List.head?_cons, if_pos rfl, hBrackets]

namespace Host

/- A host as it stands in a URL that was read. -/
def IsNormal : Host → Prop
  | domain name => IsName name ∧ endsInNumber name = false
  | ipv4 address => address < Nat.pow 256 4
  | ipv6 pieces => IsIpv6 pieces

variable {host : Host}

/- What the text of a host consists of. -/
theorem mem_text_cases
    (h : host.IsNormal)
    {c : Char}
    (hMem : c ∈ host.text) :
    isNameChar c = true ∨ c ∈ ['[', ':', ']'] := by
  cases host with
  | domain name => exact .inl (h.1.chars c hMem)
  | ipv4 address =>
      exact .inl ((isName_ipv4Text address).chars c hMem)
  | ipv6 pieces =>
      change c ∈ '[' :: (ipv6Text pieces ++ [']']) at hMem
      rw [List.mem_cons, List.mem_append, List.mem_singleton]
        at hMem
      rcases hMem with hOpen | hInside | hClose
      · rw [hOpen]
        decide
      · rcases mem_ipv6Text_cases hInside with hColon | hDigit
        · rw [hColon]
          decide
        · exact .inl (isNameChar_of_mem_lowerDigits hDigit)
      · rw [hClose]
        decide

/- The text of a host is read as the host. -/
theorem parseHost_text
    (h : host.IsNormal) :
    parseHost host.text = .ok host := by
  have hName :
      ∀ {name : List Char},
        IsName name → parseHost name = parseDomain name := by
    intro name hName
    unfold parseHost
    rw [if_neg]
    intro hHead
    have hChar := hName.chars '[' (List.mem_of_head? hHead)
    exact absurd hChar (by decide)
  cases host with
  | domain name =>
      unfold text
      rw [hName h.1, parseDomain_of_isName h.1, h.2]
      rfl
  | ipv4 address =>
      unfold text
      rw [hName (isName_ipv4Text address),
        parseDomain_of_isName (isName_ipv4Text address),
        endsInNumber_ipv4Text, parseIpv4_ipv4Text h]
      rfl
  | ipv6 pieces =>
      refine (parseHost_brackets (ipv6Text pieces)).trans ?_
      rw [parseIpv6_ipv6Text h]
      rfl

end Host

/- A host that was read is normal. -/
theorem isNormal_of_parseHost
    {cs : List Char}
    {host : Host}
    (h : parseHost cs = .ok host) :
    host.IsNormal := by
  unfold parseHost at h
  split at h
  · split at h
    · next inside _ =>
        rcases Result.ok_of_bind h with ⟨pieces, hPieces, h⟩
        cases h
        exact isIpv6_of_parseIpv6 hPieces
    · cases h
  · rcases exists_isName_of_parseDomain h with
      ⟨name, hName, ⟨hNumber, rfl⟩ | ⟨address, hAddress, rfl⟩⟩
    · exact ⟨hName, hNumber⟩
    · exact lt_of_parseIpv4 hAddress

end Url
end WorkspaceClient
