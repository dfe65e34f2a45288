import WorkspaceClient.Proofs.Result
import WorkspaceClient.Proofs.Text.Pieces
import WorkspaceClient.Proofs.Url.Label
import WorkspaceClient.Proofs.Url.Percent

/-
  This file shows that the name in an address or of a domain
  is in ASCII and in lower case once it was read, and that
  such a name is not changed when it is read again.

  Key definitions include:
    * `Url.isNameChar`
    * `Url.isLabelChar`
    * `Url.IsName`

  Main declarations:
    * `Url.isName_asciiDomain`
    * `Url.parseDomain_of_isName`
    * `Url.exists_isName_of_parseDomain`
-/

namespace WorkspaceClient
namespace Url

------------------------------------------------------------
-- Characters
------------------------------------------------------------

/- The characters of a name that was read. -/
def isNameChar
    (c : Char) : Bool :=
  c.toNat < 0x80 && !isForbidden c && c.toLower == c

section

variable {c d : Char}

theorem isNameChar_iff :
    isNameChar c = true ↔
      c.toNat < 0x80 ∧ isForbidden c = false ∧ c.toLower = c := by
  simp only [isNameChar, Bool.and_eq_true, decide_eq_true_eq,
    Bool.not_eq_true', beq_iff_eq, and_assoc]

/- The characters of a label of a name. -/
def isLabelChar
    (c : Char) : Bool :=
  isNameChar c && c != '.'

theorem isLabelChar_iff :
    isLabelChar c = true ↔ isNameChar c = true ∧ c ≠ '.' := by
  simp only [isLabelChar, Bool.and_eq_true, bne_iff_ne]

theorem foldCase_of_ascii
    (h : c.toNat < 0x80) :
    foldCase c = c.toLower := by
  unfold foldCase
  dsimp only
  rw [if_neg, if_neg]
  · rw [Bool.and_eq_true, decide_eq_true_eq]
    omega
  · simp only [Bool.or_eq_true, Bool.and_eq_true,
      decide_eq_true_eq]
    omega

/- A letter above ASCII stays there. -/
theorem lower_foldCase
    (h : (foldCase c).toNat < 0x80) :
    (foldCase c).toLower = foldCase c := by
  unfold foldCase at h ⊢
  dsimp only at h ⊢
  split at h
  · next hRange =>
      simp only [Bool.or_eq_true, Bool.and_eq_true,
        decide_eq_true_eq] at hRange
      rw [Bytes.toNat_charOfNat (by omega)] at h
      omega
  · next hRange =>
      rw [if_neg hRange]
      split at h
      · next hRange' =>
          simp only [Bool.and_eq_true, decide_eq_true_eq]
            at hRange'
          rw [Bytes.toNat_charOfNat (by omega)] at h
          omega
      · next hRange' =>
          rw [if_neg hRange']
          exact Text.toLower_toLower c

/- What a character stands for is in lower case. -/
theorem lower_of_mem_foldWide
    (hMem : d ∈ foldWide c)
    (hAscii : d.toNat < 0x80) :
    d.toLower = d := by
  unfold foldWide at hMem
  dsimp only at hMem
  split at hMem
  · exact absurd hMem List.not_mem_nil
  · split at hMem
    · rw [List.mem_singleton.mp hMem]
      decide
    · split at hMem <;>
      · rw [List.mem_singleton.mp hMem] at hAscii ⊢
        exact lower_foldCase hAscii

/- A character of a name stands for itself. -/
theorem foldWide_of_isNameChar
    (h : isNameChar c = true) :
    foldWide c = [c] := by
  rcases isNameChar_iff.mp h with ⟨hAscii, _, hLower⟩
  have hNotIn :
      ∀ points : List Nat,
        (∀ n ∈ points, 0x80 ≤ n) →
          ¬ points.contains c.toNat = true := by
    intro points hPoints hMem
    have hHigh := hPoints _ (List.contains_iff_mem.mp hMem)
    omega
  unfold foldWide isIgnored
  dsimp only
  rw [if_neg (hNotIn _ (by decide)),
    if_neg (hNotIn _ (by decide)), if_neg,
    foldCase_of_ascii hAscii, hLower]
  rw [Bool.and_eq_true, decide_eq_true_eq]
  omega

end

------------------------------------------------------------
-- Names
------------------------------------------------------------

/- A name as it stands in a URL that was read. -/
structure IsName
    (name : List Char) : Prop where
  nonempty : name ≠ []
  chars : ∀ c ∈ name, isNameChar c = true
  full :
    ∀ label ∈ Text.splitOn ['.'] name, isHollow label = false

section

variable {cs name : List Char}

theorem asciiDomain_eq
    (cs : List Char) :
    asciiDomain cs =
      ['.'].intercalate
        ((Text.splitOn ['.'] cs).map asciiLabel) :=
  Text.toList_join_map (fun _ => String.toList_ofList) "." _

/- The characters of the ASCII form of a label. -/
theorem isLabelChar_of_mem_asciiLabel
    {label : List Char}
    {c : Char}
    (hLabel :
      ∀ d ∈ label, d.toNat < 0x80 → isLabelChar d = true)
    (h : c ∈ asciiLabel label) :
    isLabelChar c = true := by
  have hMarks : "xn--".toList.all isLabelChar = true := by
    decide
  have hSigns : labelDigits.all isLabelChar = true := by
    decide
  rcases asciiLabel_cases label with
    ⟨hSame, hAscii⟩ | ⟨basic, digits, hText, hBasic, hDigits, _⟩
  · rw [hSame] at h
    exact hLabel c h (hAscii c h)
  · rw [hText, List.mem_append, List.mem_append] at h
    rcases h with (hMark | hOld) | hNew
    · exact List.all_eq_true.mp hMarks c hMark
    · rcases hBasic c hOld with hSign | ⟨hMem, hAscii⟩
      · rw [hSign]
        decide
      · exact hLabel c hMem hAscii
    · exact List.all_eq_true.mp hSigns c (hDigits c hNew)

/- The ASCII form of a name that may be read is a name. -/
theorem isName_asciiDomain
    (hLower : ∀ c ∈ cs, c.toNat < 0x80 → c.toLower = c)
    (hAllowed : ∀ c ∈ cs, isForbidden c = false)
    (hFull :
      ∀ label ∈ Text.splitOn ['.'] cs, isHollow label = false)
    (hSome : asciiDomain cs ≠ []) :
    IsName (asciiDomain cs) := by
  have hChars :
      ∀ label ∈ Text.splitOn ['.'] cs,
        ∀ c ∈ asciiLabel label,
          isNameChar c = true ∧ c ≠ '.' := by
    intro label hLabel c hc
    rw [← isLabelChar_iff]
    refine isLabelChar_of_mem_asciiLabel ?_ hc
    intro d hd hAscii
    have hMem := Text.mem_of_mem_splitOn hLabel hd
    rw [isLabelChar_iff, isNameChar_iff]
    refine
      ⟨⟨hAscii, hAllowed d hMem, hLower d hMem hAscii⟩, ?_⟩
    intro hPoint
    rw [hPoint] at hd
    exact Text.notMem_of_mem_splitOn hLabel hd
  refine ⟨hSome, ?_, ?_⟩
  · intro c hc
    rw [asciiDomain_eq] at hc
    rcases Text.mem_intercalate hc with
      hPoint | ⟨piece, hPiece, hMem⟩
    · rw [hPoint]
      decide
    · rcases List.mem_map.mp hPiece with ⟨label, hLabel, rfl⟩
      exact (hChars label hLabel c hMem).1
  · rw [asciiDomain_eq, Text.splitOn_intercalate]
    · intro piece hPiece
      rcases List.mem_map.mp hPiece with ⟨label, hLabel, rfl⟩
      exact isHollow_asciiLabel (hFull label hLabel)
    · rw [ne_eq, List.map_eq_nil_iff]
      exact Text.splitOn_char_ne_nil _ _
    · intro piece hPiece hPoint
      rcases List.mem_map.mp hPiece with ⟨label, hLabel, rfl⟩
      exact (hChars label hLabel '.' hPoint).2 rfl

/- The ASCII form of a name is the name. -/
theorem asciiDomain_of_isName
    (h : IsName name) :
    asciiDomain name = name := by
  have hSame :
      (Text.splitOn ['.'] name).map asciiLabel =
        Text.splitOn ['.'] name := by
    refine (List.map_congr_left ?_).trans (List.map_id _)
    intro label hLabel
    apply asciiLabel_of_ascii
    intro c hc
    have hChar := h.chars c (Text.mem_of_mem_splitOn hLabel hc)
    exact (isNameChar_iff.mp hChar).1
  rw [asciiDomain_eq, hSame, Text.intercalate_splitOn]

theorem flatMap_foldWide
    (h : ∀ c ∈ cs, isNameChar c = true) :
    cs.flatMap foldWide = cs := by
  rw [List.flatMap_congr fun c hc =>
    foldWide_of_isNameChar (h c hc)]
  exact List.flatMap_singleton' cs

/- A name is an address if it ends in a number. -/
theorem parseDomain_of_isName
    (h : IsName name) :
    parseDomain name =
      if endsInNumber name then
        Host.ipv4 <$> parseIpv4 name
      else
        .ok (.domain name) := by
  have hAllowed : name.any isForbidden = false := by
    rw [List.any_eq_false]
    intro c hc
    rw [(isNameChar_iff.mp (h.chars c hc)).2.1]
    exact Bool.false_ne_true
  have hFull :
      (Text.splitOn ['.'] name).any isHollow = false := by
    rw [List.any_eq_false]
    intro label hLabel
    rw [h.full label hLabel]
    exact Bool.false_ne_true
  have hDecode : decode name = some name := by
    apply decode_of_notMem
    intro hPercent
    exact absurd (h.chars '%' hPercent) (by decide)
  have hSome : name.isEmpty = false :=
    List.isEmpty_eq_false_iff.mpr h.nonempty
  unfold parseDomain
  rw [hDecode]
  simp only [flatMap_foldWide h.chars, hAllowed, hFull,
    asciiDomain_of_isName h, hSome]
  cases endsInNumber name <;> rfl

/-
  A host that was read is a name that does not end in a
  number, or the address that a name stands for.
-/
theorem exists_isName_of_parseDomain
    {host : Host}
    (h : parseDomain cs = .ok host) :
    ∃ name,
      IsName name ∧
        ((endsInNumber name = false ∧ host = .domain name) ∨
          ∃ address,
            parseIpv4 name = .ok address ∧
              host = .ipv4 address) := by
  unfold parseDomain at h
  split at h
  · next decoded _ =>
      dsimp only at h
      split at h
      · cases h
      · next hClean =>
          simp only [Bool.or_eq_true, not_or,
            Bool.not_eq_true, List.any_eq_false] at hClean
          split at h
          · cases h
          · next hSome =>
              -- the name is read before it is known what it is
              refine
                ⟨asciiDomain (decoded.flatMap foldWide),
                  isName_asciiDomain ?_ hClean.1 hClean.2
                    (by simpa using hSome), ?_⟩
              · intro c hc hAscii
                rcases List.mem_flatMap.mp hc with ⟨d, _, hFold⟩
                exact lower_of_mem_foldWide hFold hAscii
              · split at h
                · rcases Result.ok_of_bind h with
                    ⟨address, hAddress, h⟩
                  cases h
                  exact .inr ⟨address, hAddress, rfl⟩
                · next hNumber =>
                    cases h
                    exact
                      .inl ⟨by simpa using hNumber, rfl⟩
  · cases h

end

end Url
end WorkspaceClient
