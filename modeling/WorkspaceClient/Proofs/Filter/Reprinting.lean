import Mathlib.Tactic.ByContra
import WorkspaceClient.Filter
import WorkspaceClient.Proofs.Text.Cutting
import WorkspaceClient.Proofs.Text.Lower
import WorkspaceClient.Proofs.Text.Trimming

/-
  This file shows when a filter that was read is read again
  from its own text: unless a character next to the operator
  makes another operator together with it. Such a character
  can only come to stand there because a blank was trimmed.

  Key definitions include:
    * `Filter.Cuts`
    * `Filter.Agrees`
    * `Filter.IsBlurred`
    * `Filter.Reprints`

  Main declarations:
    * `Filter.parse_eq_ok_iff`
    * `Filter.Cuts.again`
    * `Filter.Cuts.not_agrees`
    * `Filter.Cuts.trimmed`
    * `Filter.parse_reprints`
-/

namespace WorkspaceClient

open Text (FirstCut IsTrimmed isBlank pair_infix_append_iff
  trimChars trimChars_isInfix)

------------------------------------------------------------
-- Globs
------------------------------------------------------------

/- A glob keeps the text that it was read from. -/
theorem Glob.source_of_compile
    {source : String}
    {glob : Glob}
    (h : Glob.compile source = .ok glob) :
    glob.source = source := by
  unfold Glob.compile at h
  cases hText : Glob.translate source.toList with
  | error fault =>
      rw [hText] at h
      cases h
  | ok text =>
      rw [hText] at h
      simp only [bind, Except.bind] at h
      cases hRegex : Regex.read? text with
      | none =>
          rw [hRegex] at h
          cases h
      | some regex =>
          rw [hRegex] at h
          rw [← Except.ok.inj h]

namespace Filter

------------------------------------------------------------
-- Reading
------------------------------------------------------------

/- The operator that a filter does not have. -/
def Operator.other : Operator → Operator
  | equal => notEqual
  | notEqual => equal

/- The characters of an operator. -/
def Operator.symbols
    (operator : Operator) : List Char :=
  operator.text.toList

theorem Operator.symbols_ne_nil
    (operator : Operator) :
    operator.symbols ≠ [] := by
  cases operator <;> decide

/-
  A text is cut at the only place where the operator of a
  filter stands. The key and the pattern are what stands
  before and after it, trimmed, and the key is in lower case.
-/
structure Cuts
    (cs before after : List Char)
    (f : Filter) : Prop where
  cut : FirstCut f.operator.symbols cs before after
  only : ¬ f.operator.symbols <:+: after
  other : ¬ f.operator.other.symbols <:+: cs
  key : f.key.toList = (trimChars before).map Char.toLower
  named : trimChars before ≠ []
  pattern :
    Glob.compile (String.ofList (trimChars after)) =
      .ok f.pattern

theorem findOperator_eq_ok_iff
    {expression : String}
    {operator : Operator} :
    findOperator expression = .ok operator ↔
      operator.symbols <:+: expression.toList ∧
        ¬ operator.other.symbols <:+: expression.toList := by
  have hFound :
      ∀ o : Operator,
        Text.contains expression o.text = true ↔
          o.symbols <:+: expression.toList :=
    fun _ => Text.contains_iff
  unfold findOperator
  cases hEqual : Text.contains expression Operator.equal.text <;>
    cases hOther :
      Text.contains expression Operator.notEqual.text <;>
    cases operator <;>
    simp [Operator.other, ← hFound, hEqual, hOther]

theorem sides_eq_ok_iff
    {operator : Operator}
    {expression : String}
    {before after : String} :
    sides operator expression = .ok (before, after) ↔
      FirstCut operator.symbols expression.toList
          before.toList after.toList ∧
        ¬ operator.symbols <:+: after.toList := by
  rw [← Text.splitOn_eq_pair_iff operator.symbols_ne_nil]
  unfold sides
  constructor
  · intro h
    split at h
    · next key value hPieces =>
        cases h
        rw [String.toList_ofList, String.toList_ofList]
        exact hPieces
    · cases h
  · intro hPieces
    have hThis :
        Text.splitOn operator.text.toList expression.toList =
          [before.toList, after.toList] := hPieces
    rw [hThis]
    simp only [String.ofList_toList]

/- What is made of the two sides of the operator. -/
theorem read_of_sides
    {expression before after : String}
    {operator : Operator}
    (hOperator : findOperator expression = .ok operator)
    (hSides : sides operator expression = .ok (before, after)) :
    read expression =
      if trimChars before.toList = [] then
        .error .emptyKey
      else
        match Glob.compile (Text.trim after) with
        | .ok pattern =>
            .ok {
              key := lowerText (Text.trim before)
              operator
              pattern }
        | .error fault => .error (.badPattern fault) := by
  have hEmpty :
      (Text.trim before).isEmpty = true ↔
        trimChars before.toList = [] := by
    rw [String.isEmpty_iff, Text.trim,
      ← String.toList_eq_nil_iff, String.toList_ofList]
  unfold read
  rw [hOperator]
  simp only [bind, Except.bind]
  rw [hSides]
  simp only [hEmpty]
  by_cases hNone : trimChars before.toList = []
  · rw [if_pos hNone, if_pos hNone]
    rfl
  · rw [if_neg hNone, if_neg hNone]
    cases Glob.compile (Text.trim after) <;> rfl

/- What is read has an operator with two sides. -/
theorem exists_sides_of_read
    {expression : String}
    {f : Filter}
    (h : read expression = .ok f) :
    ∃ operator before after,
      findOperator expression = .ok operator ∧
        sides operator expression = .ok (before, after) := by
  unfold read at h
  cases hOperator : findOperator expression with
  | error fault =>
      rw [hOperator] at h
      cases h
  | ok operator =>
      rw [hOperator] at h
      simp only [bind, Except.bind] at h
      cases hSides : sides operator expression with
      | error fault =>
          rw [hSides] at h
          cases h
      | ok parts => exact ⟨operator, _, _, rfl, hSides⟩

/- What it means that an expression is read as a filter. -/
theorem read_eq_ok_iff
    {expression : String}
    {f : Filter} :
    read expression = .ok f ↔
      ∃ before after, Cuts expression.toList before after f := by
  constructor
  · intro h
    rcases exists_sides_of_read h with
      ⟨operator, before, after, hOperator, hSides⟩
    rw [read_of_sides hOperator hSides] at h
    by_cases hNone : trimChars before.toList = []
    · rw [if_pos hNone] at h
      cases h
    · rw [if_neg hNone] at h
      cases hPattern : Glob.compile (Text.trim after) with
      | error fault =>
          rw [hPattern] at h
          cases h
      | ok pattern =>
          rw [hPattern] at h
          simp only [Except.ok.injEq] at h
          subst h
          rcases sides_eq_ok_iff.mp hSides with ⟨hCut, hOnly⟩
          exact
            ⟨before.toList, after.toList,
              { cut := hCut
                only := hOnly
                other :=
                  (findOperator_eq_ok_iff.mp hOperator).2
                key := by simp [lowerText, Text.trim]
                named := hNone
                pattern := hPattern }⟩
  · rintro ⟨before, after, h⟩
    have hOperator :
        findOperator expression = .ok f.operator :=
      findOperator_eq_ok_iff.mpr ⟨h.cut.isInfix, h.other⟩
    have hSides :
        sides f.operator expression =
          .ok (String.ofList before, String.ofList after) :=
      sides_eq_ok_iff.mpr (by
        rw [String.toList_ofList, String.toList_ofList]
        exact ⟨h.cut, h.only⟩)
    have hKey :
        lowerText (Text.trim (String.ofList before)) =
          f.key := by
      rw [lowerText, Text.trim, String.toList_ofList,
        String.toList_ofList, ← h.key, String.ofList_toList]
    rw [read_of_sides hOperator hSides, Text.trim,
      String.toList_ofList, String.toList_ofList,
      if_neg h.named, h.pattern, hKey]

theorem parse_eq_ok_iff
    {expression : String}
    {f : Filter} :
    parse expression = .ok f ↔
      ∃ before after, Cuts expression.toList before after f := by
  rw [← read_eq_ok_iff]
  unfold parse
  cases read expression <;> simp

------------------------------------------------------------
-- The text of a filter
------------------------------------------------------------

theorem toList_text
    (f : Filter) :
    f.text.toList =
      f.key.toList ++ f.operator.symbols
        ++ f.pattern.source.toList := by
  rw [text, String.toList_append, String.toList_append]
  rfl

/- Two filters have the same key, operator and pattern. -/
structure Agrees
    (g f : Filter) : Prop where
  key : g.key = f.key
  operator : g.operator = f.operator
  pattern : g.pattern.source = f.pattern.source

/-
  A character next to the operator makes an operator
  together with one of its characters.
-/
def IsBlurred
    (f : Filter) : Prop :=
  match f.operator with
  | .equal =>
      f.key.toList.getLast? = some '!' ∨
        f.key.toList.getLast? = some '='
  | .notEqual => f.pattern.source.toList.head? = some '='

instance
    (f : Filter) :
    Decidable f.IsBlurred := by
  unfold IsBlurred
  split <;> infer_instance

section

variable {cs before after : List Char}
variable {f : Filter}

theorem Cuts.source
    (h : Cuts cs before after f) :
    f.pattern.source.toList = trimChars after := by
  rw [Glob.source_of_compile h.pattern, String.toList_ofList]

/- Every operator is the one of a filter or the other one. -/
theorem Operator.eq_or_other
    (o operator : Operator) :
    o = operator ∨ o = operator.other := by
  cases o <;> cases operator <;> simp [other]

/- No operator stands on one of the two sides. -/
theorem Cuts.not_infix_before
    (h : Cuts cs before after f)
    (o : Operator) :
    ¬ o.symbols <:+: before := by
  intro hInfix
  rcases o.eq_or_other f.operator with rfl | rfl
  · exact
      h.cut.first
        (hInfix.trans (List.prefix_append _ _).isInfix)
  · apply h.other
    rw [h.cut.parts, List.append_assoc]
    exact hInfix.trans (List.prefix_append _ _).isInfix

theorem Cuts.not_infix_after
    (h : Cuts cs before after f)
    (o : Operator) :
    ¬ o.symbols <:+: after := by
  intro hInfix
  rcases o.eq_or_other f.operator with rfl | rfl
  · exact h.only hInfix
  · apply h.other
    rw [h.cut.parts]
    exact hInfix.trans (List.suffix_append _ _).isInfix

/- The signs of an operator are no letters. -/
theorem Operator.mem_symbols
    {o : Operator}
    {c : Char}
    (hMem : c ∈ o.symbols) :
    c.toNat < 65 := by
  have hSign : c = '=' ∨ c = '!' := by
    cases o with
    | equal =>
        change c ∈ ['=', '='] at hMem
        exact .inl (by simpa using hMem)
    | notEqual =>
        change c ∈ ['!', '='] at hMem
        simpa [or_comm] using hMem
  rcases hSign with rfl | rfl
  · decide
  · decide

/- In lower case there is no operator that was not there. -/
theorem infix_lower_iff
    {o : Operator}
    {cs : List Char} :
    o.symbols <:+: cs.map Char.toLower ↔ o.symbols <:+: cs := by
  rw [List.infix_map_iff]
  simp only [Text.eq_map_toLower_iff fun _ => o.mem_symbols]
  constructor
  · rintro ⟨_, hInfix, rfl⟩
    exact hInfix
  · intro hInfix
    exact ⟨_, hInfix, rfl⟩

theorem Cuts.not_infix_key
    (h : Cuts cs before after f)
    (o : Operator) :
    ¬ o.symbols <:+: f.key.toList := by
  rw [h.key, infix_lower_iff]
  intro hInfix
  exact
    h.not_infix_before o (hInfix.trans (trimChars_isInfix before))

theorem Cuts.not_infix_source
    (h : Cuts cs before after f)
    (o : Operator) :
    ¬ o.symbols <:+: f.pattern.source.toList := by
  rw [h.source]
  intro hInfix
  exact
    h.not_infix_after o (hInfix.trans (trimChars_isInfix after))

/- The key and the pattern of a filter are trimmed. -/
theorem Cuts.isTrimmed_key
    (h : Cuts cs before after f) :
    IsTrimmed f.key.toList := by
  have hTrimmed := Text.isTrimmed_trimChars before
  rw [h.key]
  constructor
  · intro c hc
    rw [List.head?_map] at hc
    rcases Option.map_eq_some_iff.mp hc with ⟨d, hd, rfl⟩
    rw [Text.isBlank_toLower]
    exact hTrimmed.first d hd
  · intro c hc
    rw [List.getLast?_map] at hc
    rcases Option.map_eq_some_iff.mp hc with ⟨d, hd, rfl⟩
    rw [Text.isBlank_toLower]
    exact hTrimmed.last d hd

theorem Cuts.isTrimmed_source
    (h : Cuts cs before after f) :
    IsTrimmed f.pattern.source.toList := by
  rw [h.source]
  exact Text.isTrimmed_trimChars after

/- The key of a filter is in lower case already. -/
theorem Cuts.lower_key
    (h : Cuts cs before after f) :
    f.key.toList.map Char.toLower = f.key.toList := by
  rw [h.key, List.map_map]
  apply List.map_congr_left
  intro c _
  exact Text.toLower_toLower c

/-
  Where the key meets the operator, an operator stands only
  if the text is blurred.
-/
theorem Cuts.first_again
    (h : Cuts cs before after f)
    (hClear : ¬ f.IsBlurred) :
    ¬ f.operator.symbols <:+:
      f.key.toList ++ f.operator.symbols.dropLast := by
  have hKey := h.not_infix_key f.operator
  revert hKey hClear
  unfold IsBlurred
  cases f.operator with
  | equal =>
      intro hClear hKey hInfix
      rcases pair_infix_append_iff.mp hInfix with
        hInside | hSign | ⟨hEnd, _⟩
      · exact hKey hInside
      · exact absurd hSign (by decide)
      · exact hClear (.inr hEnd)
  | notEqual =>
      intro _ hKey hInfix
      rcases pair_infix_append_iff.mp hInfix with
        hInside | hSign | ⟨_, hStart⟩
      · exact hKey hInside
      · exact absurd hSign (by decide)
      · exact absurd hStart (by decide)

theorem Cuts.other_again
    (h : Cuts cs before after f)
    (hClear : ¬ f.IsBlurred) :
    ¬ f.operator.other.symbols <:+: f.text.toList := by
  have hKey := h.not_infix_key f.operator.other
  have hSource := h.not_infix_source f.operator.other
  rw [toList_text, List.append_assoc]
  revert hKey hSource hClear
  unfold IsBlurred
  cases f.operator with
  | equal =>
      intro hClear hKey hSource hInfix
      rcases pair_infix_append_iff.mp hInfix with
        hInside | hLater | ⟨hEnd, _⟩
      · exact hKey hInside
      · rcases pair_infix_append_iff.mp hLater with
          hSign | hInside | ⟨hEnd, _⟩
        · exact absurd hSign (by decide)
        · exact hSource hInside
        · exact absurd hEnd (by decide)
      · exact hClear (.inl hEnd)
  | notEqual =>
      intro hClear hKey hSource hInfix
      rcases pair_infix_append_iff.mp hInfix with
        hInside | hLater | ⟨_, hStart⟩
      · exact hKey hInside
      · rcases pair_infix_append_iff.mp hLater with
          hSign | hInside | ⟨_, hStart⟩
        · exact absurd hSign (by decide)
        · exact hSource hInside
        · exact hClear hStart
      · exact absurd (Option.some.inj hStart) (by decide)

/- The text of a filter that is not blurred is cut like it. -/
theorem Cuts.again
    (h : Cuts cs before after f)
    (hClear : ¬ f.IsBlurred) :
    Cuts f.text.toList f.key.toList f.pattern.source.toList
      f where
  cut :=
    { parts := f.toList_text
      first := h.first_again hClear }
  only := h.not_infix_source f.operator
  other := h.other_again hClear
  key := by
    rw [Text.trimChars_of_isTrimmed h.isTrimmed_key,
      h.lower_key]
  named := by
    rw [Text.trimChars_of_isTrimmed h.isTrimmed_key, h.key]
    simpa using h.named
  pattern := by
    rw [Text.trimChars_of_isTrimmed h.isTrimmed_source,
      h.source]
    exact h.pattern

------------------------------------------------------------
-- Blurred texts
------------------------------------------------------------

/-
  The key of a filter is no longer than what stands before
  the operator.
-/
theorem Cuts.length_key_le
    (h : Cuts cs before after f) :
    f.key.toList.length ≤ before.length := by
  rw [h.key, List.length_map]
  exact (trimChars_isInfix before).length_le

/-
  A key that ends in the first sign of the operator moves
  the cut to the left.
-/
theorem Cuts.length_before_lt
    (h : Cuts cs before after f)
    (key : List Char)
    (hInfix :
      f.operator.symbols <:+:
        key ++ f.operator.symbols.dropLast)
    (hPrefix : key ++ f.operator.symbols.dropLast <+: cs) :
    before.length < key.length := by
  by_contra hLong
  apply h.cut.first
  apply hInfix.trans
  refine (List.prefix_of_prefix_length_le hPrefix ?_ ?_).isInfix
  · rw [h.cut.parts]
    exact Text.append_dropLast_isPrefix _ before after
  · rw [List.length_append, List.length_append]
    omega

/- A blurred text is not read as its filter. -/
theorem Cuts.not_agrees
    {g : Filter}
    (h : Cuts f.text.toList before after g)
    (hBlurred : f.IsBlurred) :
    ¬ g.Agrees f := by
  rintro ⟨hKey, hOperator, _⟩
  have hOther := h.other
  rw [toList_text, List.append_assoc, hOperator] at hOther
  unfold IsBlurred at hBlurred
  cases hThis : f.operator with
  | equal =>
      rw [hThis] at hBlurred hOther
      rcases hBlurred with hEnd | hEnd
      · exact
          hOther
            (pair_infix_append_iff.mpr (.inr (.inr ⟨hEnd, rfl⟩)))
      · have hLength := h.length_key_le
        rw [hKey] at hLength
        have hShorter :=
          h.length_before_lt f.key.toList ?_ ?_
        · omega
        · rw [hOperator, hThis]
          exact
            pair_infix_append_iff.mpr (.inr (.inr ⟨hEnd, rfl⟩))
        · rw [toList_text, hOperator]
          exact Text.append_dropLast_isPrefix _ _ _
  | notEqual =>
      rw [hThis] at hBlurred hOther
      apply hOther
      refine pair_infix_append_iff.mpr (.inr (.inl ?_))
      exact
        pair_infix_append_iff.mpr (.inr (.inr ⟨rfl, hBlurred⟩))

/-
  A text is blurred only if a blank was trimmed beside the
  operator.
-/
theorem Cuts.trimmed
    (h : Cuts cs before after f)
    (hBlurred : f.IsBlurred) :
    (f.operator = .equal ∧
        ∃ c ∈ before.getLast?, isBlank c = true) ∨
      (f.operator = .notEqual ∧
        ∃ c ∈ after.head?, isBlank c = true) := by
  unfold IsBlurred at hBlurred
  have hOther := h.other
  have hFirst := h.cut.first
  rw [h.cut.parts, List.append_assoc] at hOther
  cases hThis : f.operator with
  | equal =>
      rw [hThis] at hBlurred hOther hFirst
      refine .inl ⟨rfl, ?_⟩
      by_contra hNone
      have hLast :
          (trimChars before).getLast? = before.getLast? := by
        apply Text.getLast?_trimChars
        simpa using hNone
      have hSign :
          ∀ d : Char,
            d.toNat < 65 →
            f.key.toList.getLast? = some d →
              before.getLast? = some d := by
        intro d hLow hEnd
        rw [h.key, List.getLast?_map, hLast] at hEnd
        rcases Option.map_eq_some_iff.mp hEnd with ⟨c, hc, hd⟩
        rw [hc, (Text.toLower_eq_iff hLow).mp hd]
      rcases hBlurred with hEnd | hEnd
      · exact
          hOther
            (pair_infix_append_iff.mpr
              (.inr (.inr ⟨hSign _ (by decide) hEnd, rfl⟩)))
      · exact
          hFirst
            (pair_infix_append_iff.mpr
              (.inr (.inr ⟨hSign _ (by decide) hEnd, rfl⟩)))
  | notEqual =>
      rw [hThis] at hBlurred hOther
      refine .inr ⟨rfl, ?_⟩
      by_contra hNone
      have hHead : (trimChars after).head? = after.head? := by
        apply Text.head?_trimChars
        simpa using hNone
      rw [h.source, hHead] at hBlurred
      apply hOther
      refine pair_infix_append_iff.mpr (.inr (.inl ?_))
      exact
        pair_infix_append_iff.mpr (.inr (.inr ⟨rfl, hBlurred⟩))

end

------------------------------------------------------------
-- Reading again
------------------------------------------------------------

/-
  What becomes of a filter that was read from an expression
  when its own text is read.
-/
structure Reprints
    (expression : String)
    (f : Filter) : Prop where
  again : ¬ f.IsBlurred → parse f.text = .ok f
  same :
    (∃ g, parse f.text = .ok g ∧ g.Agrees f) ↔ ¬ f.IsBlurred
  -- a blurred text is refused, or is one of another filter
  blurred :
    f.IsBlurred →
      (∃ refusal, parse f.text = .error refusal) ∨
        ∃ g, parse f.text = .ok g ∧ ¬ g.Agrees f
  -- a blank stood between that character and the operator
  trimmed :
    f.IsBlurred →
      ∃ before after,
        sides f.operator expression = .ok (before, after) ∧
          ((f.operator = .equal ∧
              ∃ c ∈ before.toList.getLast?,
                isBlank c = true) ∨
            (f.operator = .notEqual ∧
              ∃ c ∈ after.toList.head?, isBlank c = true))

/- A filter is read again unless its text is blurred. -/
theorem parse_reprints
    {expression : String}
    {f : Filter}
    (hParse : parse expression = .ok f) :
    Reprints expression f := by
  rcases parse_eq_ok_iff.mp hParse with ⟨before, after, hCuts⟩
  have hAgain : ¬ f.IsBlurred → parse f.text = .ok f :=
    fun hClear => parse_eq_ok_iff.mpr ⟨_, _, hCuts.again hClear⟩
  have hOther :
      ∀ g,
        f.IsBlurred → parse f.text = .ok g → ¬ g.Agrees f := by
    intro g hBlurred hRead
    rcases parse_eq_ok_iff.mp hRead with ⟨_, _, hThis⟩
    exact hThis.not_agrees hBlurred
  constructor
  · exact hAgain
  · constructor
    · rintro ⟨g, hRead, hAgrees⟩ hBlurred
      exact hOther g hBlurred hRead hAgrees
    · intro hClear
      exact ⟨f, hAgain hClear, rfl, rfl, rfl⟩
  · intro hBlurred
    cases hRead : parse f.text with
    | error refusal => exact .inl ⟨refusal, rfl⟩
    | ok g => exact .inr ⟨g, rfl, hOther g hBlurred hRead⟩
  · intro hBlurred
    refine ⟨String.ofList before, String.ofList after, ?_, ?_⟩
    · rw [sides_eq_ok_iff, String.toList_ofList,
        String.toList_ofList]
      exact ⟨hCuts.cut, hCuts.only⟩
    · rw [String.toList_ofList, String.toList_ofList]
      exact hCuts.trimmed hBlurred

/-
  A key that ends in an equals sign once it is trimmed is
  not read again.
-/
theorem parse_reprints_equals_sign :
    ∃ f,
      parse "a= ==x" = .ok f ∧ f.IsBlurred ∧
        Reprints "a= ==x" f := by
  have hRead :
      (parse "a= ==x").toOption.any
          (fun f => decide f.IsBlurred) = true := by
    decide +kernel
  cases hParse : parse "a= ==x" with
  | error refusal =>
      rw [hParse] at hRead
      cases hRead
  | ok f =>
      rw [hParse] at hRead
      exact
        ⟨f, rfl, of_decide_eq_true hRead,
          parse_reprints hParse⟩

end Filter
end WorkspaceClient
