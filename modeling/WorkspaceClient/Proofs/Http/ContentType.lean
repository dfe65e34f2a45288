import Mathlib.Data.List.TakeDrop
import WorkspaceClient.Http.ContentType

/-
  This file shows that a content type with a type, a subtype
  and a character set names this set.

  Key definitions include:
    * `Http.ContentType.IsWord`
    * `Http.ContentType.named`

  Main declarations:
    * `Http.ContentType.parameters?_named`
    * `Http.ContentType.charset?_named`
-/

namespace WorkspaceClient
namespace Http
namespace ContentType

------------------------------------------------------------
-- Words
------------------------------------------------------------

/- All characters may stand in a token. -/
def IsWord
    (cs : List Char) : Prop :=
  ∀ c ∈ cs, isToken c = true

/- A content type with a type, a subtype and a set. -/
def named
    (type subtype label : List Char) : List Char :=
  type
    ++ '/' :: (subtype ++ "; charset=".toList ++ label)

theorem span_word
    {cs : List Char}
    {mark : Char}
    (hWord : IsWord cs)
    (hMark : isToken mark = false)
    (rest : List Char) :
    (cs ++ mark :: rest).span isToken =
      (cs, mark :: rest) := by
  rw [List.span_eq_takeWhile_dropWhile,
    List.takeWhile_append_of_pos hWord,
    List.dropWhile_append_of_pos hWord,
    List.takeWhile_cons_of_neg (by simp [hMark]),
    List.dropWhile_cons_of_neg (by simp [hMark]),
    List.append_nil]

------------------------------------------------------------
-- Parameters
------------------------------------------------------------

section

variable {name value cs : List Char}
variable {parameters : List (List Char × List Char)}

/- A word is read into the name of a parameter. -/
theorem foldlM_name
    (hWord : IsWord cs) :
    cs.foldlM Reader.step
        { place := .name name, parameters := parameters } =
      some
        { place := .name (name ++ cs)
          parameters := parameters } := by
  induction cs generalizing name with
  | nil => simp
  | cons c cs ih =>
      rw [IsWord, List.forall_mem_cons] at hWord
      have hOther : c ≠ ' ' ∧ c ≠ ';' := by
        constructor <;> (rintro rfl; simp [isToken] at hWord)
      have hStep :
          Reader.step
              { place := .name name
                parameters := parameters }
              c =
            some
              { place := .name (name ++ [c])
                parameters := parameters } := by
        simp [Reader.step, Reader.goTo, hWord.1, hOther]
      rw [List.foldlM_cons, hStep]
      simp only [Option.bind_eq_bind, Option.bind_some]
      rw [ih hWord.2]
      simp

/- A word is read into the value of a parameter. -/
theorem foldlM_value
    (hWord : IsWord cs) :
    cs.foldlM Reader.step
        { place := .value name value
          parameters := parameters } =
      some
        { place := .value name (value ++ cs)
          parameters := parameters } := by
  induction cs generalizing value with
  | nil => simp
  | cons c cs ih =>
      rw [IsWord, List.forall_mem_cons] at hWord
      have hOther : c ≠ '"' := by
        rintro rfl
        simp [isToken] at hWord
      have hStep :
          Reader.step
              { place := .value name value
                parameters := parameters }
              c =
            some
              { place := .value name (value ++ [c])
                parameters := parameters } := by
        simp [Reader.step, Reader.goTo, hWord.1, hOther]
      rw [List.foldlM_cons, hStep]
      simp only [Option.bind_eq_bind, Option.bind_some]
      rw [ih hWord.2]
      simp

end

section

variable {type subtype label : List Char}

/- The subtype ends where no word goes on. -/
theorem afterSubtype?_of_words
    {mark : Char}
    (hType : IsWord type ∧ type ≠ [])
    (hSubtype : IsWord subtype ∧ subtype ≠ [])
    (hMark : isToken mark = false)
    (rest : List Char) :
    afterSubtype?
        (type ++ '/' :: (subtype ++ mark :: rest)) =
      some (mark :: rest) := by
  rcases List.exists_cons_of_ne_nil hType.2 with ⟨a, as, rfl⟩
  rcases List.exists_cons_of_ne_nil hSubtype.2 with
    ⟨b, bs, rfl⟩
  unfold afterSubtype?
  rw [span_word hType.1 rfl]
  simp only
  rw [span_word hSubtype.1 hMark]

/- The set is read as the value of its parameter. -/
theorem foldlM_charset
    (hLabel : IsWord label) :
    (" charset=".toList ++ label).foldlM Reader.step
        { place := .name [], parameters := [] } =
      some
        { place := .value "charset".toList label
          parameters := [] } := by
  have hName : IsWord "charset".toList :=
    List.all_eq_true.mp (by decide)
  -- the blank in front is passed over
  change
    ("charset".toList ++ '=' :: label).foldlM Reader.step
        { place := .name [], parameters := [] } =
      _
  rw [List.foldlM_append, foldlM_name hName]
  -- the sign behind the name opens the value
  change
    label.foldlM Reader.step
        { place := .value "charset".toList []
          parameters := [] } =
      _
  rw [foldlM_value hLabel]
  rfl

/- The only parameter is the set. -/
theorem parameters?_named
    (hType : IsWord type ∧ type ≠ [])
    (hSubtype : IsWord subtype ∧ subtype ≠ [])
    (hLabel : IsWord label) :
    parameters? (named type subtype label) =
      some [("charset".toList, label)] := by
  have hAfter :
      afterSubtype? (named type subtype label) =
        some ("; charset=".toList ++ label) := by
    unfold named
    rw [List.append_assoc]
    exact afterSubtype?_of_words hType hSubtype rfl _
  unfold parameters?
  rw [hAfter]
  change
    (do
      let last ←
        (" charset=".toList ++ label).foldlM Reader.step
          { place := .name [], parameters := [] }
      last.finish) = _
  rw [foldlM_charset hLabel]
  rfl

/- A set that is named is found. -/
theorem charset?_named
    (hType : IsWord type ∧ type ≠ [])
    (hSubtype : IsWord subtype ∧ subtype ≠ [])
    (hLabel : IsWord label) :
    charset? (named type subtype label) =
      Charset.ofLabel? label := by
  unfold charset?
  rw [parameters?_named hType hSubtype hLabel]
  rfl

end

end ContentType
end Http
end WorkspaceClient
