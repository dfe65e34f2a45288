import Mathlib.Data.List.Induction
import Mathlib.Data.List.Sort
import WorkspaceClient.Proofs.Failure

/-
  This file shows what the text of a failure tells of its
  causes: the outermost failure and, in their order, exactly
  those causes that the text before them does not mention. No
  cause is lost in this way, so a failed connection is read
  by what any of its causes tells.

  Key definitions include:
    * `Failure.joined`
    * `Failure.textsAt`
    * `Failure.Gathers`
    * `Failure.TellsCauses`

  Main declarations:
    * `Failure.Gathers.addCause`
    * `Failure.Gathers.unique`
    * `Failure.Gathers.nodup`
    * `Failure.mentions_chainText_iff`
    * `Failure.ofChain_tellsCauses`
-/

namespace WorkspaceClient
namespace Failure

open Text (Mentions)

------------------------------------------------------------
-- Joined texts
------------------------------------------------------------

/-
  A text with others behind it. A colon and a blank stand
  before each of them.
-/
def joined
    (text : String)
    (others : List String) : String :=
  others.foldl (fun before other => before ++ ": " ++ other) text

theorem joined_concat
    (text : String)
    (others : List String)
    (last : String) :
    joined text (others ++ [last]) =
      joined text others ++ ": " ++ last := by
  rw [joined, List.foldl_append]
  rfl

/- What is joined stands in the result. -/
theorem mentions_joined
    {outermost text : String}
    {others : List String}
    (hMem : text ∈ outermost :: others) :
    Mentions (joined outermost others) text := by
  induction others using List.reverseRecOn with
  | nil =>
      rw [List.mem_singleton.mp hMem]
      exact List.infix_rfl
  | append_singleton others last ih =>
      rw [joined_concat]
      rw [← List.cons_append, List.mem_append,
        List.mem_singleton] at hMem
      rcases hMem with hBefore | rfl
      · exact (ih hBefore).trans (Text.mentions_before _ _ _)
      · exact Text.mentions_behind _ _ _

------------------------------------------------------------
-- Gathered causes
------------------------------------------------------------

/- The texts that stand at some places of a list. -/
def textsAt
    (texts : List String)
    (places : List Nat) : List String :=
  places.filterMap (texts[·]?)

/- What is told of the causes before a place. -/
def toldBefore
    (outermost : String)
    (causes : List String)
    (places : List Nat)
    (n : Nat) : String :=
  joined outermost (textsAt causes (places.filter (· < n)))

/-
  The places of those causes, in their order, that are not
  mentioned by what is told of the causes before them.
-/
structure Gathers
    (outermost : String)
    (causes : List String)
    (places : List Nat) : Prop where
  ordered : places.Pairwise (· < ·)
  mem_iff :
    ∀ n,
      n ∈ places ↔
        ∃ cause,
          causes[n]? = some cause ∧
            ¬ Mentions (toldBefore outermost causes places n)
              cause

theorem gathers_nil
    (outermost : String) :
    Gathers outermost [] [] :=
  ⟨.nil, fun _ => by simp⟩

section

variable {outermost : String}
variable {causes : List String}
variable {places places' : List Nat}

theorem Gathers.lt_length
    {n : Nat}
    (h : Gathers outermost causes places)
    (hMem : n ∈ places) :
    n < causes.length := by
  rcases (h.mem_iff n).mp hMem with ⟨cause, hCause, _⟩
  exact (List.getElem?_eq_some_iff.mp hCause).1

/- One more cause does not move the ones before it. -/
theorem textsAt_append
    (hInside : ∀ n ∈ places, n < causes.length)
    (more : List String) :
    textsAt (causes ++ more) places = textsAt causes places := by
  refine List.filterMap_congr fun n hMem => ?_
  rw [List.getElem?_append_left (hInside n hMem)]

theorem Gathers.toldBefore_append
    (h : Gathers outermost causes places)
    (more : List String)
    (n : Nat) :
    toldBefore outermost (causes ++ more) places n =
      toldBefore outermost causes places n := by
  unfold toldBefore
  rw [textsAt_append]
  exact fun m hMem => h.lt_length (List.mem_filter.mp hMem).1

/- A later place does not matter before it. -/
theorem toldBefore_concat
    {n last : Nat}
    (hBefore : n ≤ last) :
    toldBefore outermost causes (places ++ [last]) n =
      toldBefore outermost causes places n := by
  unfold toldBefore
  rw [List.filter_append,
    List.filter_singleton, decide_eq_false (by omega), cond_false,
    List.append_nil]

/- Behind all causes, everything is told. -/
theorem Gathers.toldBefore_length
    (h : Gathers outermost causes places) :
    toldBefore outermost causes places causes.length =
      joined outermost (textsAt causes places) := by
  unfold toldBefore
  rw [List.filter_eq_self.mpr]
  exact fun n hMem => decide_eq_true (h.lt_length hMem)

/- A cause that is mentioned already is not gathered. -/
theorem Gathers.known
    {cause : String}
    (h : Gathers outermost causes places)
    (hKnown :
      Mentions (joined outermost (textsAt causes places)) cause) :
    Gathers outermost (causes ++ [cause]) places := by
  refine ⟨h.ordered, fun n => ?_⟩
  rw [h.toldBefore_append]
  rcases Nat.lt_trichotomy n causes.length with
    hBefore | rfl | hBehind
  · rw [h.mem_iff, List.getElem?_append_left hBefore]
  · rw [h.toldBefore_length, List.getElem?_concat_length]
    constructor
    · exact fun hMem =>
        absurd (h.lt_length hMem) (Nat.lt_irrefl _)
    · rintro ⟨_, ⟨⟩, hNew⟩
      exact absurd hKnown hNew
  · rw [h.mem_iff, List.getElem?_eq_none (by omega),
      List.getElem?_eq_none (by simp; omega)]

/- A cause that is not mentioned yet is gathered as the last. -/
theorem Gathers.new
    {cause : String}
    (h : Gathers outermost causes places)
    (hNew :
      ¬ Mentions (joined outermost (textsAt causes places))
        cause) :
    Gathers outermost (causes ++ [cause])
      (places ++ [causes.length]) := by
  constructor
  · rw [List.pairwise_append]
    refine
      ⟨h.ordered, List.pairwise_singleton _ _, ?_⟩
    intro n hMem last hLast
    rw [List.mem_singleton.mp hLast]
    exact h.lt_length hMem
  · intro n
    rw [List.mem_append, List.mem_singleton]
    rcases Nat.lt_trichotomy n causes.length with
      hBefore | rfl | hBehind
    · rw [or_iff_left (Nat.ne_of_lt hBefore), h.mem_iff,
        toldBefore_concat (Nat.le_of_lt hBefore),
        h.toldBefore_append,
        List.getElem?_append_left hBefore]
    · rw [toldBefore_concat (Nat.le_refl _),
        h.toldBefore_append, h.toldBefore_length,
        List.getElem?_concat_length]
      simp [hNew]
    · rw [h.mem_iff, List.getElem?_eq_none (by omega),
        List.getElem?_eq_none (by simp; omega)]
      simp
      omega

/- What is told of one cause more. -/
theorem Gathers.addCause
    (h : Gathers outermost causes places)
    (cause : String) :
    ∃ places',
      Gathers outermost (causes ++ [cause]) places' ∧
        joined outermost (textsAt (causes ++ [cause]) places') =
          Failure.addCause
            (joined outermost (textsAt causes places)) cause := by
  have hOld :
      textsAt (causes ++ [cause]) places =
        textsAt causes places :=
    textsAt_append (fun _ => h.lt_length) [cause]
  unfold Failure.addCause
  split
  · next hKnown =>
      refine ⟨places, h.known (Text.contains_iff.mp hKnown), ?_⟩
      rw [hOld]
  · next hNew =>
      refine
        ⟨places ++ [causes.length],
          h.new (mt Text.contains_iff.mpr hNew), ?_⟩
      have hLast :
          textsAt (causes ++ [cause])
              (places ++ [causes.length]) =
            textsAt causes places ++ [cause] := by
        rw [textsAt, List.filterMap_append]
        refine congrArg₂ (· ++ ·) hOld ?_
        simp
      rw [hLast, joined_concat]

/- The text of a failure tells of the gathered causes. -/
theorem exists_gathers
    (outermost : String)
    (causes : List String) :
    ∃ places,
      Gathers outermost causes places ∧
        chainText outermost causes =
          joined outermost (textsAt causes places) := by
  induction causes using List.reverseRecOn with
  | nil => exact ⟨[], gathers_nil outermost, rfl⟩
  | append_singleton causes cause ih =>
      rcases ih with ⟨places, hGathers, hText⟩
      rcases hGathers.addCause cause with
        ⟨places', hGathers', hText'⟩
      refine ⟨places', hGathers', ?_⟩
      rw [hText', ← hText, chainText, List.foldl_append]
      rfl

/- A cause that a join mentions is not added either. -/
example : chainText "a" ["b", "a: b", "c"] = "a: b: c" := by
  decide

/- Only one choice of causes is gathered in this way. -/
theorem Gathers.unique
    (h : Gathers outermost causes places)
    (h' : Gathers outermost causes places') :
    places = places' := by
  have hMem : ∀ n, n ∈ places ↔ n ∈ places' := by
    intro n
    induction n using Nat.strongRecOn with
    | ind n ih =>
        -- what is told before a place decides about it
        have hBefore :
            places.filter (· < n) = places'.filter (· < n) := by
          apply
            (h.ordered.filter _).eq_of_mem_iff
              (h'.ordered.filter _)
          intro m
          rw [List.mem_filter, List.mem_filter,
            and_congr_left_iff]
          exact fun hLess => ih m (of_decide_eq_true hLess)
        rw [h.mem_iff, h'.mem_iff, toldBefore, hBefore]
        rfl
  exact h.ordered.eq_of_mem_iff h'.ordered hMem

/- Nothing is told twice. -/
theorem Gathers.nodup
    (h : Gathers outermost causes places) :
    (outermost :: textsAt causes places).Nodup := by
  -- a cause differs from all that is told before it
  have hNew :
      ∀ n ∈ places, ∀ cause, causes[n]? = some cause →
        ∀ text ∈ outermost ::
            textsAt causes (places.filter (· < n)),
          text ≠ cause := by
    rintro n hMem cause hCause text hText rfl
    rcases (h.mem_iff n).mp hMem with ⟨_, hThis, hAbsent⟩
    rw [hCause] at hThis
    cases hThis
    exact hAbsent (mentions_joined hText)
  rw [List.nodup_cons]
  constructor
  · intro hTold
    rcases List.mem_filterMap.mp hTold with ⟨n, hMem, hCause⟩
    exact hNew n hMem _ hCause _ List.mem_cons_self rfl
  · unfold textsAt
    rw [List.Nodup, List.pairwise_filterMap]
    refine h.ordered.imp_of_mem ?_
    intro m n hMem hMem' hLess text hText cause hCause
    refine hNew n hMem' cause hCause text ?_
    apply List.mem_cons_of_mem
    refine List.mem_filterMap.mpr ⟨m, ?_, hText⟩
    exact List.mem_filter.mpr ⟨hMem, decide_eq_true hLess⟩

end

------------------------------------------------------------
-- What is mentioned
------------------------------------------------------------

theorem mentions_addCause_text
    (text cause : String) :
    Mentions (addCause text cause) text := by
  unfold addCause
  split
  · exact List.infix_rfl
  · exact Text.mentions_before _ _ _

theorem mentions_addCause_cause
    (text cause : String) :
    Mentions (addCause text cause) cause := by
  unfold addCause
  split
  · next hKnown => exact Text.contains_iff.mp hKnown
  · exact Text.mentions_behind _ _ _

theorem chainText_cons
    (outermost cause : String)
    (causes : List String) :
    chainText outermost (cause :: causes) =
      chainText (addCause outermost cause) causes :=
  rfl

theorem prefix_addCause
    (text cause : String) :
    text.toList <+: (addCause text cause).toList := by
  unfold addCause
  split
  · exact List.prefix_rfl
  · rw [String.append_assoc, String.toList_append]
    exact List.prefix_append _ _

/- The outermost failure stands in front. -/
theorem prefix_chainText
    (outermost : String)
    (causes : List String) :
    outermost.toList <+: (chainText outermost causes).toList := by
  induction causes generalizing outermost with
  | nil => exact List.prefix_rfl
  | cons cause causes ih =>
      exact (prefix_addCause outermost cause).trans (ih _)

/-
  Every text of the chain is mentioned. A cause that is not
  added is mentioned by what stands there before.
-/
theorem mentions_chainText
    {outermost text : String}
    {causes : List String}
    (hMem : text ∈ outermost :: causes) :
    Mentions (chainText outermost causes) text := by
  induction causes generalizing outermost text with
  | nil =>
      rw [List.mem_singleton.mp hMem]
      exact List.infix_rfl
  | cons cause causes ih =>
      have hFirst :
          Mentions (chainText (addCause outermost cause) causes)
            (addCause outermost cause) :=
        ih List.mem_cons_self
      rw [chainText_cons]
      rw [List.mem_cons, List.mem_cons] at hMem
      rcases hMem with rfl | rfl | hLater
      · exact (mentions_addCause_text _ _).trans hFirst
      · exact (mentions_addCause_cause _ _).trans hFirst
      · exact ih (List.mem_cons_of_mem _ hLater)

section

variable {part : String}

theorem mentions_of_addCause
    (hColon : ':' ∉ part.toList)
    (hStart : part.toList.head? ≠ some ' ')
    {text cause : String}
    (h : Mentions (addCause text cause) part) :
    Mentions text part ∨ Mentions cause part := by
  unfold addCause at h
  split at h
  · exact .inl h
  · exact (Text.mentions_colon_iff hColon hStart _ _).mp h

/-
  A part that does not reach across a colon is mentioned by
  the chain if one of its texts mentions it, and by no join
  of two texts.
-/
theorem mentions_chainText_iff
    (hColon : ':' ∉ part.toList)
    (hStart : part.toList.head? ≠ some ' ')
    {outermost : String}
    {causes : List String} :
    Mentions (chainText outermost causes) part ↔
      ∃ text ∈ outermost :: causes, Mentions text part := by
  constructor
  · intro h
    induction causes generalizing outermost with
    | nil => exact ⟨outermost, List.mem_cons_self, h⟩
    | cons cause causes ih =>
        rcases ih h with ⟨text, hMem, hPart⟩
        rcases List.mem_cons.mp hMem with rfl | hLater
        · rcases mentions_of_addCause hColon hStart hPart with
            hText | hCause
          · exact ⟨outermost, by simp, hText⟩
          · exact ⟨cause, by simp, hCause⟩
        · exact ⟨text, by simp [hLater], hPart⟩
  · rintro ⟨text, hMem, hPart⟩
    exact hPart.trans (mentions_chainText hMem)

/- The same for a failed connection with its context. -/
theorem mentions_context_iff
    (hColon : ':' ∉ part.toList)
    (hStart : part.toList.head? ≠ some ' ')
    {context outermost : String}
    {causes : List String} :
    Mentions (context ++ ": " ++ chainText outermost causes)
        part ↔
      ∃ text ∈ context :: outermost :: causes,
        Mentions text part := by
  rw [Text.mentions_colon_iff hColon hStart,
    mentions_chainText_iff hColon hStart]
  exact
    (List.exists_mem_cons_iff (Mentions · part) context
      (outermost :: causes)).symm

end

------------------------------------------------------------
-- Failed connections
------------------------------------------------------------

/-
  What a failed connection tells of its causes, and how it is
  read: by the context, the outermost failure and every
  cause, whether the cause is repeated in the text or not.
-/
structure TellsCauses
    (context outermost : String)
    (causes : List String) : Prop where
  gathered :
    ∃ places,
      Gathers outermost causes places ∧
        (∀ others,
          Gathers outermost causes others → others = places) ∧
        chainText outermost causes =
          joined outermost (textsAt causes places) ∧
        (outermost :: textsAt causes places).Nodup
  starts :
    outermost.toList <+: (chainText outermost causes).toList
  mentions :
    ∀ text ∈ outermost :: causes,
      Mentions (chainText outermost causes) text
  transport :
    ofChain context outermost causes =
      .transport
        (context ++ ": " ++ chainText outermost causes)
  redirected :
    classify (ofChain context outermost causes) =
        .sessionExpired ↔
      ∃ text ∈ context :: outermost :: causes,
        Mentions text redirectMarker
  unchanged :
    classify (ofChain context outermost causes) =
        ofChain context outermost causes ↔
      (∀ text ∈ context :: outermost :: causes,
        ¬ Mentions text redirectMarker) ∧
        ∃ text ∈ context :: outermost :: causes,
          Mentions text sessionHint
  hinted :
    (∀ text ∈ context :: outermost :: causes,
      ¬ Mentions text redirectMarker ∧
        ¬ Mentions text sessionHint) →
      classify (ofChain context outermost causes) =
        .transport
          (hinted
            (context ++ ": " ++ chainText outermost causes))

section

variable {text : String}

theorem classify_eq_sessionExpired_iff :
    classify (.transport text) = .sessionExpired ↔
      Mentions text redirectMarker := by
  constructor
  · intro h
    by_contra hMark
    rcases isHinted_of_classify hMark with
      ⟨result, hClassified, _⟩
    rw [hClassified] at h
    cases h
  · exact classify_redirected

theorem classify_hinted
    (hMark : ¬ Mentions text redirectMarker)
    (hHint : ¬ Mentions text sessionHint) :
    classify (.transport text) = .transport (hinted text) := by
  rw [classify, if_neg (mt Text.contains_iff.mp hMark),
    if_neg (mt Text.contains_iff.mp hHint)]
  rfl

theorem classify_eq_self_iff :
    classify (.transport text) = .transport text ↔
      ¬ Mentions text redirectMarker ∧
        Mentions text sessionHint := by
  constructor
  · intro h
    constructor
    · intro hMark
      rw [classify_redirected hMark] at h
      cases h
    · exact mentions_hint_of_classify h
  · rintro ⟨hMark, hHint⟩
    exact (isHinted_self hMark hHint).classify_eq

end

/-
  However long a chain is, its text tells all of it, and a
  failed connection is read by all of it.
-/
theorem ofChain_tellsCauses
    (context outermost : String)
    (causes : List String) :
    TellsCauses context outermost causes := by
  have hMark :
      Mentions (context ++ ": " ++ chainText outermost causes)
          redirectMarker ↔
        ∃ text ∈ context :: outermost :: causes,
          Mentions text redirectMarker :=
    mentions_context_iff (by decide) (by decide)
  have hHint :
      Mentions (context ++ ": " ++ chainText outermost causes)
          sessionHint ↔
        ∃ text ∈ context :: outermost :: causes,
          Mentions text sessionHint :=
    mentions_context_iff (by decide) (by decide)
  constructor
  case gathered =>
    rcases exists_gathers outermost causes with
      ⟨places, hGathers, hText⟩
    exact
      ⟨places, hGathers, fun _ hOther => hOther.unique hGathers,
        hText, hGathers.nodup⟩
  case starts => exact prefix_chainText outermost causes
  case mentions => exact fun _ => mentions_chainText
  case transport => rfl
  case redirected =>
    rw [ofChain, classify_eq_sessionExpired_iff, hMark]
  case unchanged =>
    rw [ofChain, classify_eq_self_iff, hMark, hHint]
    simp only [not_exists, not_and]
  case hinted =>
    intro hNone
    apply classify_hinted
    · rw [hMark]
      rintro ⟨text, hMem, hMention⟩
      exact (hNone text hMem).1 hMention
    · rw [hHint]
      rintro ⟨text, hMem, hMention⟩
      exact (hNone text hMem).2 hMention

end Failure
end WorkspaceClient
