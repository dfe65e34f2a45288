import Mathlib.Logic.Function.Iterate
import WorkspaceClient.Failure
import WorkspaceClient.Proofs.Text.Search

/-
  This file shows how the failure of a connection is read: as
  an expired session if its text has the mark of a
  redirection, and else with the hint that the session might
  have expired. Reading a failure again changes nothing.

  Key definitions include:
    * `Failure.hinted`
    * `Failure.IsHinted`
    * `Failure.Settles`

  Main declarations:
    * `Failure.classify_redirected`
    * `Failure.standsAt_hinted_iff`
    * `Failure.isHinted_of_classify`
    * `Failure.exists_classify`
    * `Failure.mentions_hint_of_classify`
    * `Failure.standsAt_message_iff`
    * `Failure.classify_settles`
-/

namespace WorkspaceClient
namespace Failure

open Text (Mentions StandsAt MentionsOnce)

/- A redirected call tells of an expired session. -/
theorem classify_redirected
    {text : String}
    (hMark : Mentions text redirectMarker) :
    classify (.transport text) = .sessionExpired := by
  rw [classify, if_pos (Text.contains_iff.mpr hMark)]

------------------------------------------------------------
-- Where the hint stands
------------------------------------------------------------

/- A text with the hint behind it. -/
def hinted
    (text : String) : String :=
  text ++ " (" ++ sessionHint ++ ")"

/-
  A part without an opening bracket, and with no blank at
  its end, stands in the text or in the hint behind it. It
  does not reach from one into the other.
-/
theorem standsAt_hinted_iff
    {part : String}
    (hSome : part.toList ≠ [])
    (hOpen : '(' ∉ part.toList)
    (hEnd : part.toList.getLast? ≠ some ' ')
    (text : String)
    (n : Nat) :
    StandsAt (hinted text) part n ↔
      StandsAt text part n ∨
        ∃ m,
          n = text.length + 2 + m ∧
            StandsAt (sessionHint ++ ")") part m := by
  have hText :
      (hinted text).toList =
        (text.toList ++ [' '])
          ++ '(' :: (sessionHint ++ ")").toList := by
    simp [hinted]
  unfold StandsAt
  rw [hText, Text.prefix_drop_separated_iff hSome hOpen,
    Text.prefix_drop_concat_iff hEnd, List.length_append,
    List.length_singleton, String.length_toList]

/- The closing bracket does not add another hint. -/
theorem standsAt_hint_iff
    (n : Nat) :
    StandsAt (sessionHint ++ ")") sessionHint n ↔ n = 0 := by
  have hSome : sessionHint.toList ≠ [] := by decide
  have hClose : ')' ∉ sessionHint.toList := by decide
  unfold StandsAt
  rw [String.toList_append]
  constructor
  · intro h
    rcases (Text.prefix_drop_separated_iff hSome hClose n).mp h
      with hInside | ⟨m, _, hBehind⟩
    · have hLength := hInside.length_le
      have hPositive := List.length_pos_iff.mpr hSome
      rw [List.length_drop] at hLength
      omega
    · rw [List.drop_nil, List.prefix_nil] at hBehind
      exact absurd hBehind hSome
  · rintro rfl
    exact List.prefix_append _ _

/- The hint is added once, and not across the text before. -/
theorem mentionsOnce_hinted
    {text : String}
    (hNone : ¬ Mentions text sessionHint) :
    MentionsOnce (hinted text) sessionHint := by
  refine ⟨text.length + 2, fun n => ?_⟩
  rw [standsAt_hinted_iff (by decide) (by decide) (by decide),
    or_iff_right]
  · simp only [standsAt_hint_iff, exists_eq_right, Nat.add_zero]
  · exact fun h =>
      hNone (Text.mentions_iff_exists_standsAt.mpr ⟨n, h⟩)

/- The hint brings no mark of a redirection with it. -/
theorem mentions_marker_hinted_iff
    (text : String) :
    Mentions (hinted text) redirectMarker ↔
      Mentions text redirectMarker := by
  have hFree : ¬ Mentions (sessionHint ++ ")") redirectMarker := by
    decide
  rw [Text.mentions_iff_exists_standsAt,
    Text.mentions_iff_exists_standsAt]
  refine exists_congr fun n => ?_
  rw [standsAt_hinted_iff (by decide) (by decide) (by decide),
    or_iff_left]
  rintro ⟨m, _, hPart⟩
  exact hFree (Text.mentions_iff_exists_standsAt.mpr ⟨m, hPart⟩)

------------------------------------------------------------
-- Hinted texts
------------------------------------------------------------

/-
  What becomes of a text that tells of no redirection: it
  stays in front, and behind it stands the hint unless it was
  there before.
-/
structure IsHinted
    (text result : String) : Prop where
  kept : text.toList <+: result.toList
  mentions : Mentions result sessionHint
  once :
    ¬ Mentions text sessionHint →
      MentionsOnce result sessionHint
  unmarked : ¬ Mentions result redirectMarker

theorem isHinted_self
    {text : String}
    (hMark : ¬ Mentions text redirectMarker)
    (hHint : Mentions text sessionHint) :
    IsHinted text text where
  kept := List.prefix_refl _
  mentions := hHint
  once := fun hNone => absurd hHint hNone
  unmarked := hMark

theorem isHinted_hinted
    {text : String}
    (hMark : ¬ Mentions text redirectMarker) :
    IsHinted text (hinted text) where
  kept := by
    unfold hinted
    rw [String.append_assoc, String.append_assoc,
      String.toList_append]
    exact List.prefix_append _ _
  mentions := Text.mentions_middle (text ++ " (") _ ")"
  once := mentionsOnce_hinted
  unmarked := mt (mentions_marker_hinted_iff text).mp hMark

/- A failed connection keeps its text, with the hint. -/
theorem isHinted_of_classify
    {text : String}
    (hMark : ¬ Mentions text redirectMarker) :
    ∃ result,
      classify (.transport text) = .transport result ∧
        IsHinted text result := by
  rw [classify, if_neg (mt Text.contains_iff.mp hMark)]
  by_cases hHint : Mentions text sessionHint
  · rw [if_pos (Text.contains_iff.mpr hHint)]
    exact ⟨text, rfl, isHinted_self hMark hHint⟩
  · rw [if_neg (mt Text.contains_iff.mp hHint)]
    exact ⟨hinted text, rfl, isHinted_hinted hMark⟩

/- The text of any other failed call stays, with the hint. -/
theorem exists_classify
    {text : String}
    (hMark : ¬ Mentions text redirectMarker) :
    ∃ hinted,
      classify (.transport text) = .transport hinted ∧
        Mentions hinted sessionHint ∧
        ∀ part, Mentions text part → Mentions hinted part := by
  rcases isHinted_of_classify hMark with
    ⟨result, hClassified, hHinted⟩
  refine ⟨result, hClassified, hHinted.mentions, ?_⟩
  intro part hPart
  exact hPart.trans hHinted.kept.isInfix

/- Every failed connection that was read has the hint. -/
theorem mentions_hint_of_classify
    {failure : Failure}
    {text : String}
    (h : classify failure = .transport text) :
    Mentions text sessionHint := by
  cases failure with
  | transport original =>
      by_cases hMark : Mentions original redirectMarker
      · rw [classify_redirected hMark] at h
        cases h
      · rcases exists_classify hMark with
          ⟨hinted, hClassified, hHint, _⟩
        rw [hClassified] at h
        cases h
        exact hHint
  | _ => cases h

/- A text that has the hint and no mark is left as it is. -/
theorem IsHinted.classify_eq
    {text result : String}
    (h : IsHinted text result) :
    classify (.transport result) = .transport result := by
  rw [classify, if_neg (mt Text.contains_iff.mp h.unmarked),
    if_pos (Text.contains_iff.mpr h.mentions)]

------------------------------------------------------------
-- Messages
------------------------------------------------------------

/-
  A part that does not fit into the words before the text of
  a failed connection stands in the message where it stands
  in the text.
-/
theorem standsAt_message_iff
    (part : String)
    (hSome : part.toList ≠ [])
    (hColon : ':' ∉ part.toList)
    (hStart : part.toList.head? ≠ some ' ')
    (hFree : ¬ Mentions "transport error" part)
    (text : String)
    (n : Nat) :
    StandsAt (message (.transport text)) part n ↔
      ∃ m, n = 17 + m ∧ StandsAt text part m := by
  have hWords :
      "transport error: ".toList =
        "transport error".toList ++ [':', ' '] := by
    decide
  have hMessage :
      (message (.transport text)).toList =
        "transport error".toList
          ++ ':' :: ' ' :: text.toList := by
    change ("transport error: " ++ text).toList = _
    rw [String.toList_append, hWords, List.append_assoc]
    rfl
  have hLength : "transport error".toList.length = 15 := by
    decide
  unfold StandsAt
  rw [hMessage, Text.prefix_drop_separated_iff hSome hColon,
    or_iff_right]
  · constructor
    · rintro ⟨m, hPlace, hPart⟩
      cases m with
      | zero =>
          rcases List.prefix_cons_iff.mp hPart with
            hNone | ⟨rest, hBlank, _⟩
          · exact absurd hNone hSome
          · rw [hBlank] at hStart
            exact absurd rfl hStart
      | succ m =>
          exact ⟨m, by omega, hPart⟩
    · rintro ⟨m, hPlace, hPart⟩
      exact ⟨m + 1, by omega, hPart⟩
  · exact fun h =>
      hFree (Text.mentions_iff_exists_standsAt.mpr ⟨n, h⟩)

/- The message of a failed connection is hinted as its text. -/
theorem IsHinted.message
    {text result : String}
    (h : IsHinted text result) :
    IsHinted (message (.transport text))
      (message (.transport result)) := by
  have hHint :=
    standsAt_message_iff sessionHint (by decide) (by decide)
      (by decide) (by decide)
  have hMark :=
    standsAt_message_iff redirectMarker (by decide)
      (by decide) (by decide) (by decide)
  constructor
  · unfold Failure.message
    rw [String.toList_append, String.toList_append,
      List.prefix_append_right_inj]
    exact h.kept
  · rcases Text.mentions_iff_exists_standsAt.mp h.mentions with
      ⟨n, hPlace⟩
    exact
      Text.mentions_iff_exists_standsAt.mpr
        ⟨17 + n, (hHint result _).mpr ⟨n, rfl, hPlace⟩⟩
  · intro hNone
    have hNoneBefore : ¬ Mentions text sessionHint := by
      intro hBefore
      rcases Text.mentions_iff_exists_standsAt.mp hBefore with
        ⟨n, hPlace⟩
      exact
        hNone (Text.mentions_iff_exists_standsAt.mpr
          ⟨17 + n, (hHint text _).mpr ⟨n, rfl, hPlace⟩⟩)
    rcases h.once hNoneBefore with ⟨n, hOnly⟩
    refine ⟨17 + n, fun m => ?_⟩
    simp only [hHint, hOnly, exists_eq_right]
  · intro hMarked
    rcases Text.mentions_iff_exists_standsAt.mp hMarked with
      ⟨n, hPlace⟩
    rcases (hMark result n).mp hPlace with ⟨m, _, hInside⟩
    exact
      h.unmarked
        (Text.mentions_iff_exists_standsAt.mpr ⟨m, hInside⟩)

------------------------------------------------------------
-- Reading a failure again
------------------------------------------------------------

/-
  How a failure is read, and that it is read so for good. A
  failed connection keeps its text, both on its own and in
  the message that is shown.
-/
structure Settles
    (failure : Failure) : Prop where
  twice : classify (classify failure) = classify failure
  again : ∀ n, classify^[n + 1] failure = classify failure
  others :
    (∀ text, failure ≠ .transport text) →
      classify failure = failure
  redirected :
    ∀ text,
      failure = .transport text →
      Mentions text redirectMarker →
        classify failure = .sessionExpired
  unredirected :
    ∀ text,
      failure = .transport text →
      ¬ Mentions text redirectMarker →
        ∃ result,
          classify failure = .transport result ∧
            IsHinted text result ∧
            IsHinted (message failure)
              (message (classify failure))

theorem classify_other
    {failure : Failure}
    (hOther : ∀ text, failure ≠ .transport text) :
    classify failure = failure := by
  cases failure with
  | transport text => exact absurd rfl (hOther text)
  | _ => rfl

theorem classify_classify
    (failure : Failure) :
    classify (classify failure) = classify failure := by
  cases failure with
  | transport text =>
      by_cases hMark : Mentions text redirectMarker
      · rw [classify_redirected hMark]
        rfl
      · rcases isHinted_of_classify hMark with
          ⟨result, hClassified, hHinted⟩
        rw [hClassified, hHinted.classify_eq]
  | _ => rfl

/- Every failure is settled when it is read once. -/
theorem classify_settles
    (failure : Failure) :
    failure.Settles where
  twice := classify_classify failure
  again := by
    intro n
    rw [Function.iterate_succ_apply]
    exact Function.iterate_fixed (classify_classify failure) n
  others := classify_other
  redirected := by
    rintro text rfl hMark
    exact classify_redirected hMark
  unredirected := by
    rintro text rfl hMark
    rcases isHinted_of_classify hMark with
      ⟨result, hClassified, hHinted⟩
    refine ⟨result, hClassified, hHinted, ?_⟩
    rw [hClassified]
    exact hHinted.message

end Failure
end WorkspaceClient
