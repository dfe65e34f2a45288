import Mathlib.Data.List.Basic
import WorkspaceClient.Failure
import WorkspaceClient.Http.Status
import WorkspaceClient.Proofs.Text.Search

/-
  This file shows that the text of a status code reads like
  that of a redirected call for one status code only.

  Key definitions include:
    * `Http.words`
    * `Http.statusContext`

  Main declarations:
    * `Http.toList_statusText`
    * `Http.infix_status_iff`
-/

namespace WorkspaceClient
namespace Http

------------------------------------------------------------
-- Words
------------------------------------------------------------

/- The words behind a status code. -/
def words
    (status : Nat) : List Char :=
  ((phrase? status).getD "<unknown status code>").toList

theorem toList_statusText
    (status : Nat) :
    (statusText status).toList =
      Nat.toDigits 10 status ++ ' ' :: words status := by
  simp [statusText, words]

/-
  The words behind a status code have no digit like the
  first one of the mark, and only those of a redirection
  start with its word.
-/
theorem words_spec
    (status : Nat) :
    '3' ∉ words status ∧
      ("Found".toList <+: words status → status = 302) := by
  have hKnown :
      ∀ e ∈ phrases,
        '3' ∉ e.2.toList ∧
          ("Found".toList <+: e.2.toList → e.1 = 302) := by
    decide +kernel
  unfold words phrase?
  cases hFind : phrases.find? fun e => e.1 == status with
  | none =>
      have hUnknown :
          '3' ∉ "<unknown status code>".toList ∧
            ¬ "Found".toList <+:
              "<unknown status code>".toList := by
        decide +kernel
      exact ⟨hUnknown.1, fun h => absurd h hUnknown.2⟩
  | some e =>
      have hCode : e.1 = status := by
        simpa using List.find?_some hFind
      rw [← hCode]
      exact hKnown e (List.mem_of_find?_eq_some hFind)

------------------------------------------------------------
-- Redirections
------------------------------------------------------------

/- What stands before the text of a status code. -/
def statusContext : List Char :=
  " unexpected status ".toList

/- The mark of a redirection has a letter before its end. -/
theorem not_infix_digits
    (status : Nat) :
    ¬ Failure.redirectMarker.toList <:+:
      statusContext ++ Nat.toDigits 10 status := by
  intro hInside
  have hLetter : 'F' ∈ Failure.redirectMarker.toList := by
    decide
  rcases List.mem_append.mp (hInside.mem hLetter) with
    hContext | hDigit
  · revert hContext
    decide
  · have hIsDigit :=
      Nat.isDigit_of_mem_toDigits (by decide) (by decide)
        hDigit
    revert hIsDigit
    decide

/-
  A status code is told like a redirection if and only if it
  is one. The mark has to reach across the space behind the
  code, because neither side has all of its characters.
-/
theorem infix_status_iff
    {status : Nat} :
    Failure.redirectMarker.toList <:+:
        statusContext ++ (statusText status).toList ↔
      status = 302 := by
  have hMark :
      Failure.redirectMarker.toList =
        "302".toList ++ ' ' :: "Found".toList := rfl
  constructor
  · intro h
    rw [toList_statusText, ← List.append_assoc] at h
    rcases List.infix_append_iff.mp h with
      hLeft | hRight | ⟨left, right, hSplit, hLeft, hRight⟩
    · exact absurd hLeft (not_infix_digits status)
    · have hDigit : '3' ∈ ' ' :: words status :=
        hRight.mem (by decide)
      rw [List.mem_cons, or_iff_right (by decide)] at hDigit
      exact absurd hDigit (words_spec status).1
    · rcases List.prefix_cons_iff.mp hRight with
        rfl | ⟨rest, rfl, hRest⟩
      · rw [List.append_nil] at hSplit
        rw [← hSplit] at hLeft
        exact absurd hLeft.isInfix (not_infix_digits status)
      · -- the mark has one space only
        rw [hMark] at hSplit
        have hBefore : ' ' ∉ "302".toList := by decide
        have hBehind : ' ' ∉ "Found".toList := by decide
        rcases (List.append_cons_inj_of_notMem hBefore
            hBehind).mp hSplit with ⟨_, _, rfl⟩
        exact (words_spec status).2 hRest
  · rintro rfl
    exact ⟨statusContext, [], rfl⟩

end Http
end WorkspaceClient
