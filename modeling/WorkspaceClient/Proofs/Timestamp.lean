import Mathlib.Data.List.TakeWhile
import WorkspaceClient.Timestamp

/-
  This file shows which of the texts with the usual layout
  of a moment write one: those with a day of the calendar
  and a time of day.

  Key definitions include:
    * `Timestamp.written`

  Main declarations:
    * `Timestamp.digits?_append`
    * `Timestamp.afterDate?_written`
    * `Timestamp.afterClock?_written`
    * `Timestamp.isMoment_written_iff`
-/

namespace WorkspaceClient
namespace Timestamp

------------------------------------------------------------
-- Digits
------------------------------------------------------------

/- A number below one hundred, with two digits. -/
def twoDigits
    (n : Nat) : List Char :=
  [Nat.digitChar (n / 10), Nat.digitChar (n % 10)]

/- A number below ten thousand, with four digits. -/
def fourDigits
    (n : Nat) : List Char :=
  twoDigits (n / 100) ++ twoDigits (n % 100)

theorem isDigit_digitChar
    {n : Nat}
    (h : n < 10) :
    (Nat.digitChar n).isDigit = true := by
  decide +revert

theorem all_isDigit_twoDigits
    {n : Nat}
    (h : n < 100) :
    (twoDigits n).all Char.isDigit = true := by
  have hTens : n / 10 < 10 := by omega
  have hOnes : n % 10 < 10 := by omega
  simp [twoDigits, isDigit_digitChar hTens,
    isDigit_digitChar hOnes]

theorem all_isDigit_fourDigits
    {n : Nat}
    (h : n < 10000) :
    (fourDigits n).all Char.isDigit = true := by
  have hFront : n / 100 < 100 := by omega
  have hBack : n % 100 < 100 := by omega
  rw [fourDigits, List.all_append, Bool.and_eq_true]
  exact
    ⟨all_isDigit_twoDigits hFront, all_isDigit_twoDigits hBack⟩

/- Two more digits are read. -/
theorem digitsToNat_append_twoDigits
    (front : List Char)
    {n : Nat}
    (h : n < 100) :
    Text.digitsToNat (front ++ twoDigits n) =
      100 * Text.digitsToNat front + n := by
  have hTens : n / 10 < 10 := by omega
  have hOnes : n % 10 < 10 := by omega
  unfold Text.digitsToNat twoDigits
  rw [List.foldl_append]
  simp only [List.foldl_cons, List.foldl_nil,
    Nat.toNat_digitChar_of_lt_ten hTens,
    Nat.toNat_digitChar_of_lt_ten hOnes]
  omega

theorem digitsToNat_twoDigits
    {n : Nat}
    (h : n < 100) :
    Text.digitsToNat (twoDigits n) = n := by
  have hRead := digitsToNat_append_twoDigits [] h
  simpa [Text.digitsToNat] using hRead

theorem digitsToNat_fourDigits
    {n : Nat}
    (h : n < 10000) :
    Text.digitsToNat (fourDigits n) = n := by
  have hFront : n / 100 < 100 := by omega
  have hBack : n % 100 < 100 := by omega
  rw [fourDigits, digitsToNat_append_twoDigits _ hBack,
    digitsToNat_twoDigits hFront]
  omega

/- As many digits as may be taken are all taken. -/
theorem digits?_append
    {digits : List Char}
    (hDigits : digits.all Char.isDigit = true)
    (hSome : digits ≠ [])
    (rest : List Char) :
    digits? digits.length (digits ++ rest) =
      some (Text.digitsToNat digits, rest) := by
  have hAll :
      digits.takeWhile Char.isDigit = digits :=
    List.takeWhile_eq_self_iff.mpr
      (List.all_eq_true.mp hDigits)
  unfold digits?
  rw [List.take_left, hAll]
  simp [hSome]

/- No digit is blank, or a sign. -/
theorem not_blank_of_isDigit
    {c : Char}
    (h : c.isDigit = true) :
    Text.isBlank c = false ∧ c ≠ '-' ∧ c ≠ '+' := by
  have hRange : 48 ≤ c.toNat ∧ c.toNat ≤ 57 := by
    simpa [Char.isDigit, UInt32.le_iff_toNat_le] using h
  refine ⟨?_, ?_, ?_⟩
  · unfold Text.isBlank
    simp
    omega
  · rintro rfl
    simp at h
  · rintro rfl
    simp at h

theorem skipBlanks_of_isDigit
    {c : Char}
    (h : c.isDigit = true)
    (cs : List Char) :
    skipBlanks (c :: cs) = c :: cs := by
  unfold skipBlanks
  rw [List.dropWhile_cons, (not_blank_of_isDigit h).1]
  rfl

theorem number?_twoDigits
    {n : Nat}
    (h : n < 100)
    (rest : List Char) :
    number? (twoDigits n ++ rest) = some (n, rest) := by
  have hFirst : n / 10 < 10 := by omega
  have hFront :
      skipBlanks (twoDigits n ++ rest) =
        twoDigits n ++ rest :=
    skipBlanks_of_isDigit (isDigit_digitChar hFirst) _
  have hRead :=
    digits?_append (all_isDigit_twoDigits h)
      (List.cons_ne_nil _ _) rest
  rw [digitsToNat_twoDigits h] at hRead
  unfold number?
  rw [hFront]
  exact hRead

theorem year?_fourDigits
    {n : Nat}
    (h : n < 10000)
    (rest : List Char) :
    year? (fourDigits n ++ rest) = some ((n : Int), rest) := by
  have hFirst : n / 100 / 10 < 10 := by omega
  have hDigit := isDigit_digitChar hFirst
  have hFront :
      skipBlanks (fourDigits n ++ rest) =
        fourDigits n ++ rest :=
    skipBlanks_of_isDigit hDigit _
  have hRead :=
    digits?_append (all_isDigit_fourDigits h)
      (List.cons_ne_nil _ _) rest
  rw [digitsToNat_fourDigits h] at hRead
  change digits? 4 _ = _ at hRead
  unfold year?
  rw [hFront]
  split
  · next heq =>
      exact absurd (List.cons.inj heq).1
        (not_blank_of_isDigit hDigit).2.1
  · next heq =>
      exact absurd (List.cons.inj heq).1
        (not_blank_of_isDigit hDigit).2.2
  · rw [hRead]
    rfl

------------------------------------------------------------
-- Moments
------------------------------------------------------------

/- The usual layout of a moment in the time of Greenwich. -/
def written
    (year month day hour minute second : Nat) : String :=
  String.ofList
    (fourDigits year
      ++ '-' :: (twoDigits month
      ++ '-' :: (twoDigits day
      ++ 'T' :: (twoDigits hour
      ++ ':' :: (twoDigits minute
      ++ ':' :: (twoDigits second ++ ['Z']))))))

theorem afterDate?_written
    {year month day : Nat}
    (hYear : year < 10000)
    (hMonth : month < 100)
    (hDay : day < 100)
    (rest : List Char) :
    afterDate?
        (fourDigits year
          ++ '-' :: (twoDigits month
          ++ '-' :: (twoDigits day ++ rest))) =
      if 1 ≤ day ∧ day ≤ daysIn year month then
        some rest
      else
        none := by
  have hMark :
      ∀ cs, afterMark? '-' ('-' :: cs) = some cs :=
    fun _ => rfl
  have hRange :
      firstYear ≤ (year : Int) ∧ (year : Int) ≤ lastYear := by
    unfold firstYear lastYear
    omega
  unfold afterDate?
  simp only [year?_fourDigits hYear, hMark,
    number?_twoDigits hMonth, number?_twoDigits hDay, hRange,
    Option.bind_eq_bind, Option.bind_some, true_and]
  rfl

theorem afterClock?_written
    {hour minute second : Nat}
    (hHour : hour < 100)
    (hMinute : minute < 100)
    (hSecond : second < 100) :
    afterClock?
        (twoDigits hour
          ++ ':' :: (twoDigits minute
          ++ ':' :: (twoDigits second ++ ['Z']))) =
      if hour ≤ 23 ∧ minute ≤ 59 ∧ second ≤ 60 then
        some ['Z']
      else
        none := by
  have hMark :
      ∀ cs, afterMark? ':' (':' :: cs) = some cs :=
    fun _ => rfl
  have hNoFraction : afterFraction? ['Z'] = some ['Z'] := rfl
  unfold afterClock?
  simp only [hMark, number?_twoDigits hHour,
    number?_twoDigits hMinute, number?_twoDigits hSecond,
    hNoFraction, Option.bind_eq_bind, Option.bind_some]
  rfl

/-
  A text with the usual layout writes a moment if its day is
  one of the calendar, and its time one of a day.
-/
theorem isMoment_written_iff
    {year month day hour minute second : Nat}
    (hYear : year < 10000)
    (hMonth : month < 100)
    (hDay : day < 100)
    (hHour : hour < 100)
    (hMinute : minute < 100)
    (hSecond : second < 100) :
    isMoment (written year month day hour minute second) =
        true ↔
      (1 ≤ day ∧ day ≤ daysIn year month) ∧
        hour ≤ 23 ∧ minute ≤ 59 ∧ second ≤ 60 := by
  unfold isMoment afterMoment? written
  rw [String.toList_ofList, afterDate?_written hYear hMonth hDay]
  by_cases hDate : 1 ≤ day ∧ day ≤ daysIn year month
  · rw [if_pos hDate]
    simp only [Option.bind_eq_bind, Option.bind_some]
    have hBreak :
        ∀ cs, afterBreak? ('T' :: cs) = some cs := fun _ => rfl
    rw [hBreak, Option.bind_some,
      afterClock?_written hHour hMinute hSecond]
    by_cases hTime : hour ≤ 23 ∧ minute ≤ 59 ∧ second ≤ 60
    · rw [if_pos hTime]
      exact iff_of_true rfl ⟨hDate, hTime⟩
    · rw [if_neg hTime]
      simp [hTime]
  · rw [if_neg hDate]
    simp [hDate]

end Timestamp
end WorkspaceClient
