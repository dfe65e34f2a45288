import WorkspaceClient.Text.Blank
import WorkspaceClient.Text.Search

/-
  This file defines which texts write a moment: a date and a
  time of day, between them a letter or a blank, and behind
  them the distance from the time of Greenwich.

  Blanks may stand before each number, before each mark that
  separates two of them, and at both ends.

  Key definitions include:
    * `Timestamp.daysIn`
    * `Timestamp.afterDate?`
    * `Timestamp.afterClock?`
    * `Timestamp.afterOffset?`
    * `Timestamp.isMoment`
-/

namespace WorkspaceClient
namespace Timestamp

------------------------------------------------------------
-- Numbers
------------------------------------------------------------

/- The text from the first character that is not blank on. -/
def skipBlanks
    (cs : List Char) : List Char :=
  cs.dropWhile Text.isBlank

/-
  The number of the digits at the front, of which at most
  `most` are taken, and what stands behind them.
-/
def digits?
    (most : Nat)
    (cs : List Char) : Option (Nat × List Char) :=
  let digits := (cs.take most).takeWhile Char.isDigit
  if digits.isEmpty then
    none
  else
    some (Text.digitsToNat digits, cs.drop digits.length)

/- The number of one or two digits behind blanks. -/
def number?
    (cs : List Char) : Option (Nat × List Char) :=
  digits? 2 (skipBlanks cs)

/- What stands behind blanks and a mark. -/
def afterMark?
    (mark : Char)
    (cs : List Char) : Option (List Char) :=
  match skipBlanks cs with
  | c :: rest => if c = mark then some rest else none
  | [] => none

------------------------------------------------------------
-- Dates
------------------------------------------------------------

/- Whether a year has a leap day. -/
def isLeap
    (year : Int) : Bool :=
  year % 4 = 0 ∧ (year % 100 ≠ 0 ∨ year % 400 = 0)

/- The number of days in a month, or none if it is no month. -/
def daysIn
    (year : Int)
    (month : Nat) : Nat :=
  if month = 2 then
    if isLeap year then 29 else 28
  else if month ∈ [4, 6, 9, 11] then
    30
  else if 1 ≤ month ∧ month ≤ 12 then
    31
  else
    0

/- The first and the last year that can be computed with. -/
def firstYear : Int :=
  -262143

def lastYear : Int :=
  262142

/-
  A year. One with a sign may have any number of digits, and
  one without has four at most.
-/
def year?
    (cs : List Char) : Option (Int × List Char) :=
  match skipBlanks cs with
  | '-' :: rest => do
      let (n, rest) ← digits? rest.length rest
      return (-(n : Int), rest)
  | '+' :: rest => do
      let (n, rest) ← digits? rest.length rest
      return (n, rest)
  | front => do
      let (n, rest) ← digits? 4 front
      return (n, rest)

/- What stands behind a date. -/
def afterDate?
    (cs : List Char) : Option (List Char) := do
  let (year, cs) ← year? cs
  let (month, cs) ← number? (← afterMark? '-' cs)
  let (day, cs) ← number? (← afterMark? '-' cs)
  if firstYear ≤ year ∧ year ≤ lastYear
      ∧ 1 ≤ day ∧ day ≤ daysIn year month then
    return cs
  else
    none

------------------------------------------------------------
-- Times of day
------------------------------------------------------------

/- What stands behind the parts of a second, if there are. -/
def afterFraction? : List Char → Option (List Char)
  | '.' :: rest =>
      match rest.span Char.isDigit with
      | (_ :: _, after) => some after
      | ([], _) => none
  | cs => some cs

/- What stands behind a time of day. -/
def afterClock?
    (cs : List Char) : Option (List Char) := do
  let (hour, cs) ← number? cs
  let (minute, cs) ← number? (← afterMark? ':' cs)
  let (second, cs) ← number? (← afterMark? ':' cs)
  let cs ← afterFraction? cs
  -- the 60th second is one that was put in
  if hour ≤ 23 ∧ minute ≤ 59 ∧ second ≤ 60 then
    return cs
  else
    none

------------------------------------------------------------
-- Offsets
------------------------------------------------------------

/- The number of two digits, and what stands behind them. -/
def twoDigits? : List Char → Option (Nat × List Char)
  | a :: b :: rest =>
      if a.isDigit ∧ b.isDigit then
        some (Text.digitsToNat [a, b], rest)
      else
        none
  | _ => none

/- What stands behind hours and minutes. -/
def afterHours?
    (cs : List Char) : Option (List Char) := do
  let (hours, cs) ← twoDigits? cs
  let (minutes, cs) ← twoDigits?
    (cs.dropWhile fun c => c == ':' || Text.isBlank c)
  if minutes ≤ 59 ∧ hours ≤ 23 then
    return cs
  else
    none

/- The signs of hours that are ahead or behind. -/
def signs : List Char :=
  ['+', '-', '\u2212']

/- What stands behind the distance from Greenwich. -/
def afterOffset?
    (cs : List Char) : Option (List Char) :=
  let front := skipBlanks cs
  if (front.take 3).map Char.toLower = "utc".toList then
    some (front.drop 3)
  else
    match front with
    | c :: rest =>
        if c = 'Z' ∨ c = 'z' then
          some rest
        else if c ∈ signs then
          afterHours? rest
        else
          none
    | [] => none

------------------------------------------------------------
-- Moments
------------------------------------------------------------

/- What stands behind the mark between a date and a time. -/
def afterBreak? : List Char → Option (List Char)
  | c :: rest =>
      if c ∈ ['t', 'T', ' '] then some rest else none
  | [] => none

/- What stands behind a moment. -/
def afterMoment?
    (cs : List Char) : Option (List Char) := do
  let cs ← afterDate? cs
  let cs ← afterBreak? cs
  let cs ← afterClock? cs
  afterOffset? cs

/- Whether a text writes a moment. -/
def isMoment
    (s : String) : Bool :=
  match afterMoment? s.toList with
  | some rest => rest.all Text.isBlank
  | none => false

end Timestamp
end WorkspaceClient
