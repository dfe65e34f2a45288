/-
  This file defines glob patterns and their reading from
  text.

  A star stands for any run of characters and a question
  mark for any single one. A backslash takes the meaning
  from the character after it. A bracket opens a class of
  characters. Every other character stands for itself.

  Key definitions include:
    * `Glob.Fault`
    * `Glob.Fault.message`
    * `Glob.Mark`
    * `Glob.Piece`
    * `Glob.scanBody`
    * `Glob.scanPieces`
-/

namespace WorkspaceClient
namespace Glob

------------------------------------------------------------
-- Faults
------------------------------------------------------------

/-
  The reasons why a text is not a glob. The position is that
  of the bracket that opens the class. A glob is unreadable
  when its translation is no regular expression.
-/
inductive Fault where
  | unterminatedClass (position : Nat)
  | danglingEscape (position : Nat)
  | unreadable
  deriving DecidableEq, Repr

/- The text of a fault. -/
def Fault.message : Fault → String
  | unterminatedClass position =>
      s!"unterminated character class at position {position}"
  | danglingEscape position =>
      "dangling escape in character class at position "
        ++ toString position
  | unreadable =>
      "regex parse error"

------------------------------------------------------------
-- Pieces
------------------------------------------------------------

/-
  The marks inside a bracket class. A `dash` may connect two
  members; a dash that certainly stands for itself is a
  `member`.
-/
inductive Mark where
  | member (c : Char)
  | dash
  deriving DecidableEq, Repr

/- The pieces of a pattern. -/
inductive Piece where
  | anyRun
  | anyChar
  | literal (c : Char)
  | bracket (negated : Bool) (marks : List Mark)
  deriving DecidableEq, Repr

/-
  The marks of a class body and the text after the closing
  bracket.

  The flag `first` tells whether the next character is the
  first one of the body, where a closing bracket and a dash
  stand for themselves.
-/
def scanBody
    (position : Nat)
    (first : Bool) :
    List Char → Except Fault (List Mark × List Char)
  | [] =>
      .error (.unterminatedClass position)
  | ['\\'] =>
      .error (.danglingEscape position)
  | '\\' :: c :: rest => do
      let (marks, after) ← scanBody position false rest
      return (.member c :: marks, after)
  | c :: rest =>
      if c = ']' ∧ !first then
        .ok ([], rest)
      else do
        let connects :=
          c == '-' && !first && rest.head?.any (· != ']')
        let mark := if connects then .dash else .member c
        let (marks, after) ← scanBody position false rest
        return (mark :: marks, after)

/-
  Scanning a class body leaves less text than it was given.
-/
theorem length_after_scanBody
    {position : Nat}
    {first : Bool}
    {cs after : List Char}
    {marks : List Mark}
    (h : scanBody position first cs = .ok (marks, after)) :
    after.length < cs.length := by
  fun_induction scanBody position first cs
      generalizing marks after with
  | case1 => simp at h
  | case2 => simp at h
  | case3 first c rest ih =>
      cases hr : scanBody position false rest with
      | error e => simp [hr, bind, Except.bind] at h
      | ok r =>
          simp [hr, bind, Except.bind, pure, Except.pure] at h
          have := ih hr
          rw [h.2] at this
          simp only [List.length_cons]
          omega
  | case4 => simp_all
  | case5 _ c rest =>
      rename_i ih
      cases hr : scanBody position false rest with
      | error e => simp [hr, bind, Except.bind] at h
      | ok r =>
          simp [hr, bind, Except.bind, pure, Except.pure] at h
          have := ih hr
          rw [h.2] at this
          simp only [List.length_cons]
          omega

/- Whether a class with this body starts with a negation. -/
def isNegation
    (body : List Char) : Bool :=
  body.head?.any fun c => c == '!' || c == '^'

/- The body of a class without its negation sign. -/
def afterNegation
    (body : List Char) : List Char :=
  if isNegation body then body.tail else body

/-
  The body without its sign is no longer than the body.
-/
theorem length_afterNegation
    (body : List Char) :
    (afterNegation body).length ≤ body.length := by
  unfold afterNegation
  split <;> simp

/-
  The pieces of a pattern, read from left to right. The
  position counts the characters before the rest.
-/
def scanPieces
    (position : Nat)
    (cs : List Char) : Except Fault (List Piece) :=
  match cs with
  | [] => .ok []
  | '*' :: rest => do
      return .anyRun :: (← scanPieces (position + 1) rest)
  | '?' :: rest => do
      return .anyChar :: (← scanPieces (position + 1) rest)
  | ['\\'] => .ok [.literal '\\']
  | '\\' :: c :: rest => do
      return .literal c :: (← scanPieces (position + 2) rest)
  | '[' :: body =>
      match h : scanBody position true (afterNegation body) with
      | .error fault => .error fault
      | .ok (marks, after) => do
          let pieces ← scanPieces
            (position + (body.length + 1 - after.length)) after
          return .bracket (isNegation body) marks :: pieces
  | c :: rest => do
      return .literal c :: (← scanPieces (position + 1) rest)
termination_by cs.length
decreasing_by
  all_goals decreasing_with
    first
    | omega
    | have := length_after_scanBody h
      have := length_afterNegation body
      omega

end Glob
end WorkspaceClient
