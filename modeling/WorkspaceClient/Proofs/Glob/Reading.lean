import WorkspaceClient.Glob.Pattern
import WorkspaceClient.Regex.CharSet
import WorkspaceClient.Proofs.Regex.Matching

/-
  This file defines what a glob means without regard to any
  regular expression: how a pattern is read into tokens, and
  which pieces of a text a token stands for.

  Every pattern is read in one way, which ends at the end of
  the pattern or in a class that has none.

  Key definitions include:
    * `Glob.Member`
    * `Glob.ReadsBody`
    * `Glob.Token`
    * `Glob.Reads`
    * `Glob.ranges`
    * `Glob.Token.Stands`

  Main declarations:
    * `Glob.exists_reads`
    * `Glob.Reads.allApart`
-/

namespace WorkspaceClient
namespace Glob

open Regex (CharRange)

------------------------------------------------------------
-- Bodies of classes
------------------------------------------------------------

/- A character of a body, with a backslash or without. -/
inductive Member where
  | plain (c : Char)
  | escaped (c : Char)
  deriving DecidableEq, Repr

/- The character that a member shows. -/
def Member.char : Member → Char
  | plain c => c
  | escaped c => c

/- How a body ends: with a bracket and a rest, or never. -/
inductive BodyEnd where
  | closed (rest : List Char)
  | unterminated
  | dangling
  deriving DecidableEq, Repr

/-
  A text is read as the body of a class. The flag tells
  whether the next character is the first one of the body,
  where a closing bracket is a member.
-/
inductive ReadsBody :
    Bool → List Char → List Member → BodyEnd → Prop where
  | unterminated
      (first : Bool) :
      ReadsBody first [] [] .unterminated
  | dangling
      (first : Bool) :
      ReadsBody first ['\\'] [] .dangling
  | closed
      (rest : List Char) :
      ReadsBody false (']' :: rest) [] (.closed rest)
  | escaped
      {cs : List Char}
      {ms : List Member}
      {ending : BodyEnd}
      (first : Bool)
      (c : Char)
      (hRest : ReadsBody false cs ms ending) :
      ReadsBody first ('\\' :: c :: cs) (.escaped c :: ms)
        ending
  | plain
      {cs : List Char}
      {ms : List Member}
      {ending : BodyEnd}
      (first : Bool)
      (c : Char)
      (hEscape : c ≠ '\\')
      (hClosing : c = ']' → first = true)
      (hRest : ReadsBody false cs ms ending) :
      ReadsBody first (c :: cs) (.plain c :: ms) ending

/- What stands after a closed body is shorter. -/
theorem ReadsBody.length_lt
    {first : Bool}
    {cs rest : List Char}
    {ms : List Member}
    (h : ReadsBody first cs ms (.closed rest)) :
    rest.length < cs.length := by
  generalize hEnding : BodyEnd.closed rest = ending at h
  induction h with
  | unterminated first => simp at hEnding
  | dangling first => simp at hEnding
  | closed rest' =>
      cases hEnding
      exact Nat.lt_succ_self _
  | escaped first c _ ih =>
      have hRest := ih hEnding
      simp only [List.length_cons]
      omega
  | plain first c _ _ _ ih =>
      have hRest := ih hEnding
      rw [List.length_cons]
      omega

/- A class has a member. -/
theorem ReadsBody.ne_nil
    {cs rest : List Char}
    {ms : List Member}
    (h : ReadsBody true cs ms (.closed rest)) :
    ms ≠ [] := by
  cases h with
  | escaped _ _ _ => exact List.cons_ne_nil _ _
  | plain _ _ _ _ _ => exact List.cons_ne_nil _ _

/- Every text is read as a body. -/
theorem exists_readsBody
    (first : Bool) :
    ∀ cs, ∃ ms ending, ReadsBody first cs ms ending
  | [] => ⟨[], _, .unterminated first⟩
  | c :: cs => by
      by_cases hEscape : c = '\\'
      · subst hEscape
        cases cs with
        | nil => exact ⟨[], _, .dangling first⟩
        | cons d cs =>
            rcases exists_readsBody false cs with
              ⟨ms, ending, hRest⟩
            exact ⟨_, _, .escaped first d hRest⟩
      · by_cases hClosing : c = ']' → first = true
        · rcases exists_readsBody false cs with
            ⟨ms, ending, hRest⟩
          exact ⟨_, _, .plain first c hEscape hClosing hRest⟩
        · rw [Classical.not_imp, Bool.not_eq_true] at hClosing
          rcases hClosing with ⟨rfl, rfl⟩
          exact ⟨[], _, .closed cs⟩
termination_by cs => cs.length

------------------------------------------------------------
-- Patterns
------------------------------------------------------------

/- The tokens of a pattern. -/
inductive Token where
  | anyRun
  | anyChar
  | char (c : Char)
  | oneOf (negated : Bool) (members : List Member)
  deriving DecidableEq, Repr

/-
  The sign at the start of a class, and the body after it.
-/
inductive ReadsSign :
    List Char → Bool → List Char → Prop where
  | negated
      {body : List Char}
      (c : Char)
      (hSign : c = '!' ∨ c = '^') :
      ReadsSign (c :: body) true body
  | unsigned
      {body : List Char}
      (hSign :
        ∀ c rest, body = c :: rest → c ≠ '!' ∧ c ≠ '^') :
      ReadsSign body false body

/-
  How a pattern ends: at its end, or in the class at a
  position.
-/
inductive Ending where
  | complete
  | unterminated (position : Nat)
  | dangling (position : Nat)
  deriving DecidableEq, Repr

/-
  A text that starts at a position of a pattern is read as
  tokens.
-/
inductive Reads :
    Nat → List Char → List Token → Ending → Prop where
  | nil
      (position : Nat) :
      Reads position [] [] .complete
  | anyRun
      {position : Nat}
      {cs : List Char}
      {ts : List Token}
      {ending : Ending}
      (hRest : Reads (position + 1) cs ts ending) :
      Reads position ('*' :: cs) (.anyRun :: ts) ending
  | anyChar
      {position : Nat}
      {cs : List Char}
      {ts : List Token}
      {ending : Ending}
      (hRest : Reads (position + 1) cs ts ending) :
      Reads position ('?' :: cs) (.anyChar :: ts) ending
  | backslash
      (position : Nat) :
      Reads position ['\\'] [.char '\\'] .complete
  | escaped
      {position : Nat}
      {cs : List Char}
      {ts : List Token}
      {ending : Ending}
      (c : Char)
      (hRest : Reads (position + 2) cs ts ending) :
      Reads position ('\\' :: c :: cs) (.char c :: ts) ending
  | oneOf
      {position : Nat}
      {cs body rest : List Char}
      {negated : Bool}
      {ms : List Member}
      {ts : List Token}
      {ending : Ending}
      (hSign : ReadsSign cs negated body)
      (hBody : ReadsBody true body ms (.closed rest))
      (hRest :
        Reads (position + (cs.length + 1 - rest.length)) rest
          ts ending) :
      Reads position ('[' :: cs) (.oneOf negated ms :: ts)
        ending
  | unterminated
      {cs body : List Char}
      {negated : Bool}
      {ms : List Member}
      (position : Nat)
      (hSign : ReadsSign cs negated body)
      (hBody : ReadsBody true body ms .unterminated) :
      Reads position ('[' :: cs) [] (.unterminated position)
  | dangling
      {cs body : List Char}
      {negated : Bool}
      {ms : List Member}
      (position : Nat)
      (hSign : ReadsSign cs negated body)
      (hBody : ReadsBody true body ms .dangling) :
      Reads position ('[' :: cs) [] (.dangling position)
  | char
      {position : Nat}
      {cs : List Char}
      {ts : List Token}
      {ending : Ending}
      (c : Char)
      (hPlain : c ∉ ['*', '?', '\\', '['])
      (hRest : Reads (position + 1) cs ts ending) :
      Reads position (c :: cs) (.char c :: ts) ending

theorem exists_readsSign
    (cs : List Char) :
    ∃ negated body,
      ReadsSign cs negated body ∧
        body.length ≤ cs.length := by
  cases cs with
  | nil => exact ⟨false, [], .unsigned (by simp), Nat.le_refl _⟩
  | cons c cs =>
      by_cases hSign : c = '!' ∨ c = '^'
      · exact ⟨true, cs, .negated c hSign, Nat.le_succ _⟩
      · refine ⟨false, c :: cs, .unsigned ?_, Nat.le_refl _⟩
        intro d rest hEq
        cases hEq
        exact not_or.mp hSign

/- Every pattern is read. -/
theorem exists_reads
    (position : Nat) :
    ∀ cs, ∃ ts ending, Reads position cs ts ending
  | [] => ⟨[], _, .nil position⟩
  | c :: cs => by
      by_cases hRun : c = '*'
      · subst hRun
        rcases exists_reads (position + 1) cs with
          ⟨ts, ending, hRest⟩
        exact ⟨_, _, .anyRun hRest⟩
      by_cases hAny : c = '?'
      · subst hAny
        rcases exists_reads (position + 1) cs with
          ⟨ts, ending, hRest⟩
        exact ⟨_, _, .anyChar hRest⟩
      by_cases hEscape : c = '\\'
      · subst hEscape
        cases cs with
        | nil => exact ⟨_, _, .backslash position⟩
        | cons d cs =>
            rcases exists_reads (position + 2) cs with
              ⟨ts, ending, hRest⟩
            exact ⟨_, _, .escaped d hRest⟩
      by_cases hClass : c = '['
      · subst hClass
        rcases exists_readsSign cs with
          ⟨negated, body, hSign, hLength⟩
        rcases exists_readsBody true body with
          ⟨ms, rest | _ | _, hBody⟩
        · have hShorter := hBody.length_lt
          rcases exists_reads
              (position + (cs.length + 1 - rest.length)) rest
            with ⟨ts, ending, hRest⟩
          exact ⟨_, _, .oneOf hSign hBody hRest⟩
        · exact ⟨[], _, .unterminated position hSign hBody⟩
        · exact ⟨[], _, .dangling position hSign hBody⟩
      · rcases exists_reads (position + 1) cs with
          ⟨ts, ending, hRest⟩
        refine ⟨_, _, .char c ?_ hRest⟩
        simp [hRun, hAny, hEscape, hClass]
termination_by cs => cs.length

------------------------------------------------------------
-- Meaning
------------------------------------------------------------

/-
  The single members and the ranges of a body, read from
  left to right. A dash between two members makes a range of
  them, unless it is escaped.
-/
def ranges : List Member → List CharRange
  | first :: .plain '-' :: last :: rest =>
      ⟨first.char, last.char⟩ :: ranges rest
  | m :: rest => .single m.char :: ranges rest
  | [] => []

/- Whether no range of a body is reversed. -/
def IsOrdered
    (ms : List Member) : Prop :=
  ∀ r ∈ ranges ms, r.first ≤ r.last

/- Whether a character lies in a range of a body. -/
def InRanges
    (ms : List Member)
    (c : Char) : Prop :=
  ∃ r ∈ ranges ms, r.first ≤ c ∧ c ≤ r.last

/- Whether a class stands for a character. -/
def Accepts
    (negated : Bool)
    (ms : List Member)
    (c : Char) : Prop :=
  if negated then ¬ InRanges ms c else InRanges ms c

/- The pieces of a text that a token stands for. -/
def Token.Stands : Token → List Char → Prop
  | anyRun, _ => True
  | anyChar, piece => ∃ c, piece = [c]
  | char c, piece => piece = [c]
  | oneOf negated ms, piece =>
      ∃ c, piece = [c] ∧ Accepts negated ms c

/- Whether no range of a pattern is reversed. -/
def AllOrdered
    (ts : List Token) : Prop :=
  ∀ negated ms, .oneOf negated ms ∈ ts → IsOrdered ms

------------------------------------------------------------
-- Neighbouring dashes
------------------------------------------------------------

/- Whether two dashes without backslashes are neighbours. -/
def HasDoubleDash
    (ms : List Member) : Prop :=
  [.plain '-', .plain '-'] <:+: ms

/- Whether no class of a pattern has neighbouring dashes. -/
def AllApart
    (ts : List Token) : Prop :=
  ∀ negated ms, .oneOf negated ms ∈ ts → ¬ HasDoubleDash ms

/- Dashes in a row in a body are so in the text. -/
theorem ReadsBody.double_dash
    {first : Bool}
    {cs : List Char}
    {ms : List Member}
    {ending : BodyEnd}
    (h : ReadsBody first cs ms ending)
    (hDouble : HasDoubleDash ms) :
    ['-', '-'] <:+: cs := by
  unfold HasDoubleDash at hDouble
  induction h with
  | unterminated _ => simp at hDouble
  | dangling _ => simp at hDouble
  | closed _ => simp at hDouble
  | escaped first c hRest ih =>
      rw [List.infix_cons_iff] at hDouble
      rcases hDouble with hPrefix | hInfix
      · rw [List.cons_prefix_cons] at hPrefix
        cases hPrefix.1
      · exact
          List.infix_cons (List.infix_cons (ih hInfix))
  | plain first c _ _ hRest ih =>
      rw [List.infix_cons_iff] at hDouble
      rcases hDouble with hPrefix | hInfix
      · rw [List.cons_prefix_cons] at hPrefix
        rcases hPrefix with ⟨hFirst, hPrefix⟩
        cases hFirst
        cases hRest with
        | unterminated _ => simp at hPrefix
        | dangling _ => simp at hPrefix
        | closed _ => simp at hPrefix
        | escaped _ _ _ => simp at hPrefix
        | @plain cs' _ _ _ d _ _ _ =>
            rw [List.cons_prefix_cons] at hPrefix
            cases hPrefix.1
            exact ⟨[], cs', rfl⟩
      · exact List.infix_cons (ih hInfix)

/- What stands after a body is the end of the text. -/
theorem ReadsBody.suffix
    {first : Bool}
    {cs rest : List Char}
    {ms : List Member}
    (h : ReadsBody first cs ms (.closed rest)) :
    rest <:+ cs := by
  generalize hEnding : BodyEnd.closed rest = ending at h
  induction h with
  | unterminated first => simp at hEnding
  | dangling first => simp at hEnding
  | closed rest' =>
      cases hEnding
      exact List.suffix_cons _ _
  | escaped first c _ ih =>
      exact
        (ih hEnding).trans
          ((List.suffix_cons _ _).trans
            (List.suffix_cons _ _))
  | plain first c _ _ _ ih =>
      exact (ih hEnding).trans (List.suffix_cons _ _)

theorem ReadsSign.suffix
    {cs body : List Char}
    {negated : Bool}
    (h : ReadsSign cs negated body) :
    body <:+ cs := by
  cases h with
  | negated c _ => exact List.suffix_cons c body
  | unsigned _ => exact List.suffix_refl cs

/- Classes are apart if a text has no dashes in a row. -/
theorem Reads.allApart
    {position : Nat}
    {cs : List Char}
    {ts : List Token}
    {ending : Ending}
    (h : Reads position cs ts ending)
    (hText : ¬ ['-', '-'] <:+: cs) :
    AllApart ts := by
  have hOther :
      ∀ {t : Token} {ts : List Token},
        (∀ negated ms, t ≠ .oneOf negated ms) →
        AllApart ts →
          AllApart (t :: ts) := by
    intro t ts hClass hOthers negated ms hMem
    rcases List.mem_cons.mp hMem with rfl | hMem
    · exact absurd rfl (hClass negated ms)
    · exact hOthers negated ms hMem
  have hNone : AllApart [] := by
    intro negated ms hMem
    simp at hMem
  induction h with
  | nil _ => exact hNone
  | anyRun _ ih =>
      exact
        hOther (by simp)
          (ih fun hRest => hText (List.infix_cons hRest))
  | anyChar _ ih =>
      exact
        hOther (by simp)
          (ih fun hRest => hText (List.infix_cons hRest))
  | backslash _ => exact hOther (by simp) hNone
  | escaped c _ ih =>
      exact
        hOther (by simp)
          (ih fun hRest =>
            hText (List.infix_cons (List.infix_cons hRest)))
  | oneOf hSign hBody _ ih =>
      have hBodyText := hSign.suffix.isInfix
      have hRestText := hBody.suffix.isInfix.trans hBodyText
      intro negated' ms' hMem
      rcases List.mem_cons.mp hMem with hSame | hMem
      · cases hSame
        intro hDouble
        exact
          hText (List.infix_cons
            ((hBody.double_dash hDouble).trans hBodyText))
      · refine ih (fun hRest => ?_) negated' ms' hMem
        exact hText (List.infix_cons (hRest.trans hRestText))
  | unterminated _ _ _ => exact hNone
  | dangling _ _ _ => exact hNone
  | char c _ _ ih =>
      exact
        hOther (by simp)
          (ih fun hRest => hText (List.infix_cons hRest))

end Glob
end WorkspaceClient
