import WorkspaceClient.Proofs.Glob.Reading

/-
  This file shows that scanning a pattern gives the pieces
  of its tokens, or the fault of the class that has no end.

  Key definitions include:
    * `Glob.mark`
    * `Glob.marks`
    * `Glob.Token.piece`
    * `Glob.Ending.scanned`

  Main declarations:
    * `Glob.scanBody_of_readsBody`
    * `Glob.scanPieces_of_reads`
-/

namespace WorkspaceClient
namespace Glob

------------------------------------------------------------
-- Bodies of classes
------------------------------------------------------------

/-
  The mark of a member before others. A dash without a
  backslash connects unless it is the first member or the
  last one.
-/
def mark
    (first : Bool)
    (others : List Member) : Member → Mark
  | .escaped c => .member c
  | .plain c =>
      if c = '-' ∧ first = false ∧ others ≠ [] then
        .dash
      else
        .member c

/- The marks of a body. -/
def marks
    (first : Bool) : List Member → List Mark
  | [] => []
  | m :: ms => mark first ms m :: marks false ms

/- The result of scanning a body. -/
def BodyEnd.scanned
    (position : Nat)
    (ms : List Mark) :
    BodyEnd → Except Fault (List Mark × List Char)
  | closed rest => .ok (ms, rest)
  | unterminated => .error (.unterminatedClass position)
  | dangling => .error (.danglingEscape position)

theorem scanBody_plain
    (position : Nat)
    (first : Bool)
    (c : Char)
    (cs : List Char)
    (hEscape : c ≠ '\\')
    (hClosing : c = ']' → first = true) :
    scanBody position first (c :: cs) =
      (scanBody position false cs).map fun (ms, rest) =>
        ((if c == '-' && !first && cs.head?.any (· != ']') then
            .dash
          else
            .member c) :: ms, rest) := by
  have hOpen : ¬ (c = ']' ∧ (!first) = true) := by
    rintro ⟨hBracket, hLater⟩
    rw [hClosing hBracket] at hLater
    simp at hLater
  rw [scanBody.eq_4]
  · rw [if_neg hOpen]
    cases scanBody position false cs with
    | error fault => rfl
    | ok result => rfl
  · intro hSame
    exact absurd hSame hEscape
  · intro d rest hSame
    exact absurd hSame hEscape

/-
  A dash is followed by something else than a bracket if it
  is followed by a member.
-/
theorem ReadsBody.head_any
    {cs rest : List Char}
    {ms : List Member}
    (h : ReadsBody false cs ms (.closed rest)) :
    cs.head?.any (· != ']') = !ms.isEmpty := by
  cases h with
  | closed _ => rfl
  | escaped _ c _ => rfl
  | plain _ c _ hClosing _ =>
      have hOther : c ≠ ']' := by
        intro hSame
        simpa using hClosing hSame
      simpa using hOther

/- Scanning a body gives its marks. -/
theorem scanBody_of_readsBody
    {first : Bool}
    {cs : List Char}
    {ms : List Member}
    {ending : BodyEnd}
    (position : Nat)
    (h : ReadsBody first cs ms ending) :
    scanBody position first cs =
      ending.scanned position (marks first ms) := by
  induction h with
  | unterminated first => rfl
  | dangling first => rfl
  | closed rest => rfl
  | @escaped cs ms ending first c _ ih =>
      rw [scanBody, ih]
      cases ending <;> rfl
  | @plain cs ms ending first c hEscape hClosing hRest ih =>
      rw [scanBody_plain position first c cs hEscape hClosing,
        ih]
      cases ending with
      | unterminated => rfl
      | dangling => rfl
      | closed rest =>
          have hNext := hRest.head_any
          have hConnects :
              (c == '-' && !first
                && cs.head?.any (· != ']')) = true ↔
                c = '-' ∧ first = false ∧ ms ≠ [] := by
            rw [hNext]
            cases first <;> simp
          simp only [BodyEnd.scanned, Except.map, marks, mark]
          by_cases hDash : c = '-' ∧ first = false ∧ ms ≠ []
          · rw [if_pos hDash, if_pos (hConnects.mpr hDash)]
          · rw [if_neg hDash,
              if_neg (fun hAll => hDash (hConnects.mp hAll))]

------------------------------------------------------------
-- Patterns
------------------------------------------------------------

theorem ReadsSign.isNegation
    {cs body : List Char}
    {negated : Bool}
    (h : ReadsSign cs negated body) :
    isNegation cs = negated ∧ afterNegation cs = body := by
  cases h with
  | negated c hSign =>
      have hNegation : Glob.isNegation (c :: body) = true := by
        simpa [Glob.isNegation] using hSign
      unfold afterNegation
      rw [hNegation]
      exact ⟨rfl, rfl⟩
  | unsigned hSign =>
      have hNegation : Glob.isNegation cs = false := by
        cases cs with
        | nil => rfl
        | cons c rest =>
            simpa [Glob.isNegation] using hSign c rest rfl
      unfold afterNegation
      rw [hNegation]
      exact ⟨rfl, rfl⟩

/- The piece of a token. -/
def Token.piece : Token → Piece
  | anyRun => .anyRun
  | anyChar => .anyChar
  | char c => .literal c
  | oneOf negated ms => .bracket negated (marks true ms)

/- The result of scanning a pattern. -/
def Ending.scanned
    (pieces : List Piece) :
    Ending → Except Fault (List Piece)
  | complete => .ok pieces
  | unterminated position =>
      .error (.unterminatedClass position)
  | dangling position => .error (.danglingEscape position)

/- One more piece comes before the others. -/
theorem scanned_cons
    (ending : Ending)
    (piece : Piece)
    (pieces : List Piece) :
    (do return piece :: (← ending.scanned pieces)) =
      ending.scanned (piece :: pieces) := by
  cases ending <;> rfl

theorem scanPieces_class
    {position : Nat}
    {cs rest : List Char}
    {ms : List Mark}
    (hBody :
      scanBody position true (afterNegation cs) =
        .ok (ms, rest)) :
    scanPieces position ('[' :: cs) =
      (do
        let pieces ← scanPieces
          (position + (cs.length + 1 - rest.length)) rest
        return .bracket (isNegation cs) ms :: pieces) := by
  rw [scanPieces]
  split
  · next fault hFault =>
      rw [hFault] at hBody
      simp at hBody
  · next ms' rest' hOk =>
      rw [hOk, Except.ok.injEq, Prod.mk.injEq] at hBody
      rcases hBody with ⟨rfl, rfl⟩
      rfl

theorem scanPieces_badClass
    {position : Nat}
    {cs : List Char}
    {fault : Fault}
    (hBody :
      scanBody position true (afterNegation cs) =
        .error fault) :
    scanPieces position ('[' :: cs) = .error fault := by
  rw [scanPieces]
  split
  · next fault' hFault =>
      rw [hFault, Except.error.injEq] at hBody
      rw [hBody]
  · next ms rest hOk =>
      rw [hOk] at hBody
      simp at hBody

theorem scanPieces_char
    (position : Nat)
    (c : Char)
    (cs : List Char)
    (hPlain : c ∉ ['*', '?', '\\', '[']) :
    scanPieces position (c :: cs) =
      (do
        return .literal c
          :: (← scanPieces (position + 1) cs)) := by
  simp only [List.mem_cons, List.not_mem_nil, or_false,
    not_or] at hPlain
  rcases hPlain with ⟨hRun, hAny, hEscape, hClass⟩
  rw [scanPieces.eq_7]
  · exact hRun
  · exact hAny
  · intro hSame
    exact absurd hSame hEscape
  · intro d rest hSame
    exact absurd hSame hEscape
  · exact hClass

/- Scanning a pattern gives the pieces of its tokens. -/
theorem scanPieces_of_reads
    {position : Nat}
    {cs : List Char}
    {ts : List Token}
    {ending : Ending}
    (h : Reads position cs ts ending) :
    scanPieces position cs =
      ending.scanned (ts.map Token.piece) := by
  induction h with
  | nil position =>
      rw [scanPieces]
      rfl
  | anyRun _ ih =>
      rw [scanPieces, ih]
      exact scanned_cons _ _ _
  | anyChar _ ih =>
      rw [scanPieces, ih]
      exact scanned_cons _ _ _
  | backslash position =>
      rw [scanPieces]
      rfl
  | escaped c _ ih =>
      rw [scanPieces, ih]
      exact scanned_cons _ _ _
  | @oneOf position cs body rest negated ms ts ending
      hSign hBody _ ih =>
      rcases hSign.isNegation with ⟨hNegation, hAfter⟩
      have hScan := scanBody_of_readsBody position hBody
      rw [← hAfter] at hScan
      rw [scanPieces_class hScan, hNegation, ih]
      exact scanned_cons _ _ _
  | unterminated position hSign hBody =>
      have hScan := scanBody_of_readsBody position hBody
      rw [← hSign.isNegation.2] at hScan
      exact scanPieces_badClass hScan
  | dangling position hSign hBody =>
      have hScan := scanBody_of_readsBody position hBody
      rw [← hSign.isNegation.2] at hScan
      exact scanPieces_badClass hScan
  | char c hPlain _ ih =>
      rw [scanPieces_char _ c _ hPlain, ih]
      exact scanned_cons _ _ _

end Glob
end WorkspaceClient
