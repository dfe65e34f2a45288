import Mathlib.Data.List.TakeWhile
import Mathlib.Logic.Function.Basic
import WorkspaceClient.Proofs.Session

/-
  This file shows what two savings at one path leave behind
  when their steps are taken in any order.

  Every step is one change of the file system. A file that
  is open is not opened again for its write, so a document
  is written over whatever the file holds by then. The later
  document is all of the file if the file was emptied in
  between, or if nothing but blanks of the earlier document
  stands behind it.

  Key definitions include:
    * `SessionFile.Race`
    * `SessionFile.Race.run`
    * `SessionFile.Race.Saved`
    * `SessionFile.Race.Stage`
    * `SessionFile.Race.Going`

  Main declarations:
    * `SessionFile.Race.run_alone`
    * `SessionFile.Race.Stage.step`
    * `SessionFile.Race.Going.run`
    * `SessionFile.Race.load_run`
-/

namespace WorkspaceClient
namespace SessionFile

------------------------------------------------------------
-- Savers
------------------------------------------------------------

/- The two that save at one path. -/
inductive Saver where
  | first
  | second
  deriving DecidableEq, Repr

/- The saver that a saver runs against. -/
def Saver.other : Saver → Saver
  | first => second
  | second => first

theorem Saver.eq_or_other
    (a b : Saver) :
    b = a ∨ b = a.other := by
  cases a <;> cases b <;> simp [Saver.other]

@[simp] theorem Saver.other_other
    (a : Saver) :
    a.other.other = a := by
  cases a <;> rfl

------------------------------------------------------------
-- Races
------------------------------------------------------------

/-
  How far a saving is: the steps that are left, or the fault
  for which it was refused.
-/
inductive Progress where
  | saving (left : List Step)
  | refused (fault : Files.Fault)
  deriving DecidableEq, Repr

/- How far a saving is once it takes no more steps. -/
def Progress.ended : Option Files.Fault → Progress
  | none => .saving []
  | some fault => .refused fault

/-
  Two savings in progress: the file system, how far each of
  them is, and the steps that were taken, in order.
-/
structure Race where
  files : Files
  progress : Saver → Progress
  taken : List (Saver × Step)

namespace Race

/- A race before any step. -/
def start
    (sessions : Saver → Session)
    (fs : Files) : Race where
  files := fs
  progress := fun saver =>
    .saving (saveSteps (sessions saver))
  taken := []

/- A saver has taken a step, and others are left. -/
def advance
    (race : Race)
    (saver : Saver)
    (step : Step)
    (left : List Step)
    (fs : Files) : Race where
  files := fs
  progress :=
    Function.update race.progress saver (.saving left)
  taken := race.taken ++ [(saver, step)]

/- A step of a saver was refused. -/
def refuse
    (race : Race)
    (saver : Saver)
    (fault : Files.Fault) : Race :=
  { race with
    progress :=
      Function.update race.progress saver (.refused fault) }

/- A saver takes its next step, if it has one. -/
def turn
    (path : Path)
    (race : Race)
    (saver : Saver) : Race :=
  match race.progress saver with
  | .saving (step :: left) =>
      match step.run path race.files with
      | .ok fs => race.advance saver step left fs
      | .error fault => race.refuse saver fault
  | _ => race

/- The savers take their turns as scheduled. -/
def run
    (path : Path)
    (race : Race)
    (schedule : List Saver) : Race :=
  schedule.foldl (turn path) race

/- Whether both savings have succeeded. -/
def Saved
    (race : Race) : Prop :=
  ∀ saver, race.progress saver = .saving []

------------------------------------------------------------
-- Undisturbed savings
------------------------------------------------------------

section

variable {path : Path}
variable {race : Race}
variable {saver : Saver}

theorem turn_taken
    {step : Step}
    {left : List Step}
    {fs : Files}
    (hLeft : race.progress saver = .saving (step :: left))
    (hStep : step.run path race.files = .ok fs) :
    race.turn path saver =
      race.advance saver step left fs := by
  simp only [turn, hLeft, hStep]

theorem turn_refused
    {step : Step}
    {left : List Step}
    {fault : Files.Fault}
    (hLeft : race.progress saver = .saving (step :: left))
    (hStep : step.run path race.files = .error fault) :
    race.turn path saver = race.refuse saver fault := by
  simp only [turn, hLeft, hStep]

/- After a refusal, a saver takes no more steps. -/
theorem run_refused
    {fault : Files.Fault}
    (hRefused : race.progress saver = .refused fault)
    (n : Nat) :
    race.run path (List.replicate n saver) = race := by
  induction n with
  | zero => rfl
  | succ n ih =>
      have hTurn : race.turn path saver = race := by
        rw [turn, hRefused]
      rw [List.replicate_succ, run, List.foldl_cons, hTurn]
      exact ih

/-
  A saver that is not disturbed takes its steps as it does
  without a race.
-/
theorem run_alone
    (steps : List Step)
    (hSteps : race.progress saver = .saving steps) :
    let alone :=
      race.run path (List.replicate steps.length saver)
    let outcome := runSteps path race.files steps
    alone.files = outcome.2 ∧
      alone.progress saver = .ended outcome.1 := by
  induction steps generalizing race with
  | nil => exact ⟨rfl, hSteps⟩
  | cons step steps ih =>
      rw [List.length_cons, List.replicate_succ, run,
        List.foldl_cons, runSteps]
      cases hStep : step.run path race.files with
      | ok fs =>
          rw [turn_taken hSteps hStep]
          exact ih (Function.update_self saver _ _)
      | error fault =>
          have hRefused :
              (race.refuse saver fault).progress saver =
                .refused fault :=
            Function.update_self saver _ _
          have hStays :
              (List.replicate steps.length saver).foldl
                  (turn path) (race.refuse saver fault) =
                race.refuse saver fault :=
            run_refused hRefused steps.length
          rw [turn_refused hSteps hStep, hStays]
          exact ⟨rfl, hRefused⟩

end

------------------------------------------------------------
-- Steps that were taken
------------------------------------------------------------

/- The steps of one saver, in order. -/
def stepsOf
    (taken : List (Saver × Step))
    (saver : Saver) : List Step :=
  (taken.filter fun t => t.1 = saver).map Prod.snd

/- Whether a step writes a document. -/
def isWrite : Step → Bool
  | .write _ => true
  | _ => false

/- The savers that have written, in order. -/
def writers
    (taken : List (Saver × Step)) : List Saver :=
  (taken.filter fun t => isWrite t.2).map Prod.fst

/- The first write and all that was done after it. -/
def sinceWrite
    (taken : List (Saver × Step)) : List (Saver × Step) :=
  taken.dropWhile fun t => !isWrite t.2

theorem mem_stepsOf_iff
    {taken : List (Saver × Step)}
    {saver : Saver}
    {step : Step} :
    step ∈ stepsOf taken saver ↔ (saver, step) ∈ taken := by
  simp [stepsOf]

theorem stepsOf_concat
    (taken : List (Saver × Step))
    (saver a : Saver)
    (step : Step) :
    stepsOf (taken ++ [(saver, step)]) a =
      stepsOf taken a ++ (if saver = a then [step] else []) := by
  unfold stepsOf
  by_cases hSame : saver = a
  · simp [hSame]
  · simp [hSame]

theorem writers_concat
    (taken : List (Saver × Step))
    (saver : Saver)
    (step : Step) :
    writers (taken ++ [(saver, step)]) =
      writers taken ++ (if isWrite step then [saver] else [])
    := by
  unfold writers
  by_cases hWrite : isWrite step = true
  · simp [hWrite]
  · simp [hWrite]

/- Who has written has taken the step of writing. -/
theorem mem_writers_iff
    {taken : List (Saver × Step)}
    {saver : Saver} :
    saver ∈ writers taken ↔
      ∃ document, .write document ∈ stepsOf taken saver := by
  unfold writers
  simp only [List.mem_map, List.mem_filter, mem_stepsOf_iff]
  constructor
  · rintro ⟨⟨a, step⟩, ⟨hTaken, hWrite⟩, rfl⟩
    cases step with
    | write document => exact ⟨document, hTaken⟩
    | _ => cases hWrite
  · rintro ⟨document, hTaken⟩
    exact ⟨_, ⟨hTaken, rfl⟩, rfl⟩

theorem sinceWrite_eq_nil_iff
    {taken : List (Saver × Step)} :
    sinceWrite taken = [] ↔ writers taken = [] := by
  simp [sinceWrite, writers, List.dropWhile_eq_nil_iff]

/- The first write is where the writes begin. -/
theorem sinceWrite_unwritten
    {taken : List (Saver × Step)}
    (hUnwritten : writers taken = [])
    (more : List (Saver × Step)) :
    sinceWrite (taken ++ more) = sinceWrite more := by
  have hNone : (sinceWrite taken).isEmpty = true := by
    rwa [List.isEmpty_iff, sinceWrite_eq_nil_iff]
  unfold sinceWrite at hNone ⊢
  rw [List.dropWhile_append, hNone]
  rfl

/- After a write, every step comes after the first write. -/
theorem sinceWrite_append
    {taken : List (Saver × Step)}
    (hWritten : writers taken ≠ [])
    (more : List (Saver × Step)) :
    sinceWrite (taken ++ more) = sinceWrite taken ++ more := by
  have hSome : (sinceWrite taken).isEmpty = false := by
    rw [Bool.eq_false_iff, Ne, List.isEmpty_iff,
      sinceWrite_eq_nil_iff]
    exact hWritten
  unfold sinceWrite at hSome ⊢
  rw [List.dropWhile_append, hSome]
  rfl

/-
  Which step of a saving follows on the steps before it.
-/
theorem saveSteps_cases
    {session : Session}
    {before after : List Step}
    {step : Step}
    (hSteps : before ++ step :: after = saveSteps session) :
    (before = [] ∧ step = .createParents) ∨
      (before = [.createParents] ∧ step = .openEmpty) ∨
      (before = [.createParents, .openEmpty] ∧
        step = .write session.document) ∨
      (.write session.document ∈ before ∧
        step = .restrict) := by
  unfold saveSteps at hSteps
  rcases before with _ | ⟨a, _ | ⟨b, _ | ⟨c, _ | ⟨d, rest⟩⟩⟩⟩
  all_goals simp_all

------------------------------------------------------------
-- Stages
------------------------------------------------------------

/-
  What stands in the file of two savings, by the documents
  that were written: nothing if it was only opened, the one
  document unless the other saver has emptied the file
  since, or the later document before what it left of the
  earlier one.
-/
inductive Stage
    (path : Path)
    (sessions : Saver → Session)
    (taken : List (Saver × Step))
    (fs : Files) : Prop where
  | unwritten
      (hWriters : writers taken = [])
      (hOpened :
        ∀ saver,
          (saver, .openEmpty) ∈ taken →
            ∃ mode, fs.Holds path mode [])
  | once
      (saver : Saver)
      (mode : Nat)
      (hWriters : writers taken = [saver])
      (hHolds :
        fs.Holds path mode
          (if (saver.other, .openEmpty) ∈ sinceWrite taken then
            []
          else
            (sessions saver).document))
  | twice
      (last : Saver)
      (mode : Nat)
      (hWriters : writers taken = [last.other, last])
      (hHolds :
        fs.Holds path mode
          ((sessions last).document
            ++ if (last, .openEmpty) ∈ sinceWrite taken then
                []
              else
                (sessions last.other).document.drop
                  (sessions last).document.length))

section

variable {path : Path}
variable {sessions : Saver → Session}
variable {taken : List (Saver × Step)}
variable {fs fs' : Files}
variable {saver : Saver}

/- A step that leaves the content leaves the stage. -/
theorem Stage.kept
    {step : Step}
    (h : Stage path sessions taken fs)
    (hRead : isWrite step = false)
    (hOther : step ≠ .openEmpty)
    (hKeeps :
      ∀ mode content,
        fs.Holds path mode content →
          ∃ mode', fs'.Holds path mode' content) :
    Stage path sessions (taken ++ [(saver, step)]) fs' := by
  have hWriters :
      writers (taken ++ [(saver, step)]) = writers taken := by
    rw [writers_concat, hRead]
    exact List.append_nil _
  have hOpens :
      ∀ a more,
        (a, Step.openEmpty) ∈ more ++ [(saver, step)] ↔
          (a, Step.openEmpty) ∈ more := by
    intro a more
    simp [hOther.symm]
  cases h with
  | unwritten hNone hOpened =>
      refine .unwritten (hWriters.trans hNone) ?_
      intro a hOpen
      rcases hOpened a ((hOpens a taken).mp hOpen) with
        ⟨mode, hHolds⟩
      exact hKeeps mode [] hHolds
  | once a mode hOne hHolds =>
      rcases hKeeps mode _ hHolds with ⟨mode', hHolds'⟩
      refine .once a mode' (hWriters.trans hOne) ?_
      rw [sinceWrite_append (by simp [hOne])]
      simpa only [hOpens] using hHolds'
  | twice last mode hTwo hHolds =>
      rcases hKeeps mode _ hHolds with ⟨mode', hHolds'⟩
      refine .twice last mode' (hWriters.trans hTwo) ?_
      rw [sinceWrite_append (by simp [hTwo])]
      simpa only [hOpens] using hHolds'

/- A saver that opens the file empties it. -/
theorem Stage.opened
    (h : Stage path sessions taken fs)
    (hUnwritten : saver ∉ writers taken)
    (hOpen : fs.truncate path = .ok fs') :
    Stage path sessions (taken ++ [(saver, .openEmpty)]) fs'
    := by
  rcases Files.holds_truncate hOpen with ⟨mode, hEmpty⟩
  have hWriters :
      writers (taken ++ [(saver, .openEmpty)]) =
        writers taken := by
    rw [writers_concat]
    exact List.append_nil _
  cases h with
  | unwritten hNone hOpened =>
      exact
        .unwritten (hWriters.trans hNone) fun _ _ =>
          ⟨mode, hEmpty⟩
  | once a _ hOne _ =>
      refine .once a mode (hWriters.trans hOne) ?_
      have hOther : saver = a.other := by
        rcases a.eq_or_other saver with rfl | hOther
        · simp [hOne] at hUnwritten
        · exact hOther
      rw [sinceWrite_append (by simp [hOne]), hOther,
        if_pos (by simp)]
      exact hEmpty
  | twice last _ hTwo _ =>
      rcases last.eq_or_other saver with rfl | rfl
      all_goals simp [hTwo] at hUnwritten

/- A saver that writes puts its document at the start. -/
theorem Stage.written
    (h : Stage path sessions taken fs)
    (hUnwritten : saver ∉ writers taken)
    (hOpened : (saver, .openEmpty) ∈ taken)
    (hWrite :
      fs.writeAtStart path (sessions saver).document =
        .ok fs') :
    Stage path sessions
      (taken ++ [(saver, .write (sessions saver).document)])
      fs' := by
  have hWriters :
      writers
          (taken
            ++ [(saver, .write (sessions saver).document)]) =
        writers taken ++ [saver] :=
    writers_concat taken saver _
  cases h with
  | unwritten hNone hEmpty =>
      rcases hEmpty saver hOpened with ⟨mode, hEmpty⟩
      rw [hNone] at hWriters
      refine .once saver mode hWriters ?_
      have hClosed :
          (saver.other, Step.openEmpty) ∉
            sinceWrite
              [(saver, .write (sessions saver).document)] := by
        simp [sinceWrite, isWrite]
      rw [sinceWrite_unwritten hNone, if_neg hClosed]
      exact hEmpty.writeAtStart hWrite
  | once a mode hOne hHolds =>
      have hOther : a = saver.other := by
        rcases saver.eq_or_other a with rfl | hOther
        · simp [hOne] at hUnwritten
        · exact hOther
      rw [hOne, hOther] at hWriters
      refine .twice saver mode hWriters ?_
      have hOver := hHolds.writeOver hWrite
      rw [hOther, Saver.other_other] at hOver
      rw [sinceWrite_append (by simp [hOne])]
      by_cases hAgain :
          (saver, Step.openEmpty) ∈ sinceWrite taken
      · rw [if_pos (by simp [hAgain])]
        rwa [if_pos hAgain, List.drop_nil] at hOver
      · rw [if_neg (by simp [hAgain])]
        rwa [if_neg hAgain] at hOver
  | twice last _ hTwo _ =>
      rcases last.eq_or_other saver with rfl | rfl
      all_goals simp [hTwo] at hUnwritten

/- Every step of a saving leads from stage to stage. -/
theorem Stage.step
    {step : Step}
    {left : List Step}
    (h : Stage path sessions taken fs)
    (hSteps :
      stepsOf taken saver ++ step :: left =
        saveSteps (sessions saver))
    (hStep : step.run path fs = .ok fs') :
    Stage path sessions (taken ++ [(saver, step)]) fs' := by
  rcases saveSteps_cases hSteps with
    ⟨_, rfl⟩ | ⟨hBefore, rfl⟩ | ⟨hBefore, rfl⟩ | ⟨_, rfl⟩
  · refine h.kept rfl (by simp) ?_
    intro mode content hHolds
    have hSame := hHolds.way.createDirectories_eq
    have hNothing : fs' = fs := by
      rw [Step.run, hSame] at hStep
      cases hStep
      rfl
    exact ⟨mode, hNothing ▸ hHolds⟩
  · apply h.opened _ hStep
    rw [mem_writers_iff, hBefore]
    simp
  · refine h.written ?_ ?_ hStep
    · rw [mem_writers_iff, hBefore]
      simp
    · rw [← mem_stepsOf_iff, hBefore]
      simp
  · refine h.kept rfl (by simp) ?_
    intro mode content hHolds
    exact ⟨0o600, hHolds.setMode hStep⟩

end

------------------------------------------------------------
-- Runs
------------------------------------------------------------

/-
  A race that has not gone beyond its rules: savers take
  their own steps in order, and the file is as their steps
  so far leave it.
-/
structure Going
    (path : Path)
    (sessions : Saver → Session)
    (race : Race) : Prop where
  steps :
    ∀ saver left,
      race.progress saver = .saving left →
        stepsOf race.taken saver ++ left =
          saveSteps (sessions saver)
  stage : Stage path sessions race.taken race.files

section

variable {path : Path}
variable {sessions : Saver → Session}
variable {race : Race}

theorem going_start
    (fs : Files) :
    Going path sessions (start sessions fs) where
  steps := by
    intro saver left hLeft
    cases hLeft
    rfl
  stage := by
    apply Stage.unwritten rfl
    intro saver hOpen
    cases hOpen

/- A step that is taken keeps to the rules. -/
theorem Going.advance
    {saver : Saver}
    {step : Step}
    {left : List Step}
    {fs : Files}
    (h : Going path sessions race)
    (hLeft : race.progress saver = .saving (step :: left))
    (hStep : step.run path race.files = .ok fs) :
    Going path sessions (race.advance saver step left fs) where
  steps := by
    intro a rest hRest
    rw [Race.advance] at hRest ⊢
    simp only at hRest ⊢
    rw [stepsOf_concat]
    by_cases hSame : saver = a
    · rw [← hSame, Function.update_self] at hRest
      cases hRest
      rw [if_pos hSame, ← hSame, List.append_assoc,
        List.singleton_append]
      exact h.steps saver _ hLeft
    · rw [Function.update_of_ne (Ne.symm hSame)] at hRest
      rw [if_neg hSame, List.append_nil]
      exact h.steps a rest hRest
  stage := h.stage.step (h.steps saver _ hLeft) hStep

/- So does a step that is refused. -/
theorem Going.refuse
    (h : Going path sessions race)
    (saver : Saver)
    (fault : Files.Fault) :
    Going path sessions (race.refuse saver fault) where
  steps := by
    intro a rest hRest
    rw [Race.refuse] at hRest ⊢
    simp only at hRest ⊢
    by_cases hSame : a = saver
    · rw [hSame, Function.update_self] at hRest
      cases hRest
    · rw [Function.update_of_ne hSame] at hRest
      exact h.steps a rest hRest
  stage := h.stage

theorem Going.turn
    (h : Going path sessions race)
    (saver : Saver) :
    Going path sessions (race.turn path saver) := by
  unfold Race.turn
  split
  · next step left hLeft =>
      split
      · next fs hStep => exact h.advance hLeft hStep
      · next fault _ => exact h.refuse saver fault
  · exact h

/- Whatever the schedule is, the rules are kept. -/
theorem Going.run
    (h : Going path sessions race)
    (schedule : List Saver) :
    Going path sessions (race.run path schedule) := by
  induction schedule generalizing race with
  | nil => exact h
  | cons saver schedule ih => exact ih (h.turn saver)

/- Where both have saved, both have written. -/
theorem Going.exists_last
    (h : Going path sessions race)
    (hSaved : race.Saved) :
    ∃ last mode,
      writers race.taken = [last.other, last] ∧
        race.files.Holds path mode
          ((sessions last).document
            ++ if (last, .openEmpty) ∈ sinceWrite race.taken
              then []
              else
                (sessions last.other).document.drop
                  (sessions last).document.length) := by
  have hWriters : ∀ saver, saver ∈ writers race.taken := by
    intro saver
    have hSteps := h.steps saver [] (hSaved saver)
    rw [List.append_nil] at hSteps
    rw [mem_writers_iff, hSteps]
    exact ⟨(sessions saver).document, by simp [saveSteps]⟩
  cases h.stage with
  | unwritten hNone _ =>
      have hFirst := hWriters .first
      rw [hNone] at hFirst
      cases hFirst
  | once saver _ hOne _ =>
      have hOther := hWriters saver.other
      rw [hOne, List.mem_singleton] at hOther
      cases saver <;> cases hOther
  | twice last mode hTwo hHolds =>
      exact ⟨last, mode, hTwo, hHolds⟩

end

------------------------------------------------------------
-- What is loaded
------------------------------------------------------------

/-
  A document with the end of another one behind it is loaded
  if no more than a line break is left of the other.
-/
theorem load_of_holds_over
    {path : String}
    {fs : Files}
    {mode : Nat}
    (session other : Session)
    (hHolds :
      fs.Holds (Path.ofText path) mode
        (session.document
          ++ other.document.drop session.document.length)) :
    load path fs =
      if other.document.length ≤ session.document.length + 1
      then
        .ok session
      else
        .error (.unparsable path .malformed) := by
  have hBlank :=
    other.skipBlanks_drop_document session.document.length
  unfold load
  rw [hHolds.read]
  simp only
  rw [session.ofBytes_document_append]
  by_cases hShort :
      other.document.length ≤ session.document.length + 1
  · rw [if_pos (hBlank.mpr hShort), if_pos hShort]
  · rw [if_neg (mt hBlank.mp hShort), if_neg hShort]

/-
  After a race in which both have saved, the session of the
  later writer is loaded if that writer opened the file
  after the first write, or if its document is not shorter
  than the other one by more than the last line break. Else
  the file cannot be read any more.
-/
theorem load_run
    (path : String)
    (sessions : Saver → Session)
    (fs : Files)
    (schedule : List Saver) :
    let race :=
      (start sessions fs).run (Path.ofText path) schedule
    race.Saved →
      ∃ last,
        writers race.taken = [last.other, last] ∧
          load path race.files =
            if (last, .openEmpty) ∈ sinceWrite race.taken ∨
                (sessions last.other).document.length ≤
                  (sessions last).document.length + 1
            then
              .ok (sessions last)
            else
              .error (.unparsable path .malformed) := by
  intro race hSaved
  have hGoing : Going (Path.ofText path) sessions race :=
    (going_start fs).run schedule
  rcases hGoing.exists_last hSaved with
    ⟨last, mode, hWriters, hHolds⟩
  refine ⟨last, hWriters, ?_⟩
  by_cases hAgain :
      (last, Step.openEmpty) ∈ sinceWrite race.taken
  · rw [if_pos hAgain, List.append_nil] at hHolds
    rw [if_pos (.inl hAgain)]
    exact load_of_holds hHolds
  · rw [if_neg hAgain] at hHolds
    rw [load_of_holds_over _ _ hHolds]
    simp only [hAgain, false_or]

/- A session with a token, and one without. -/
def longAndShort : Saver → Session
  | .first => { Session.empty with token := "c2Vzc2lvbj0x" }
  | .second => Session.empty

/-
  Both have opened the file before one of them writes, and
  the shorter document is written last.
-/
theorem load_run_spoilt :
    let race :=
      (start longAndShort Files.empty).run (Path.ofText "/s")
        [.first, .second, .first, .second,
          .first, .second, .first, .second]
    race.Saved ∧
      writers race.taken = [.first, .second] ∧
      load "/s" race.files =
        .error (.unparsable "/s" .malformed) := by
  intro race
  have hSaved : race.Saved := by
    intro saver
    cases saver <;> rfl
  have hBoth : writers race.taken = [.first, .second] := rfl
  rcases load_run "/s" longAndShort Files.empty _ hSaved with
    ⟨last, hWriters, hLoad⟩
  refine ⟨hSaved, hBoth, ?_⟩
  have hLast : last = .second := by
    rw [hBoth] at hWriters
    cases last
    · cases hWriters
    · rfl
  have hLate :
      (Saver.second, Step.openEmpty) ∉ sinceWrite race.taken
      := by
    decide
  have hLonger :
      Session.empty.document.length + 1 <
        (longAndShort .first).document.length := by
    decide
  rw [hLast] at hLoad
  rw [hLoad]
  exact if_neg (not_or.mpr ⟨hLate, Nat.not_le.mpr hLonger⟩)

end Race
end SessionFile
end WorkspaceClient
