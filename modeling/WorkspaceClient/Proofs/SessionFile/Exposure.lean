import WorkspaceClient.Proofs.Session

/-
  This file shows who may read the session file at every
  moment of a saving, also of one that is refused on its way
  and of one that writes only a part of the document.

  A file that is created is for the owner only before
  anything is written. A file that is there already keeps
  its permissions until the last step, so what is written
  before that step is as open as the file was.

  Key definitions include:
    * `SessionFile.Moment`
    * `SessionFile.Phase`
    * `SessionFile.HasPart`
    * `SessionFile.Watched`

  Main declarations:
    * `SessionFile.Moment.phase`
    * `SessionFile.moment_of_save`
    * `SessionFile.moment_of_holds`
    * `SessionFile.save_watched`
-/

namespace WorkspaceClient
namespace SessionFile

------------------------------------------------------------
-- Moments
------------------------------------------------------------

/-
  The files at a moment of a saving, and the steps that were
  taken before it. In the middle of the third step a part of
  the document is written.
-/
inductive Moment
    (path : Path)
    (session : Session)
    (fs now : Files) : List Step → Prop where
  | between
      {steps : List Step}
      (hSteps : steps <+: saveSteps session)
      (hRun : runSteps path fs steps = (none, now)) :
      Moment path session fs now steps
  | writing
      {part : Bytes}
      (hPart : part <+: session.document)
      (hRun :
        runSteps path fs
            [.createParents, .openEmpty, .write part] =
          (none, now)) :
      Moment path session fs now
        [.createParents, .openEmpty, .write part]

/- What stands at the path at a moment of a saving. -/
inductive Phase
    (path : Path)
    (session : Session)
    (fs now : Files) : List Step → Prop where
  | started
      (hSame : now path = fs path) :
      Phase path session fs now []
  | reached
      (hSame : now path = fs path) :
      Phase path session fs now [.createParents]
  | opened
      (hHolds : now.Holds path (fs.openMode path) []) :
      Phase path session fs now [.createParents, .openEmpty]
  | written
      {part : Bytes}
      (hPart : part <+: session.document)
      (hHolds : now.Holds path (fs.openMode path) part) :
      Phase path session fs now
        [.createParents, .openEmpty, .write part]
  | restricted
      (hHolds : now.Holds path 0o600 session.document) :
      Phase path session fs now (saveSteps session)

section

variable {path : Path}
variable {session : Session}
variable {fs now : Files}
variable {steps : List Step}

------------------------------------------------------------
-- Phases
------------------------------------------------------------

/- Steps that are taken first are followed by the others. -/
theorem runSteps_append
    {first : List Step}
    (hRun : runSteps path fs (first ++ steps) = (none, now)) :
    ∃ next,
      runSteps path fs first = (none, next) ∧
        runSteps path next steps = (none, now) := by
  induction first generalizing fs with
  | nil => exact ⟨fs, rfl, hRun⟩
  | cons step first ih =>
      rcases runSteps_cons hRun with ⟨after, hStep, hRest⟩
      rcases ih hRest with ⟨next, hFirst, hSteps⟩
      refine ⟨next, ?_, hSteps⟩
      rw [runSteps, hStep]
      exact hFirst

/- A run of one step is this step. -/
theorem run_of_runSteps
    {step : Step}
    (hRun : runSteps path fs [step] = (none, now)) :
    step.run path fs = .ok now := by
  rcases runSteps_cons hRun with ⟨next, hStep, hEnd⟩
  cases hEnd
  exact hStep

theorem same_of_parents
    (hRun :
      runSteps path fs [.createParents] = (none, now)) :
    now path = fs path :=
  Files.createDirectories_same (run_of_runSteps hRun)

/- The file is empty, and open to whom it was open before. -/
theorem holds_of_opened
    (hRun :
      runSteps path fs [.createParents, .openEmpty] =
        (none, now)) :
    now.Holds path (fs.openMode path) [] := by
  have hSteps :
      [Step.createParents, .openEmpty] =
        [.createParents] ++ [.openEmpty] := rfl
  rw [hSteps] at hRun
  rcases runSteps_append hRun with ⟨next, hParents, hOpen⟩
  have hSame : next.openMode path = fs.openMode path := by
    unfold Files.openMode
    rw [same_of_parents hParents]
  rcases Files.eq_of_truncate (run_of_runSteps hOpen) with
    ⟨hWay, rfl⟩
  rw [hSame]
  exact hWay.holds_put _ []

/- Writing does not change to whom the file is open. -/
theorem holds_of_written
    {part : Bytes}
    (hRun :
      runSteps path fs
          [.createParents, .openEmpty, .write part] =
        (none, now)) :
    now.Holds path (fs.openMode path) part := by
  have hSteps :
      [Step.createParents, .openEmpty, .write part] =
        [.createParents, .openEmpty] ++ [.write part] := rfl
  rw [hSteps] at hRun
  rcases runSteps_append hRun with ⟨next, hOpened, hWrite⟩
  exact
    (holds_of_opened hOpened).writeAtStart
      (run_of_runSteps hWrite)

theorem holds_of_restricted
    (hRun :
      runSteps path fs (saveSteps session) = (none, now)) :
    now.Holds path 0o600 session.document := by
  have hSteps :
      saveSteps session =
        [.createParents, .openEmpty, .write session.document]
          ++ [.restrict] := rfl
  rw [hSteps] at hRun
  rcases runSteps_append hRun with ⟨next, hWritten, hMode⟩
  exact
    (holds_of_written hWritten).setMode (run_of_runSteps hMode)

/- Every moment is in one of the phases. -/
theorem Moment.phase
    (h : Moment path session fs now steps) :
    Phase path session fs now steps := by
  cases h with
  | writing hPart hRun =>
      exact .written hPart (holds_of_written hRun)
  | between hSteps hRun =>
      simp only [saveSteps, List.prefix_cons_iff,
        List.prefix_nil] at hSteps
      rcases hSteps with
        rfl | ⟨_, rfl, rfl | ⟨_, rfl, rfl | ⟨_, rfl,
          rfl | ⟨_, rfl, rfl⟩⟩⟩⟩
      · cases hRun
        exact .started rfl
      · exact .reached (same_of_parents hRun)
      · exact .opened (holds_of_opened hRun)
      · exact .written (List.prefix_refl _)
          (holds_of_written hRun)
      · exact .restricted (holds_of_restricted hRun)

------------------------------------------------------------
-- Savings that are refused
------------------------------------------------------------

/-
  After a refusal the files are as the steps before it left
  them.
-/
theorem exists_taken
    (path : Path)
    (fs : Files)
    (steps : List Step) :
    ∃ taken,
      taken <+: steps ∧
        runSteps path fs taken =
          (none, (runSteps path fs steps).2) := by
  induction steps generalizing fs with
  | nil => exact ⟨[], List.prefix_refl [], rfl⟩
  | cons step steps ih =>
      rw [runSteps]
      cases hStep : step.run path fs with
      | error fault =>
          exact ⟨[], List.nil_prefix, rfl⟩
      | ok next =>
          rcases ih next with ⟨taken, hTaken, hRun⟩
          refine
            ⟨step :: taken,
              List.cons_prefix_cons.mpr ⟨rfl, hTaken⟩, ?_⟩
          rw [runSteps, hStep]
          exact hRun

/- A saving ends in a moment of it, saved or refused. -/
theorem moment_of_save
    (path : String)
    (session : Session)
    (fs : Files) :
    ∃ steps,
      Moment (Path.ofText path) session fs
        (save path session fs).2 steps := by
  rcases exists_taken (Path.ofText path) fs
      (saveSteps session) with
    ⟨taken, hTaken, hRun⟩
  have hEnd :
      (save path session fs).2 =
        (runSteps (Path.ofText path) fs
          (saveSteps session)).2 := by
    unfold save
    split <;> next h => rw [h]
  rw [hEnd]
  exact ⟨taken, .between hTaken hRun⟩

/-
  Every saving over a file comes to the moment at which the
  whole document is as open as the file was.
-/
theorem moment_of_holds
    {mode : Nat}
    {content : Bytes}
    (hFile : fs.Holds path mode content)
    (session : Session) :
    ∃ now,
      Moment path session fs now
          [.createParents, .openEmpty,
            .write session.document] ∧
        now.find path = .ok (.file mode session.document) := by
  have hParents :
      Step.run path fs .createParents = .ok fs :=
    hFile.way.createDirectories_eq
  have hOpen :
      Step.run path fs .openEmpty =
        .ok (fs.put path (.file mode [])) :=
    hFile.truncate_eq
  have hEmpty := hFile.way.holds_put mode []
  have hWrite :
      Step.run path (fs.put path (.file mode []))
          (.write session.document) =
        .ok _ :=
    hEmpty.writeAtStart_eq session.document
  rw [Files.put_put] at hWrite
  refine
    ⟨_, .writing (List.prefix_refl _) ?_,
      (hFile.way.holds_put mode session.document).find⟩
  rw [runSteps, hParents]
  simp only
  rw [runSteps, hOpen]
  simp only
  rw [runSteps, hWrite]
  rfl

end

------------------------------------------------------------
-- Who may read the file
------------------------------------------------------------

/-
  The file has a part of the new document, and with which
  permissions.
-/
def HasPart
    (path : Path)
    (steps : List Step)
    (now : Files)
    (mode : Nat) : Prop :=
  ∃ part,
    part ≠ [] ∧
      .write part ∈ steps ∧
      now.find path = .ok (.file mode part)

/- What the file has, and who may read it, at a moment. -/
structure Watched
    (path : Path)
    (session : Session)
    (fs now : Files)
    (steps : List Step) : Prop where
  -- nothing of the document is in the file before the write
  unwritten :
    (∀ part, .write part ∈ steps → part = []) →
    ∀ mode content,
      now path = some (.file mode content) →
        content = [] ∨ fs path = some (.file mode content)
  -- and nothing else is in it from then on
  written :
    ∀ part,
      .write part ∈ steps →
        part <+: session.document ∧
          ∃ mode, now.find path = .ok (.file mode part)
  -- it is open to others if the file was, until the last step
  exposed_iff :
    ∀ mode,
      HasPart path steps now mode →
        (mode ≠ 0o600 ↔
          .restrict ∉ steps ∧
            ∃ old content,
              fs path = some (.file old content) ∧
                old ≠ 0o600)
  kept :
    ∀ mode,
      HasPart path steps now mode →
      mode ≠ 0o600 →
        ∃ content, fs path = some (.file mode content)

section

variable {path : Path}
variable {session : Session}
variable {fs now : Files}
variable {steps : List Step}

/- A file is opened for others only if it was before. -/
theorem openMode_ne_iff :
    fs.openMode path ≠ 0o600 ↔
      ∃ old content,
        fs path = some (.file old content) ∧
          old ≠ 0o600 := by
  unfold Files.openMode
  rcases fs path with _ | ⟨mode, content⟩ | mode <;> simp

theorem exists_of_openMode_ne
    (hOpen : fs.openMode path ≠ 0o600) :
    ∃ content,
      fs path = some (.file (fs.openMode path) content) := by
  rcases openMode_ne_iff.mp hOpen with
    ⟨old, content, hFile, _⟩
  refine ⟨content, ?_⟩
  rw [Files.openMode, hFile]

/- No part of the document is there before it is written. -/
theorem watched_of_unwritten
    (hNone : ∀ part, .write part ∉ steps)
    (hFile :
      ∀ mode content,
        now path = some (.file mode content) →
          content = [] ∨
            fs path = some (.file mode content)) :
    Watched path session fs now steps where
  unwritten := fun _ => hFile
  written := fun part hWrite => absurd hWrite (hNone part)
  exposed_iff := by
    rintro mode ⟨part, _, hWrite, _⟩
    exact absurd hWrite (hNone part)
  kept := by
    rintro mode ⟨part, _, hWrite, _⟩
    exact absurd hWrite (hNone part)

/- A part of the document is there once it is written. -/
theorem watched_of_written
    {part : Bytes}
    {mode : Nat}
    (hSteps : ∀ other, .write other ∈ steps ↔ other = part)
    (hPart : part <+: session.document)
    (hHolds : now.Holds path mode part)
    (hMode :
      mode ≠ 0o600 ↔
        .restrict ∉ steps ∧ fs.openMode path ≠ 0o600)
    (hKept : mode ≠ 0o600 → mode = fs.openMode path) :
    Watched path session fs now steps := by
  have hHas :
      ∀ mode', HasPart path steps now mode' → mode' = mode := by
    rintro mode' ⟨other, _, _, hFind⟩
    rw [hHolds.find] at hFind
    cases hFind
    rfl
  constructor
  · intro hEmpty mode' content hFile
    rw [hHolds.file] at hFile
    cases hFile
    exact .inl (hEmpty part ((hSteps part).mpr rfl))
  · intro other hWrite
    rw [(hSteps other).mp hWrite]
    exact ⟨hPart, mode, hHolds.find⟩
  · intro mode' hPresent
    rw [hHas mode' hPresent, hMode, openMode_ne_iff]
  · intro mode' hPresent hOpen
    rw [hHas mode' hPresent] at hOpen ⊢
    have hSame := hKept hOpen
    rw [hSame] at hOpen ⊢
    exact exists_of_openMode_ne hOpen

/- The file is watched in every phase. -/
theorem Phase.watched
    (h : Phase path session fs now steps) :
    Watched path session fs now steps := by
  cases h with
  | started hSame =>
      refine watched_of_unwritten (by simp) ?_
      intro mode content hFile
      exact .inr (hSame ▸ hFile)
  | reached hSame =>
      refine watched_of_unwritten (by simp) ?_
      intro mode content hFile
      exact .inr (hSame ▸ hFile)
  | opened hHolds =>
      refine watched_of_unwritten (by simp) ?_
      intro mode content hFile
      rw [hHolds.file] at hFile
      cases hFile
      exact .inl rfl
  | written hPart hHolds =>
      exact
        watched_of_written (by simp) hPart hHolds (by simp)
          fun _ => rfl
  | restricted hHolds =>
      exact
        watched_of_written (by simp [saveSteps])
          (List.prefix_refl _) hHolds (by simp [saveSteps])
          (fun hOpen => absurd rfl hOpen)

end

/-
  At every moment of a saving the session file is for the
  owner only, unless it was open to others before and the
  last step is still to be taken. Every saving over a file
  that was comes to such a moment.
-/
theorem save_watched
    (path : String)
    (session : Session)
    (fs : Files) :
    (∀ now steps,
      Moment (Path.ofText path) session fs now steps →
        Watched (Path.ofText path) session fs now steps) ∧
      (∃ steps,
        Moment (Path.ofText path) session fs
          (save path session fs).2 steps) ∧
      ∀ mode content,
        fs.Holds (Path.ofText path) mode content →
          ∃ now,
            Moment (Path.ofText path) session fs now
                [.createParents, .openEmpty,
                  .write session.document] ∧
              now.find (Path.ofText path) =
                .ok (.file mode session.document) :=
  ⟨fun _ _ hMoment => hMoment.phase.watched,
    moment_of_save path session fs,
    fun _ _ hFile => moment_of_holds hFile session⟩

/- A file that everybody may read. -/
def sharedFiles : Files :=
  Files.empty.put ["s"] (.file 0o644 [0x7B, 0x7D])

/- A whole session can be read there before the last step. -/
theorem save_watched_shared :
    ∃ now steps,
      Moment (Path.ofText "/s") .empty sharedFiles now steps ∧
        HasPart (Path.ofText "/s") steps now 0o644 ∧
        now.find (Path.ofText "/s") =
          .ok (.file 0o644 Session.empty.document) := by
  have hPath : Path.ofText "/s" = ["s"] := by decide
  have hFile :
      sharedFiles.Holds (Path.ofText "/s") 0o644
        [0x7B, 0x7D] := by
    rw [hPath]
    exact ⟨Files.leadsTo_of_find (by rfl), rfl⟩
  rcases (save_watched "/s" .empty sharedFiles).2.2 _ _ hFile
    with ⟨now, hMoment, hFind⟩
  exact
    ⟨now, _, hMoment,
      ⟨_, by decide, by simp, hFind⟩, hFind⟩

end SessionFile
end WorkspaceClient
