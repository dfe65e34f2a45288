import WorkspaceClient.Proofs.Session

/-
  This file shows what saving a session does to its file,
  whatever stood at the path before: saving succeeds where a
  file can be written, and then the file holds the session
  and nothing else.

  Key definitions include:
    * `SessionFile.Kept`

  Main declarations:
    * `SessionFile.exists_save`
    * `SessionFile.save_of_holds`
    * `SessionFile.save_keeps`
-/

namespace WorkspaceClient
namespace SessionFile

------------------------------------------------------------
-- Taking the steps
------------------------------------------------------------

/- A step that is not refused is followed by the others. -/
theorem runSteps_cons_ok
    {path : Path}
    {fs fs' : Files}
    {step : Step}
    (hStep : step.run path fs = .ok fs')
    (steps : List Step) :
    runSteps path fs (step :: steps) =
      runSteps path fs' steps := by
  rw [runSteps, hStep]

/- An empty file is filled, and it is for the owner only. -/
theorem runSteps_write
    {path : Path}
    {fs : Files}
    {mode : Nat}
    (hEmpty : fs.Holds path mode [])
    (document : Bytes) :
    runSteps path fs [.write document, .restrict] =
      (none, fs.put path (.file 0o600 document)) := by
  have hWrite :
      Step.run path fs (.write document) =
        .ok (fs.put path (.file mode document)) :=
    hEmpty.writeAtStart_eq document
  have hWritten := hEmpty.way.holds_put mode document
  have hMode :
      Step.run path (fs.put path (.file mode document))
          .restrict =
        .ok _ :=
    hWritten.setMode_eq 0o600
  rw [runSteps_cons_ok hWrite, runSteps_cons_ok hMode,
    runSteps, Files.put_put]

/- What saving does once the file is open and empty. -/
theorem save_eq
    {path : String}
    {fs fs₁ fs₂ : Files}
    {mode : Nat}
    (session : Session)
    (hCreate :
      fs.createDirectories (Path.ofText path).dropLast =
        .ok fs₁)
    (hOpen : fs₁.truncate (Path.ofText path) = .ok fs₂)
    (hEmpty : fs₂.Holds (Path.ofText path) mode []) :
    save path session fs =
      (.ok (),
        fs₂.put (Path.ofText path)
          (.file 0o600 session.document)) := by
  have hFirst :
      Step.run (Path.ofText path) fs .createParents =
        .ok fs₁ := hCreate
  have hSecond :
      Step.run (Path.ofText path) fs₁ .openEmpty =
        .ok fs₂ := hOpen
  unfold save saveSteps
  rw [runSteps_cons_ok hFirst, runSteps_cons_ok hSecond,
    runSteps_write hEmpty]

------------------------------------------------------------
-- Success
------------------------------------------------------------

/- A session can be saved wherever a file can be written. -/
theorem exists_save
    {path : String}
    {fs : Files}
    (session : Session)
    (hPath : fs.Writable (Path.ofText path)) :
    ∃ fs', save path session fs = (.ok (), fs') := by
  rcases hPath.exists_way with ⟨fs₁, hCreate, hWay, hSame⟩
  have hTarget :
      ∀ mode,
        fs₁ (Path.ofText path) ≠ some (.directory mode) := by
    rw [hSame]
    exact hPath.target
  rcases hWay.exists_truncate hPath.ne_nil hTarget with
    ⟨mode, hOpen⟩
  exact
    ⟨_, save_eq session hCreate hOpen (hWay.holds_put mode [])⟩

/-
  Saving over a file replaces all of it, and changes nothing
  else.
-/
theorem save_of_holds
    {path : String}
    {fs : Files}
    {mode : Nat}
    {content : Bytes}
    (session : Session)
    (hFile : fs.Holds (Path.ofText path) mode content) :
    save path session fs =
      (.ok (),
        fs.put (Path.ofText path)
          (.file 0o600 session.document)) := by
  have hSave :=
    save_eq session
      hFile.way.createDirectories_eq hFile.truncate_eq
      (hFile.way.holds_put mode [])
  rwa [Files.put_put] at hSave

------------------------------------------------------------
-- What is kept
------------------------------------------------------------

/- What is loaded is decided by what the file holds. -/
theorem load_congr
    {path : String}
    {fs fs' : Files}
    (h :
      fs.read (Path.ofText path) =
        fs'.read (Path.ofText path)) :
    load path fs = load path fs' := by
  unfold load
  rw [h]

/-
  A session is kept at a path. It is loaded from there, the
  file is its document and for the owner only, and to save
  what is loaded changes nothing any more.
-/
structure Kept
    (path : String)
    (session : Session)
    (fs : Files) : Prop where
  loaded : load path fs = .ok session
  file :
    fs.find (Path.ofText path) =
      .ok (.file 0o600 session.document)
  again :
    ∀ other,
      load path fs = .ok other →
        save path other fs = (.ok (), fs)

theorem kept_of_holds
    {path : String}
    {session : Session}
    {fs : Files}
    (hFile :
      fs.Holds (Path.ofText path) 0o600 session.document)
    (hLoad : load path fs = .ok session) :
    Kept path session fs where
  loaded := hLoad
  file := hFile.find
  again := by
    intro other hOther
    rw [hLoad] at hOther
    cases hOther
    rw [save_of_holds session hFile,
      Files.put_eq_self hFile.file]

/-
  A session is saved wherever a file can be written, and a
  session that was saved is kept, whatever stood there.
-/
theorem save_keeps
    (path : String)
    (session : Session)
    (fs : Files) :
    (fs.Writable (Path.ofText path) →
        ∃ fs', save path session fs = (.ok (), fs')) ∧
      ∀ fs',
        save path session fs = (.ok (), fs') →
          Kept path session fs' := by
  refine ⟨exists_save session, ?_⟩
  intro fs' hSave
  exact kept_of_holds (holds_of_save hSave) (load_of_save hSave)

/- A longer file that is no document, and open to all. -/
def spoiltFiles : Files :=
  Files.empty.put ["s"]
    (.file 0o666 (List.replicate 900 0x7B))

/- A session with quotes, backslashes and line breaks. -/
def oddSession : Session :=
  { Session.empty with
    endpoint := "https://d/\\"
    token := "\"\n"
    user := "\u0001\u00e9"
    isPlatform := true }

/- Such a session replaces such a file. -/
theorem save_keeps_over_spoilt :
    spoiltFiles.Writable (Path.ofText "/s") ∧
      ∃ fs',
        save "/s" oddSession spoiltFiles = (.ok (), fs') ∧
          Kept "/s" oddSession fs' := by
  have hPath : Path.ofText "/s" = ["s"] := by decide
  have hWritable : spoiltFiles.Writable (Path.ofText "/s") := by
    rw [hPath]
    constructor
    · exact ⟨0o755, rfl⟩
    · intro above hAbove hOther mode content
      rcases List.prefix_cons_iff.mp hAbove with
        rfl | ⟨below, rfl, hBelow⟩
      · rintro ⟨⟩
      · rw [List.prefix_nil.mp hBelow] at hOther
        exact absurd rfl hOther
    · rintro mode ⟨⟩
  have hKeeps := save_keeps "/s" oddSession spoiltFiles
  rcases hKeeps.1 hWritable with ⟨fs', hSave⟩
  exact ⟨hWritable, fs', hSave, hKeeps.2 fs' hSave⟩

end SessionFile
end WorkspaceClient
