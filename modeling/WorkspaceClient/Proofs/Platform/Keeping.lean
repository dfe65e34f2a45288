import WorkspaceClient.Proofs.Platform.Events

/-
  This file shows that a property of the authentication and
  of the log holds after every run that makes a session
  valid, if every event keeps it. The run is looked at on
  those states only that have the property.

  Key definitions include:
    * `Platform.Auth.Keeps`

  Main declarations:
    * `Platform.Auth.Keeps.run`
-/

namespace WorkspaceClient
namespace Platform

variable {σ α : Type}

------------------------------------------------------------
-- What every event keeps
------------------------------------------------------------

/-
  A property of the state of the authentication and of the
  log is kept by every event.
-/
structure Auth.Keeps
    (auth : Auth σ)
    (P : σ → List Event → Prop) : Prop where
  bootstrap :
    ∀ a log,
      P a log →
        P (auth.bootstrap a).2
          (log ++ [.bootstrap (auth.bootstrap a).1])
  login :
    ∀ endpoint ca a log,
      P a log →
        P (auth.login endpoint ca a).2
          (log ++
            [.login endpoint ca (auth.login endpoint ca a).1])
  verify :
    ∀ endpoint ca token a log,
      P a log →
        P (auth.verify endpoint ca token a).2
          (log ++
            [.verify endpoint ca token
              (auth.verify endpoint ca token a).1])
  save :
    ∀ session answer a log,
      P a log → P a (log ++ [.save session answer])

section

variable {P : σ → List Event → Prop}
variable {auth : Auth σ}

/- The states of an authentication and a log with a property. -/
abbrev Having
    (P : σ → List Event → Prop) : Type :=
  { a : σ × List Event // P a.1 a.2 }

/- A task that keeps a property, on the states that have it. -/
def keeping
    (t : Task (σ × List Event) α)
    (hKeeps : ∀ a log, P a log → P (t (a, log)).2.1 (t (a, log)).2.2) :
    Task (Having P) α :=
  fun a =>
    ((t a.1).1, ⟨(t a.1).2, hKeeps a.1.1 a.1.2 a.2⟩)

/- The operations with a log, on the states with a property. -/
def Auth.Keeps.logged
    (h : auth.Keeps P) : Auth (Having P) where
  bootstrap := keeping auth.logged.bootstrap h.bootstrap
  login := fun endpoint ca =>
    keeping (auth.logged.login endpoint ca)
      (h.login endpoint ca)
  verify := fun endpoint ca token =>
    keeping (auth.logged.verify endpoint ca token)
      (h.verify endpoint ca token)

theorem Auth.Keeps.seenAs_logged
    (h : auth.Keeps P) :
    Auth.SeenAs Subtype.val h.logged auth.logged where
  bootstrap := fun _ => rfl
  login := fun _ _ _ => rfl
  verify := fun _ _ _ _ => rfl

/- The same for a task that changes all of the state. -/
def keepingState
    (t : Task (State (σ × List Event)) α)
    (hKeeps :
      ∀ s, P s.auth.1 s.auth.2 →
        P (t s).2.auth.1 (t s).2.auth.2) :
    Task (State (Having P)) α :=
  fun s =>
    ((t (s.mapAuth Subtype.val)).1,
      { session := (t (s.mapAuth Subtype.val)).2.session
        files := (t (s.mapAuth Subtype.val)).2.files
        warnings := (t (s.mapAuth Subtype.val)).2.warnings
        auth :=
          ⟨(t (s.mapAuth Subtype.val)).2.auth,
            hKeeps (s.mapAuth Subtype.val) s.auth.2⟩ })

theorem seenAs_keepingState
    (t : Task (State (σ × List Event)) α)
    (hKeeps :
      ∀ s, P s.auth.1 s.auth.2 →
        P (t s).2.auth.1 (t s).2.auth.2) :
    Task.SeenAs (State.mapAuth Subtype.val)
      (keepingState t hKeeps) t := by
  intro s
  rfl

/- An attempt to save is noted in the log, and that is all. -/
theorem loggedSave_auth
    (path : String)
    (s : State (σ × List Event)) :
    ∃ answer,
      (loggedSave path s).2.auth =
        (s.auth.1, s.auth.2 ++ [.save s.session answer]) := by
  unfold loggedSave save saveBy
  rcases SessionFile.save path s.session s.files with
    ⟨_ | _, files⟩
  · exact ⟨_, rfl⟩
  · exact ⟨_, rfl⟩

/- What every event keeps holds after every run. -/
theorem Auth.Keeps.run
    (h : auth.Keeps P)
    (path : String)
    (s : State σ)
    (hStart : P s.auth []) :
    P (Platform.run auth path s).state.auth
      (Platform.run auth path s).events := by
  have hSave :
      ∀ s' : State (σ × List Event),
        P s'.auth.1 s'.auth.2 →
          P (loggedSave path s').2.auth.1
            (loggedSave path s').2.auth.2 := by
    intro s' hHas
    rcases loggedSave_auth path s' with ⟨answer, hLog⟩
    rw [hLog]
    exact h.save _ answer _ _ hHas
  -- the same run, on states that have the property
  let start : State (Having P) :=
    { session := s.session
      files := s.files
      warnings := s.warnings
      auth := ⟨(s.auth, []), hStart⟩ }
  let kept :=
    ensureValidBy h.logged
      (keepingState (loggedSave path) hSave) start
  have hRun :
      ensureValidBy auth.logged (loggedSave path)
          (s.mapAuth fun a => (a, [])) =
        (kept.1, kept.2.mapAuth Subtype.val) :=
    seenAs_ensureValidBy h.seenAs_logged
      (seenAs_keepingState (loggedSave path) hSave) start
  rw [Platform.run, hRun]
  exact kept.2.auth.2

end

end Platform
end WorkspaceClient
