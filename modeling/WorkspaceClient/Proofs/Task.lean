import WorkspaceClient.Proofs.Result
import WorkspaceClient.Task

/-
  This file shows how a task with several steps runs, and
  when a task on one kind of state does exactly what a task
  on another kind does, seen through a map of the states.

  Main declarations:
    * `Task.bind_ok`
    * `Task.bind_error`
    * `Task.bind_keeps`
    * `Task.SeenAs`
    * `Task.SeenAs.bind`
    * `Task.SeenAs.get_bind`
-/

namespace WorkspaceClient
namespace Task

variable {σ τ α β : Type}

------------------------------------------------------------
-- Steps
------------------------------------------------------------

/- After a step that gives a value comes the next one. -/
theorem bind_ok
    {t : Task σ α}
    {next : α → Task σ β}
    {s s' : σ}
    {a : α}
    (h : t s = (.ok a, s')) :
    (t >>= next) s = next a s' := by
  change andThen t next s = next a s'
  unfold andThen
  rw [h]

/- A step that fails is the last one. -/
theorem bind_error
    {t : Task σ α}
    {next : α → Task σ β}
    {s s' : σ}
    {failure : Failure}
    (h : t s = (.error failure, s')) :
    (t >>= next) s = (.error failure, s') := by
  change andThen t next s = (.error failure, s')
  unfold andThen
  rw [h]

/- A step that succeeds as a whole succeeds twice. -/
theorem ok_of_bind
    {t : Task σ α}
    {next : α → Task σ β}
    {s s'' : σ}
    {b : β}
    (h : (t >>= next) s = (.ok b, s'')) :
    ∃ a s',
      t s = (.ok a, s') ∧ next a s' = (.ok b, s'') := by
  rcases hStep : t s with ⟨failure | a, s'⟩
  · rw [bind_error hStep] at h
    simp at h
  · rw [bind_ok hStep] at h
    exact ⟨a, s', rfl, h⟩

/- What is known before is given, and no state is changed. -/
theorem ofExcept_eq
    (x : Except Failure α)
    (s : σ) :
    ofExcept x s = (x, s) := by
  cases x <;> rfl

theorem get_eq
    (s : σ) :
    get s = (.ok s, s) := rfl

theorem attempt_eq
    {t : Task σ α}
    {s s' : σ}
    {result : Except Failure α}
    (h : t s = (result, s')) :
    t.attempt s = (.ok result, s') := by
  unfold attempt
  rw [h]

theorem mapFailure_ok
    {f : Failure → Failure}
    {t : Task σ α}
    {s s' : σ}
    {a : α}
    (h : t s = (.ok a, s')) :
    t.mapFailure f s = (.ok a, s') := by
  unfold mapFailure
  rw [h]

theorem mapFailure_error
    {f : Failure → Failure}
    {t : Task σ α}
    {s s' : σ}
    {failure : Failure}
    (h : t s = (.error failure, s')) :
    t.mapFailure f s = (.error (f failure), s') := by
  unfold mapFailure
  rw [h]

------------------------------------------------------------
-- States
------------------------------------------------------------

/-
  What holds after a first task, and is kept by the next one,
  holds in the end, whether or not the first one fails.
-/
theorem bind_keeps
    {P : σ → Prop}
    {t : Task σ α}
    {next : α → Task σ β}
    {s : σ}
    (hFirst : P (t s).2)
    (hNext : ∀ a s', P s' → P (next a s').2) :
    P ((t >>= next) s).2 := by
  rcases hStep : t s with ⟨failure | a, s'⟩
  · rw [hStep] at hFirst
    rwa [bind_error hStep]
  · rw [hStep] at hFirst
    rw [bind_ok hStep]
    exact hNext a s' hFirst

/- A step that keeps every state leaves the one before it. -/
theorem bind_state
    {t : Task σ α}
    {next : α → Task σ β}
    (hNext : ∀ a s, (next a s).2 = s)
    (s : σ) :
    ((t >>= next) s).2 = (t s).2 := by
  apply bind_keeps (P := (· = (t s).2)) rfl
  intro a s' h
  rw [hNext, h]

theorem mapFailure_state
    (f : Failure → Failure)
    (t : Task σ α)
    (s : σ) :
    (t.mapFailure f s).2 = (t s).2 := by
  rcases hStep : t s with ⟨failure | a, s'⟩
  · rw [mapFailure_error hStep]
  · rw [mapFailure_ok hStep]

------------------------------------------------------------
-- Tasks seen through a map
------------------------------------------------------------

/-
  A task does what another one does, when the states of the
  first are seen through a map.
-/
def SeenAs
    (f : τ → σ)
    (t' : Task τ α)
    (t : Task σ α) : Prop :=
  ∀ s, t (f s) = ((t' s).1, f (t' s).2)

theorem SeenAs.pure
    {f : τ → σ}
    (a : α) :
    SeenAs f (Pure.pure a) (Pure.pure a) := by
  intro s
  rfl

theorem SeenAs.fail
    {f : τ → σ}
    (failure : Failure) :
    SeenAs (α := α) f (.fail failure) (.fail failure) := by
  intro s
  rfl

theorem SeenAs.bind
    {f : τ → σ}
    {t' : Task τ α}
    {t : Task σ α}
    {next' : α → Task τ β}
    {next : α → Task σ β}
    (hFirst : SeenAs f t' t)
    (hNext : ∀ a, SeenAs f (next' a) (next a)) :
    SeenAs f (t' >>= next') (t >>= next) := by
  intro s
  have hStep := hFirst s
  change andThen t next (f s) =
    ((andThen t' next' s).1, f (andThen t' next' s).2)
  unfold andThen
  rw [hStep]
  rcases t' s with ⟨_ | a, s'⟩
  · rfl
  · exact hNext a s'

/- The continuation of `get` may read both states. -/
theorem SeenAs.get_bind
    {f : τ → σ}
    {next' : τ → Task τ β}
    {next : σ → Task σ β}
    (hNext : ∀ s, SeenAs f (next' s) (next (f s))) :
    SeenAs f (Task.get >>= next') (Task.get >>= next) := by
  intro s
  exact hNext s s

theorem SeenAs.modify
    {f : τ → σ}
    {change' : τ → τ}
    {change : σ → σ}
    (hChange : ∀ s, change (f s) = f (change' s)) :
    SeenAs f (Task.modify change') (Task.modify change) := by
  intro s
  change (Except.ok (), change (f s)) = (Except.ok (), _)
  rw [hChange s]
  rfl

theorem SeenAs.attempt
    {f : τ → σ}
    {t' : Task τ α}
    {t : Task σ α}
    (h : SeenAs f t' t) :
    SeenAs f t'.attempt t.attempt := by
  intro s
  unfold Task.attempt
  rw [h s]

theorem SeenAs.mapFailure
    {f : τ → σ}
    {t' : Task τ α}
    {t : Task σ α}
    (change : Failure → Failure)
    (h : SeenAs f t' t) :
    SeenAs f (t'.mapFailure change)
      (t.mapFailure change) := by
  intro s
  unfold Task.mapFailure
  rw [h s]
  rcases t' s with ⟨_ | _, s'⟩ <;> rfl

end Task

end WorkspaceClient
