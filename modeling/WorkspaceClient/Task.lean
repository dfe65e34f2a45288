import WorkspaceClient.Failure

/-
  This file defines tasks: computations that change a state
  and end in a value or in a failure. What was changed
  before a failure stays changed.

  Key definitions include:
    * `Task`
    * `Task.fail`
    * `Task.ofExcept`
    * `Task.attempt`
    * `Task.mapFailure`
    * `Task.within`
-/

namespace WorkspaceClient

------------------------------------------------------------
-- Tasks
------------------------------------------------------------

/- A task over a state. -/
def Task (σ α : Type) : Type :=
  σ → Except Failure α × σ

namespace Task

variable {σ τ α β : Type}

/- The task that only gives a value. -/
def value
    (a : α) : Task σ α :=
  fun s => (.ok a, s)

/- A task, and then the next one if it does not fail. -/
def andThen
    (t : Task σ α)
    (next : α → Task σ β) : Task σ β :=
  fun s =>
    match t s with
    | (.ok a, s') => next a s'
    | (.error failure, s') => (.error failure, s')

instance : Monad (Task σ) where
  pure := value
  bind := andThen

/- The task that only fails. -/
def fail
    (failure : Failure) : Task σ α :=
  fun s => (.error failure, s)

/- The task that gives or fails with what is known before. -/
def ofExcept : Except Failure α → Task σ α
  | .ok a => value a
  | .error failure => fail failure

/- The task that gives the state. -/
def get : Task σ σ :=
  fun s => (.ok s, s)

/- The task that changes the state. -/
def modify
    (f : σ → σ) : Task σ Unit :=
  fun s => (.ok (), f s)

/- A task whose failure is given as a value. -/
def attempt
    (t : Task σ α) : Task σ (Except Failure α) :=
  fun s =>
    match t s with
    | (result, s') => (.ok result, s')

/- A task whose failure is changed. -/
def mapFailure
    (f : Failure → Failure)
    (t : Task σ α) : Task σ α :=
  fun s =>
    match t s with
    | (.ok a, s') => (.ok a, s')
    | (.error failure, s') => (.error (f failure), s')

/- A task on a part of the state. -/
def within
    (part : σ → τ)
    (replace : σ → τ → σ)
    (t : Task τ α) : Task σ α :=
  fun s =>
    match t (part s) with
    | (result, p) => (result, replace s p)

end Task
end WorkspaceClient
