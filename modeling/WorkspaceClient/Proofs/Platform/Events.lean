import WorkspaceClient.Platform.Renewal
import WorkspaceClient.Proofs.Task

/-
  This file defines the log of a run that makes a session
  valid: the calls of the authentication and the savings of
  the session, each with its arguments and its answer.

  The log is kept beside the state. It changes neither the
  result of a run nor the state after it.

  Key definitions include:
    * `Platform.Event`
    * `Platform.Auth.logged`
    * `Platform.loggedSave`
    * `Platform.Run`
    * `Platform.run`

  Main declarations:
    * `Platform.seenAs_ensureValidBy`
    * `Platform.run_eq_ensureValid`
-/

namespace WorkspaceClient
namespace Platform

variable {σ τ α : Type}

------------------------------------------------------------
-- Logs
------------------------------------------------------------

/-
  What happens in a run: a call with its answer, or an
  attempt to save a session.
-/
inductive Event where
  | bootstrap (answer : Except Failure Bytes)
  | login
      (endpoint : String)
      (ca : Bytes)
      (answer : Except Failure Login)
  | verify
      (endpoint : String)
      (ca : Bytes)
      (token : String)
      (answer : Except Failure Unit)
  | save
      (session : Session)
      (answer : Except Failure Unit)

/- The call that an event is, unless it is an attempt to save. -/
def Event.call? : Event → Option Call
  | bootstrap _ => some .bootstrap
  | login endpoint ca _ => some (.login endpoint ca)
  | verify endpoint ca token _ =>
      some (.verify endpoint ca token)
  | save _ _ => none

/- The failure that an event ended in. -/
def Event.failure? : Event → Option Failure
  | bootstrap (.error failure) => some failure
  | login _ _ (.error failure) => some failure
  | verify _ _ _ (.error failure) => some failure
  | save _ (.error failure) => some failure
  | _ => none

/- The operations, with a log of all calls and answers. -/
def Auth.logged
    (auth : Auth σ) : Auth (σ × List Event) where
  bootstrap := noting .bootstrap auth.bootstrap
  login := fun endpoint ca =>
    noting (.login endpoint ca) (auth.login endpoint ca)
  verify := fun endpoint ca token =>
    noting (.verify endpoint ca token)
      (auth.verify endpoint ca token)

/- Save the session, with a note in the log. -/
def loggedSave
    (path : String) :
    Task (State (σ × List Event)) Unit :=
  fun s =>
    match save path s with
    | (answer, s') =>
        (answer, { s' with
          auth := (s'.auth.1,
            s'.auth.2 ++ [.save s.session answer]) })

/- A state with another state of the authentication. -/
def State.mapAuth
    (f : τ → σ)
    (s : State τ) : State σ :=
  { session := s.session
    files := s.files
    warnings := s.warnings
    auth := f s.auth }

/-
  A run that makes a session valid: its result, the state
  after it, and its events in order.
-/
structure Run (σ : Type) where
  result : Except Failure Outcome
  state : State σ
  events : List Event

/- Make the session of a state valid, with a log. -/
def run
    (auth : Auth σ)
    (path : String)
    (s : State σ) : Run σ :=
  match ensureValidBy auth.logged (loggedSave path)
      (s.mapAuth fun a => (a, [])) with
  | (result, s') =>
      { result
        state := s'.mapAuth Prod.fst
        events := s'.auth.2 }

/- The calls of a run, in order. -/
def Run.calls
    (r : Run σ) : List Call :=
  r.events.filterMap Event.call?

------------------------------------------------------------
-- Operations seen through a map
------------------------------------------------------------

/- Every operation does what the other one does. -/
structure Auth.SeenAs
    (f : τ → σ)
    (auth' : Auth τ)
    (auth : Auth σ) : Prop where
  bootstrap :
    Task.SeenAs f auth'.bootstrap auth.bootstrap
  login :
    ∀ endpoint ca,
      Task.SeenAs f (auth'.login endpoint ca)
        (auth.login endpoint ca)
  verify :
    ∀ endpoint ca token,
      Task.SeenAs f (auth'.verify endpoint ca token)
        (auth.verify endpoint ca token)

theorem seenAs_onAuth
    {f : τ → σ}
    {t' : Task τ α}
    {t : Task σ α}
    (h : Task.SeenAs f t' t) :
    Task.SeenAs (State.mapAuth f) (onAuth t')
      (onAuth t) := by
  intro s
  unfold onAuth Task.within
  have hStep : t (s.mapAuth f).auth = _ := h s.auth
  rw [hStep]
  rfl

theorem seenAs_establish
    {f : τ → σ}
    {auth' : Auth τ}
    {auth : Auth σ}
    (h : Auth.SeenAs f auth' auth) :
    Task.SeenAs (State.mapAuth f) (establish auth')
      (establish auth) := by
  unfold establish
  apply Task.SeenAs.bind (seenAs_onAuth h.bootstrap)
  intro ca
  apply Task.SeenAs.get_bind
  intro s
  apply Task.SeenAs.bind
    (seenAs_onAuth (h.login s.session.endpoint ca))
  intro login
  apply Task.SeenAs.bind
  · apply Task.SeenAs.modify
    intro _
    rfl
  · intro _
    exact Task.SeenAs.pure ca

theorem seenAs_check
    {f : τ → σ}
    {auth' : Auth τ}
    {auth : Auth σ}
    (h : Auth.SeenAs f auth' auth)
    (ca : Bytes) :
    Task.SeenAs (State.mapAuth f) (check auth' ca)
      (check auth ca) := by
  unfold check
  apply Task.SeenAs.get_bind
  intro s
  exact seenAs_onAuth
    (h.verify s.session.endpoint ca s.session.token)

theorem seenAs_warn
    {f : τ → σ}
    (warning : Warning) :
    Task.SeenAs (State.mapAuth f) (warn warning)
      (warn warning) :=
  Task.SeenAs.modify fun _ => rfl

theorem seenAs_cachedCa
    {f : τ → σ} :
    Task.SeenAs (State.mapAuth f) cachedCa cachedCa := by
  unfold cachedCa
  apply Task.SeenAs.get_bind
  intro s
  have hCa :
      (s.mapAuth f).session.caBytes = s.session.caBytes := rfl
  rw [hCa]
  cases s.session.caBytes with
  | ok ca => exact Task.SeenAs.pure ca
  | error fault =>
      apply Task.SeenAs.bind (seenAs_warn _)
      intro _
      exact Task.SeenAs.pure none

/-
  Making a session valid does the same with operations that
  do the same.
-/
theorem seenAs_ensureValidBy
    {f : τ → σ}
    {auth' : Auth τ}
    {auth : Auth σ}
    {keep' : Task (State τ) Unit}
    {keep : Task (State σ) Unit}
    (h : Auth.SeenAs f auth' auth)
    (hKeep : Task.SeenAs (State.mapAuth f) keep' keep) :
    Task.SeenAs (State.mapAuth f)
      (ensureValidBy auth' keep')
      (ensureValidBy auth keep) := by
  unfold ensureValidBy
  apply Task.SeenAs.get_bind
  intro s
  change Task.SeenAs _ _
    (if s.session.endpoint.isEmpty then _ else _)
  split
  · exact Task.SeenAs.fail noEndpoint
  · apply Task.SeenAs.bind seenAs_cachedCa
    intro cached
    cases cached with
    | none =>
        apply Task.SeenAs.bind (seenAs_establish h)
        intro ca
        apply Task.SeenAs.bind (seenAs_check h ca)
        intro _
        apply Task.SeenAs.bind hKeep
        intro _
        exact Task.SeenAs.pure Outcome.bootstrapped
    | some ca =>
        apply Task.SeenAs.bind
          (Task.SeenAs.attempt (seenAs_check h ca))
        intro answer
        cases answer with
        | ok _ => exact Task.SeenAs.pure Outcome.verified
        | error failure =>
            apply Task.SeenAs.bind (seenAs_warn _)
            intro _
            apply Task.SeenAs.bind
              (Task.SeenAs.mapFailure reloginFailed
                (seenAs_establish h))
            intro ca
            apply Task.SeenAs.bind hKeep
            intro _
            apply Task.SeenAs.bind
              (Task.SeenAs.mapFailure rejectedAgain
                (seenAs_check h ca))
            intro _
            exact Task.SeenAs.pure Outcome.reauthenticated

------------------------------------------------------------
-- The log is beside the state
------------------------------------------------------------

theorem seenAs_noting
    {note : Except Failure α → Event}
    (t : Task σ α) :
    Task.SeenAs Prod.fst (noting note t) t := by
  intro s
  rfl

theorem seenAs_logged
    (auth : Auth σ) :
    Auth.SeenAs Prod.fst auth.logged auth where
  bootstrap := seenAs_noting auth.bootstrap
  login := fun endpoint ca =>
    seenAs_noting (auth.login endpoint ca)
  verify := fun endpoint ca token =>
    seenAs_noting (auth.verify endpoint ca token)

theorem seenAs_loggedSave
    (path : String) :
    Task.SeenAs (State.mapAuth (σ := σ) Prod.fst)
      (loggedSave path) (save path) := by
  intro s
  have hSave :
      SessionFile.save path (s.mapAuth Prod.fst).session
          (s.mapAuth Prod.fst).files =
        SessionFile.save path s.session s.files := rfl
  unfold loggedSave save saveBy
  rw [hSave]
  rcases SessionFile.save path s.session s.files with
    ⟨_ | _, files⟩ <;> rfl

/- The log changes neither the result nor the state. -/
theorem run_eq_ensureValid
    (auth : Auth σ)
    (path : String)
    (s : State σ) :
    ensureValid auth path s =
      ((run auth path s).result,
        (run auth path s).state) := by
  exact
    seenAs_ensureValidBy (seenAs_logged auth)
      (seenAs_loggedSave path)
      (s.mapAuth fun a => (a, []))

/-
  The log with only its calls, beside the state of the
  authentication.
-/
def withCalls
    (a : σ × List Event) : σ × List Call :=
  (a.1, a.2.filterMap Event.call?)

theorem seenAs_noting_call
    {note : Except Failure α → Event}
    {call : Call}
    (t : Task σ α)
    (hCall : ∀ answer, (note answer).call? = some call) :
    Task.SeenAs withCalls (noting note t)
      (noting (fun _ => call) t) := by
  intro s
  unfold noting withCalls
  simp only [List.filterMap_append, List.filterMap_cons,
    hCall, List.filterMap_nil]

theorem seenAs_recorded
    (auth : Auth σ) :
    Auth.SeenAs withCalls auth.logged auth.recorded where
  bootstrap :=
    seenAs_noting_call auth.bootstrap fun _ => rfl
  login := fun endpoint ca =>
    seenAs_noting_call (auth.login endpoint ca) fun _ => rfl
  verify := fun endpoint ca token =>
    seenAs_noting_call (auth.verify endpoint ca token)
      fun _ => rfl

theorem seenAs_loggedSave_withCalls
    (path : String) :
    Task.SeenAs (State.mapAuth (σ := σ × List Call) withCalls)
      (loggedSave path) (save path) := by
  intro s
  have hSave :
      SessionFile.save path (s.mapAuth withCalls).session
          (s.mapAuth withCalls).files =
        SessionFile.save path s.session s.files := rfl
  unfold loggedSave save saveBy
  rw [hSave]
  rcases SessionFile.save path s.session s.files with
    ⟨_ | _, files⟩ <;>
  simp [State.mapAuth, withCalls, Event.call?]

/- The log has the calls that a record of the calls has. -/
theorem recorded_calls_eq
    (auth : Auth σ)
    (path : String)
    (s : State σ) :
    (ensureValid auth.recorded path
        (s.mapAuth fun a => (a, []))).2.auth.2 =
      (run auth path s).calls := by
  have hRun :=
    seenAs_ensureValidBy (seenAs_recorded auth)
      (seenAs_loggedSave_withCalls path)
      (s.mapAuth fun a => (a, []))
  have hState := congrArg (fun r => r.2.auth.2) hRun
  exact hState

end Platform
end WorkspaceClient
