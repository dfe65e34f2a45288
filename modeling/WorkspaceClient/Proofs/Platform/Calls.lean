import WorkspaceClient.Proofs.Platform.Courses

/-
  This file shows which calls a run makes that makes a
  session valid, in which order, with which arguments, and
  with which failures it ends.

  Key definitions include:
    * `Platform.Step`
    * `Platform.Orderly`

  Main declarations:
    * `Platform.run_orderly`
-/

namespace WorkspaceClient
namespace Platform

variable {σ : Type}

------------------------------------------------------------
-- Places in a log
------------------------------------------------------------

/-
  A property holds of every event, together with the events
  before it and those after it.
-/
def AtEach
    (P : List Event → Event → List Event → Prop) :
    List Event → List Event → Prop
  | _, [] => True
  | before, e :: after =>
      P before e after ∧ AtEach P (before ++ [e]) after

theorem atEach_iff
    {P : List Event → Event → List Event → Prop}
    (start events : List Event) :
    AtEach P start events ↔
      ∀ before e after,
        events = before ++ e :: after →
          P (start ++ before) e after := by
  induction events generalizing start with
  | nil => simp [AtEach]
  | cons head tail ih =>
      unfold AtEach
      rw [ih]
      constructor
      · rintro ⟨hHead, hTail⟩ before e after hSplit
        rcases List.cons_eq_append_iff.mp hSplit with
          ⟨rfl, hEq⟩ | ⟨rest, rfl, hEq⟩
        · cases hEq
          simpa using hHead
        · simpa using hTail rest e after hEq
      · intro hAll
        refine ⟨?_, ?_⟩
        · simpa using hAll [] head tail rfl
        · intro before e after hSplit
          simpa using
            hAll (head :: before) e after (by simp [hSplit])

theorem AtEach.imp
    {P Q : List Event → Event → List Event → Prop}
    {start events : List Event}
    (h : AtEach P start events)
    (hImp :
      ∀ before e after, P before e after → Q before e after) :
    AtEach Q start events := by
  rw [atEach_iff] at h ⊢
  intro before e after hSplit
  exact hImp _ _ _ (h before e after hSplit)

/- The property of every place in a log. -/
theorem forall_place_iff
    {P : List Event → Event → List Event → Prop}
    (events : List Event) :
    (∀ before e after,
        events = before ++ e :: after → P before e after) ↔
      AtEach P [] events :=
  (atEach_iff [] events).symm

------------------------------------------------------------
-- Order
------------------------------------------------------------

/- The kinds of events. -/
inductive Step where
  | bootstrap
  | login
  | verify
  | save
  deriving DecidableEq, Repr

/- The kind of an event. -/
def Event.step : Event → Step
  | bootstrap _ => .bootstrap
  | login _ _ _ => .login
  | verify _ _ _ _ => .verify
  | save _ _ => .save

/-
  The arguments of an event that comes after these events
  are right.

  A login gets the authority that was fetched. A check is
  the first event and gets what is cached, or it gets the
  authority that was fetched and the token of the login with
  it. All calls go to the endpoint of the session.
-/
def Fits
    (session : Session)
    (before : List Event) : Event → Prop
  | .bootstrap _ => True
  | .login endpoint ca _ =>
      endpoint = session.endpoint ∧
        .bootstrap (.ok ca) ∈ before
  | .verify endpoint ca token _ =>
      endpoint = session.endpoint ∧
        ((before = [] ∧
            session.Caches ca ∧
            token = session.token) ∨
          ∃ login,
            .bootstrap (.ok ca) ∈ before ∧
              .login endpoint ca (.ok login) ∈ before ∧
              token = login.token)
  | .save _ _ => True

/-
  The events and the result of a run on a session are in
  order.
-/
structure Orderly
    (session : Session)
    (events : List Event)
    (result : Except Failure Outcome) : Prop where
  -- without an endpoint nothing is called
  noEndpoint :
    session.endpoint = "" →
      events = [] ∧
        ∃ text, result = .error (.validation text)
  -- the sequence without a readable authority
  withoutCa :
    session.endpoint ≠ "" →
    ¬ HasCa session →
      events.map Event.step <+:
        [.bootstrap, .login, .verify, .save]
  -- the sequence with a readable authority
  withCa :
    session.endpoint ≠ "" →
    HasCa session →
      events.map Event.step <+:
          [.verify, .bootstrap, .login, .save, .verify] ∧
        events ≠ []
  -- only a refused first check is followed by anything
  stops :
    ∀ before e after,
      events = before ++ e :: after →
      e.failure? ≠ none →
      after ≠ [] →
        before = [] ∧ e.step = .verify ∧ HasCa session
  -- only a failed last event makes a run fail
  ends :
    ∀ e,
      events.getLast? = some e →
        (e.failure? = none ↔ ∃ outcome, result = .ok outcome)
  atMostOnce :
    ∀ step, step ≠ .verify →
      events.countP (·.step = step) ≤ 1
  atMostTwice :
    events.countP (·.step = .verify) ≤ 2
  -- every call has the right arguments
  fits :
    ∀ before e after,
      events = before ++ e :: after →
        Fits session before e
  -- without a readable authority failures are passed on
  failureWithoutCa :
    session.endpoint ≠ "" →
    ¬ HasCa session →
    ∀ failure,
      result = .error failure →
        ∃ e,
          events.getLast? = some e ∧
            e.failure? = some failure
  -- with one they are failures of authentication
  failureWithCa :
    session.endpoint ≠ "" →
    HasCa session →
    ∀ failure,
      result = .error failure →
        (∃ saved,
          events.getLast? =
            some (.save saved (.error failure))) ∨
        ∃ text, failure = .auth text

/- The session that a login gives. -/
@[simp] theorem renewed_endpoint
    (session : Session)
    (ca : Bytes)
    (login : Login) :
    (renewed session ca login).endpoint =
      session.endpoint := rfl

@[simp] theorem renewed_token
    (session : Session)
    (ca : Bytes)
    (login : Login) :
    (renewed session ca login).token = login.token := rfl

------------------------------------------------------------
-- Every course is in order
------------------------------------------------------------

section

variable {auth : Auth σ}
variable {path : String}
variable {session after : Session}
variable {files files' : Files}
variable {events : List Event}
variable {result : Except Failure Outcome}

theorem Bootstrapping.steps
    (h :
      Bootstrapping auth path session files
        events result after files') :
    events.map Event.step <+:
      [.bootstrap, .login, .verify, .save] := by
  cases h <;> cases ‹Establishment _ _ _ _ _› <;>
    simp [Event.step, checkEvent]

theorem Renewing.steps
    (h :
      Renewing auth path session files
        events result after files') :
    events.map Event.step <+:
      [.bootstrap, .login, .save, .verify] := by
  cases h <;> cases ‹Establishment _ _ _ _ _› <;>
    simp [Event.step, checkEvent]

/- Nothing comes after an event that failed. -/
theorem Bootstrapping.stops
    (h :
      Bootstrapping auth path session files
        events result after files') :
    AtEach
      (fun _ e rest => e.failure? ≠ none → rest = [])
      [] events := by
  cases h <;> cases ‹Establishment _ _ _ _ _› <;>
    simp [AtEach, Event.failure?, checkEvent]

theorem Renewing.stops
    (before : List Event)
    (h :
      Renewing auth path session files
        events result after files') :
    AtEach
      (fun _ e rest => e.failure? ≠ none → rest = [])
      before events := by
  cases h <;> cases ‹Establishment _ _ _ _ _› <;>
    simp [AtEach, Event.failure?, checkEvent]

theorem Bootstrapping.fits
    (h :
      Bootstrapping auth path session files
        events result after files') :
    AtEach (fun before e _ => Fits session before e)
      [] events := by
  cases h <;> cases ‹Establishment _ _ _ _ _› <;>
    simp [AtEach, Fits, checkEvent]

theorem Renewing.fits
    (before : List Event)
    (h :
      Renewing auth path session files
        events result after files') :
    AtEach (fun before e _ => Fits session before e)
      before events := by
  cases h <;> cases ‹Establishment _ _ _ _ _› <;>
    simp [AtEach, Fits, checkEvent]

/-
  The last event decides how a run ends. A failure is passed
  on as it is.
-/
theorem Bootstrapping.last
    (h :
      Bootstrapping auth path session files
        events result after files') :
    ∃ e,
      events.getLast? = some e ∧
        ((e.failure? = none ∧
            ∃ outcome, result = .ok outcome) ∨
          ∃ failure,
            e.failure? = some failure ∧
              result = .error failure) := by
  cases h <;> cases ‹Establishment _ _ _ _ _› <;>
    simp [Event.failure?, checkEvent]

/-
  The last event decides how a renewal ends. Its failure
  becomes one of authentication, unless it comes from the
  file.
-/
theorem Renewing.last
    (h :
      Renewing auth path session files
        events result after files') :
    ∃ e,
      events.getLast? = some e ∧
        ((e.failure? = none ∧
            ∃ outcome, result = .ok outcome) ∨
          ∃ cause failure,
            e.failure? = some cause ∧
              result = .error failure ∧
              ((∃ saved, e = .save saved (.error failure)) ∨
                ∃ text, failure = .auth text)) := by
  cases h <;> cases ‹Establishment _ _ _ _ _› <;>
    simp [Event.failure?, checkEvent, reloginFailed,
      rejectedAgain]

/- The sequence of the events, whatever authority is cached. -/
theorem Course.steps
    (h :
      Course auth path session files
        events result after files') :
    events.map Event.step <+:
        [.bootstrap, .login, .verify, .save] ∨
      events.map Event.step <+:
        [.verify, .bootstrap, .login, .save, .verify] := by
  cases h with
  | noEndpoint _ => exact .inl (by simp)
  | bootstrapping _ _ hRest => exact .inl hRest.steps
  | verified _ _ => exact .inr (by simp [checkEvent, Event.step])
  | renewing _ _ _ hRest =>
      refine .inr ?_
      simpa [checkEvent, Event.step] using hRest.steps

theorem Course.countP_le
    (h :
      Course auth path session files
        events result after files')
    (step : Step) :
    events.countP (·.step = step) ≤
      if step = .verify then 2 else 1 := by
  have hCount :
      events.countP (·.step = step) =
        (events.map Event.step).count step := by
    rw [List.count, List.countP_map]
    apply List.countP_congr
    intro e _
    simp
  rw [hCount]
  rcases h.steps with hSteps | hSteps
  · apply Nat.le_trans (hSteps.sublist.count_le step)
    cases step <;> decide
  · apply Nat.le_trans (hSteps.sublist.count_le step)
    cases step <;> decide

/- Only a refused first check is followed by anything. -/
theorem Course.stops
    (h :
      Course auth path session files
        events result after files') :
    AtEach
      (fun before e rest =>
        e.failure? ≠ none →
        rest ≠ [] →
          before = [] ∧ e.step = .verify ∧ HasCa session)
      [] events := by
  cases h with
  | noEndpoint _ => trivial
  | bootstrapping _ _ hRest =>
      apply hRest.stops.imp
      intro _ _ _ hStop hFailed hMore
      exact absurd (hStop hFailed) hMore
  | verified _ _ => simp [AtEach]
  | renewing refusal _ hCa hRest =>
      refine ⟨fun _ _ => ⟨rfl, rfl, hasCa_of_caBytes hCa⟩, ?_⟩
      apply (hRest.stops _).imp
      intro _ _ _ hStop hFailed hMore
      exact absurd (hStop hFailed) hMore

theorem Course.fits
    (h :
      Course auth path session files
        events result after files') :
    AtEach (fun before e _ => Fits session before e)
      [] events := by
  cases h with
  | noEndpoint _ => trivial
  | bootstrapping _ _ hRest => exact hRest.fits
  | verified _ hCa =>
      have hCached := Session.caBytes_eq_some_iff.mp hCa
      exact ⟨⟨rfl, .inl ⟨rfl, hCached, rfl⟩⟩, trivial⟩
  | renewing _ _ hCa hRest =>
      have hCached := Session.caBytes_eq_some_iff.mp hCa
      exact ⟨⟨rfl, .inl ⟨rfl, hCached, rfl⟩⟩, hRest.fits _⟩

/- An event before others is not the last one. -/
theorem getLast?_cons_of_getLast?
    {first e : Event}
    (hLast : events.getLast? = some e) :
    (first :: events).getLast? = some e := by
  rw [List.getLast?_cons, hLast]
  rfl

/- The last event decides whether a run fails. -/
theorem Course.last
    (h :
      Course auth path session files
        events result after files')
    {e : Event}
    (hLast : events.getLast? = some e) :
    e.failure? = none ↔ ∃ outcome, result = .ok outcome := by
  cases h with
  | noEndpoint _ => simp at hLast
  | bootstrapping _ _ hRest =>
      rcases hRest.last with
        ⟨e', hLast', ⟨hNone, hOk⟩ | ⟨failure, hSome, rfl⟩⟩
      · cases hLast.symm.trans hLast'
        simp [hNone, hOk]
      · cases hLast.symm.trans hLast'
        simp [hSome]
  | verified _ _ =>
      cases hLast
      simp [checkEvent, Event.failure?]
  | renewing _ _ _ hRest =>
      rcases hRest.last with
        ⟨e', hLast',
          ⟨hNone, hOk⟩ | ⟨cause, failure, hSome, rfl, _⟩⟩
      · cases hLast.symm.trans
          (getLast?_cons_of_getLast? hLast')
        simp [hNone, hOk]
      · cases hLast.symm.trans
          (getLast?_cons_of_getLast? hLast')
        simp [hSome]

/- Every course is in order. -/
theorem Course.orderly
    (h :
      Course auth path session files
        events result after files') :
    Orderly session events result where
  noEndpoint := by
    intro hEndpoint
    cases h <;> first | contradiction | exact ⟨rfl, _, rfl⟩
  withoutCa := by
    intro hEndpoint hNone
    cases h with
    | noEndpoint hEmpty => exact absurd hEmpty hEndpoint
    | bootstrapping _ _ hRest => exact hRest.steps
    | verified _ hCa =>
        exact absurd (hasCa_of_caBytes hCa) hNone
    | renewing _ _ hCa _ =>
        exact absurd (hasCa_of_caBytes hCa) hNone
  withCa := by
    intro hEndpoint hSome
    cases h with
    | noEndpoint hEmpty => exact absurd hEmpty hEndpoint
    | bootstrapping _ hCa _ => exact absurd hSome hCa
    | verified _ _ => simp [checkEvent, Event.step]
    | renewing _ _ _ hRest =>
        simpa [checkEvent, Event.step] using hRest.steps
  stops := (forall_place_iff events).mpr h.stops
  ends := fun _ hLast => h.last hLast
  atMostOnce := by
    intro step hStep
    simpa [hStep] using h.countP_le step
  atMostTwice := by
    simpa using h.countP_le .verify
  fits := (forall_place_iff events).mpr h.fits
  failureWithoutCa := by
    intro hEndpoint hNone failure hFailure
    cases h with
    | noEndpoint hEmpty => exact absurd hEmpty hEndpoint
    | bootstrapping _ _ hRest =>
        rcases hRest.last with
          ⟨e, hLast, ⟨_, _, hOk⟩ | ⟨_, hSome, hError⟩⟩
        · cases hOk.symm.trans hFailure
        · cases hError.symm.trans hFailure
          exact ⟨e, hLast, hSome⟩
    | verified _ hCa =>
        exact absurd (hasCa_of_caBytes hCa) hNone
    | renewing _ _ hCa _ =>
        exact absurd (hasCa_of_caBytes hCa) hNone
  failureWithCa := by
    intro hEndpoint hSome failure hFailure
    cases h with
    | noEndpoint hEmpty => exact absurd hEmpty hEndpoint
    | bootstrapping _ hCa _ => exact absurd hSome hCa
    | verified _ _ => cases hFailure
    | renewing _ _ _ hRest =>
        rcases hRest.last with
          ⟨e, hLast,
            ⟨_, _, hOk⟩ | ⟨_, _, _, hError, hSource⟩⟩
        · cases hOk.symm.trans hFailure
        · cases hError.symm.trans hFailure
          rcases hSource with ⟨saved, rfl⟩ | hAuth
          · exact
              .inl ⟨saved, getLast?_cons_of_getLast? hLast⟩
          · exact .inr hAuth

end

/-
  Every run calls what the order of calls permits, with the
  right arguments.
-/
theorem run_orderly
    (auth : Auth σ)
    (path : String)
    (s : State σ) :
    ensureValid auth path s =
        ((run auth path s).result,
          (run auth path s).state) ∧
      (ensureValid auth.recorded path
          (s.mapAuth fun a => (a, []))).2.auth.2 =
        (run auth path s).calls ∧
      Orderly s.session (run auth path s).events
        (run auth path s).result := by
  exact
    ⟨run_eq_ensureValid auth path s,
      recorded_calls_eq auth path s,
      (course_run auth path s).orderly⟩

end Platform
end WorkspaceClient
