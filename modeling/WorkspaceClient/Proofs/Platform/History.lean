import WorkspaceClient.Proofs.Platform.Effects

/-
  This file shows what several runs do one after another,
  that make one session valid and keep it in one file. The
  session in memory and the one in the file may belong to
  different logins, but each of them belongs to one login
  only.

  Key definitions include:
    * `Platform.successive`
    * `Platform.runs`
    * `Platform.Remembers`
    * `Platform.Stores`
    * `Platform.Settled`
    * `Platform.History`

  Main declarations:
    * `Platform.Effect.remembers`
    * `Platform.Effect.stores`
    * `Platform.settled_of_run`
    * `Platform.successive_history`
-/

namespace WorkspaceClient
namespace Platform

variable {σ : Type}

------------------------------------------------------------
-- Successive runs
------------------------------------------------------------

/-
  Make the session valid again and again, each time with
  another authentication, whatever the earlier runs ended
  in. The results are given in order.
-/
def successive
    (path : String) :
    List (Auth σ) →
      Task (State σ) (List (Except Failure Outcome))
  | [] => return []
  | auth :: later => do
      let result ← (ensureValid auth path).attempt
      let results ← successive path later
      return result :: results

/- The same runs in order, each with its log. -/
def runs
    (path : String) : List (Auth σ) → State σ → List (Run σ)
  | [], _ => []
  | auth :: later, s =>
      run auth path s
        :: runs path later (run auth path s).state

/- The state after the last run. -/
def stateAfter
    (path : String) : List (Auth σ) → State σ → State σ
  | [], s => s
  | auth :: later, s =>
      stateAfter path later (run auth path s).state

theorem successive_eq
    (path : String)
    (auths : List (Auth σ))
    (s : State σ) :
    successive path auths s =
      (.ok ((runs path auths s).map Run.result),
        stateAfter path auths s) := by
  induction auths generalizing s with
  | nil => rfl
  | cons auth later ih =>
      have hRun :=
        Task.attempt_eq (run_eq_ensureValid auth path s)
      rw [successive, Task.bind_ok hRun, Task.bind_ok (ih _)]
      rfl

/- Each of the runs is a run from some state. -/
theorem exists_of_mem_runs
    {path : String}
    {auths : List (Auth σ)}
    {s : State σ}
    {r : Run σ}
    (hMem : r ∈ runs path auths s) :
    ∃ auth ∈ auths, ∃ t, r = run auth path t := by
  induction auths generalizing s with
  | nil => simp [runs] at hMem
  | cons auth later ih =>
      rcases List.mem_cons.mp hMem with rfl | hMem
      · exact ⟨auth, List.mem_cons_self, s, rfl⟩
      · rcases ih hMem with ⟨auth', hLater, hRun⟩
        exact ⟨auth', List.mem_cons_of_mem _ hLater, hRun⟩

------------------------------------------------------------
-- The last login
------------------------------------------------------------

/- A run has fetched an authority and logged in with it. -/
def Run.HasLogin
    (r : Run σ)
    (endpoint : String) : Prop :=
  ∃ ca login, LogsIn endpoint r.events ca login

/-
  The session in memory after several runs: the first one if
  no run has logged in, and else that of the last login.
-/
inductive Remembers
    (session : Session)
    (rs : List (Run σ)) : Session → Prop where
  | initial
      (hNone : ∀ r ∈ rs, ¬ r.HasLogin session.endpoint) :
      Remembers session rs session
  | latest
      {before later : List (Run σ)}
      {r : Run σ}
      {ca : Bytes}
      {login : Login}
      (hRuns : rs = before ++ r :: later)
      (hLogin : LogsIn session.endpoint r.events ca login)
      (hLater : ∀ q ∈ later, ¬ q.HasLogin session.endpoint) :
      Remembers session rs
        (loginSession session.endpoint ca login)

/-
  The files after several runs: the first ones if no run has
  saved, and else the file of the session loads as that of
  the login of the last run that has.
-/
inductive Stores
    (path : String)
    (session : Session)
    (files : Files)
    (rs : List (Run σ)) : Files → Prop where
  | initial
      (hNone : ∀ r ∈ rs, NoSave r.events) :
      Stores path session files rs files
  | latest
      {before later : List (Run σ)}
      {r : Run σ}
      {ca : Bytes}
      {login : Login}
      {files' : Files}
      (hRuns : rs = before ++ r :: later)
      (hLogin : LogsIn session.endpoint r.events ca login)
      (hLater : ∀ q ∈ later, NoSave q.events)
      (hLoad :
        SessionFile.load path files' =
          .ok (loginSession session.endpoint ca login)) :
      Stores path session files rs files'

section

variable {path : String}
variable {session next after : Session}
variable {files files₁ files' : Files}
variable {r : Run σ}
variable {rs : List (Run σ)}

theorem NoLogin.not_hasLogin
    (h : NoLogin r.events)
    (endpoint : String) :
    ¬ r.HasLogin endpoint := by
  rintro ⟨ca, login, hLogin⟩
  exact h _ _ _ hLogin.mem_accepted

/- No run changes the endpoint. -/
theorem Effect.endpoint_eq
    (h :
      Effect path session files r.events r.result next files₁) :
    next.endpoint = session.endpoint := by
  cases h <;> rfl

/- What is remembered after one run and after the others. -/
theorem Effect.remembers
    (h :
      Effect path session files r.events r.result next files₁)
    (hRest : Remembers next rs after) :
    Remembers session (r :: rs) after := by
  have hEndpoint := h.endpoint_eq
  cases hRest with
  | initial hNone =>
      rw [hEndpoint] at hNone
      cases h with
      | unchanged hLogin _ =>
          apply Remembers.initial
          rintro q (_ | ⟨_, hMem⟩)
          · exact hLogin.not_hasLogin _
          · exact hNone q hMem
      | unsaved hLogin _ _ _ =>
          exact .latest (List.nil_append _).symm hLogin hNone
      | saved hLogin _ _ =>
          exact .latest (List.nil_append _).symm hLogin hNone
      | spoiled hLogin _ =>
          exact .latest (List.nil_append _).symm hLogin hNone
  | @latest before later q _ _ hRuns hLogin hLater =>
      rw [hEndpoint] at hLogin hLater ⊢
      have hSplit : r :: rs = (r :: before) ++ q :: later := by
        rw [hRuns, List.cons_append]
      exact .latest hSplit hLogin hLater

/- What the file holds after one run and after the others. -/
theorem Effect.stores
    (h :
      Effect path session files r.events r.result next files₁)
    (hSaves : NoFailedSave r.events)
    (hRest : Stores path next files₁ rs files') :
    Stores path session files (r :: rs) files' := by
  have hEndpoint := h.endpoint_eq
  cases hRest with
  | initial hNone =>
      cases h with
      | unchanged _ hSave =>
          exact .initial (List.forall_mem_cons.mpr ⟨hSave, hNone⟩)
      | unsaved _ hSave _ _ =>
          exact .initial (List.forall_mem_cons.mpr ⟨hSave, hNone⟩)
      | saved hLogin hSave _ =>
          exact
            .latest (List.nil_append _).symm hLogin hNone
              (SessionFile.load_of_save hSave)
      | spoiled _ hSave => exact absurd hSave (hSaves _ _)
  | @latest before later q _ _ _ hRuns hLogin hLater hLoad =>
      rw [hEndpoint] at hLogin hLoad
      have hSplit : r :: rs = (r :: before) ++ q :: later := by
        rw [hRuns, List.cons_append]
      exact .latest hSplit hLogin hLater hLoad

end

theorem remembers_runs
    (path : String)
    (auths : List (Auth σ))
    (s : State σ) :
    Remembers s.session (runs path auths s)
      (stateAfter path auths s).session := by
  induction auths generalizing s with
  | nil => exact .initial (by simp [runs])
  | cons auth later ih =>
      have hEffect := (course_run auth path s).effect
      exact hEffect.remembers (ih (run auth path s).state)

theorem stores_runs
    (path : String)
    (auths : List (Auth σ))
    (s : State σ)
    (hSaves :
      ∀ r ∈ runs path auths s, NoFailedSave r.events) :
    Stores path s.session s.files (runs path auths s)
      (stateAfter path auths s).files := by
  induction auths generalizing s with
  | nil => exact .initial (by simp [runs])
  | cons auth later ih =>
      rw [runs, List.forall_mem_cons] at hSaves
      have hEffect := (course_run auth path s).effect
      exact
        hEffect.stores hSaves.1
          (ih (run auth path s).state hSaves.2)

------------------------------------------------------------
-- Stability
------------------------------------------------------------

/-
  Every run on a session starts with a check of it as it is,
  and if the check succeeds the run does nothing else.
-/
def Settled
    (path : String)
    (session : Session) : Prop :=
  ∀ (τ : Type) (auth : Auth τ) (t : State τ),
    t.session = session →
    ∃ ca answer,
      session.caBytes = .ok (some ca) ∧
        (run auth path t).events.head? =
          some (checkEvent session ca answer) ∧
        (answer = .ok () →
          (run auth path t).events =
              [checkEvent session ca (.ok ())] ∧
            ∃ t',
              ensureValid auth path t =
                  (.ok .verified, t') ∧
                t'.session = session ∧
                t'.files = t.files)

/- A session with an endpoint and an authority is settled. -/
theorem settled_of_hasCa
    (path : String)
    {session : Session}
    (hEndpoint : session.endpoint ≠ "")
    (hCa : HasCa session) :
    Settled path session := by
  rintro τ auth t rfl
  have hCourse := course_run auth path t
  rw [run_eq_ensureValid]
  generalize (run auth path t).events = events at hCourse ⊢
  generalize (run auth path t).result = result at hCourse ⊢
  generalize (run auth path t).state = after at hCourse ⊢
  rcases after with ⟨session, files, warnings, a⟩
  cases hCourse with
  | noEndpoint hEmpty => exact absurd hEmpty hEndpoint
  | bootstrapping _ hNone _ => exact absurd hCa hNone
  | verified _ hCached =>
      exact
        ⟨_, .ok (), hCached, rfl,
          fun _ => ⟨rfl, _, rfl, rfl, rfl⟩⟩
  | renewing refusal _ hCached _ =>
      refine ⟨_, .error refusal, hCached, rfl, ?_⟩
      intro hOk
      cases hOk

/- A run that succeeds leaves the endpoint that it needs. -/
theorem Course.endpoint_of_ok
    {auth : Auth σ}
    {path : String}
    {session after : Session}
    {files files' : Files}
    {events : List Event}
    {outcome : Outcome}
    (h :
      Course auth path session files events (.ok outcome)
        after files') :
    after.endpoint ≠ "" := by
  have hNonempty : session.endpoint ≠ "" := by
    cases h <;> assumption
  have hSame : after.endpoint = session.endpoint := by
    cases h.effect <;> rfl
  rwa [hSame]

/-
  After a run that succeeds the session is settled, and the
  session that it has saved is this one.
-/
theorem settled_of_run
    {auth : Auth σ}
    {path : String}
    {t : State σ}
    {outcome : Outcome}
    {session : Session}
    (hCa :
      ∀ ca,
        .bootstrap (.ok ca) ∈ (run auth path t).events →
          ca ≠ [])
    (hOk : (run auth path t).result = .ok outcome)
    (hSession :
      session = (run auth path t).state.session ∨
        outcome ≠ .verified ∧
          SessionFile.load path
              (run auth path t).state.files =
            .ok session) :
    Settled path session := by
  have hCourse := course_run auth path t
  rw [hOk] at hCourse
  have hAccepted := hCourse.accepted hCa
  have hSame :
      session = (run auth path t).state.session := by
    rcases hSession with hSame | ⟨hChanged, hLoad⟩
    · exact hSame
    · rcases hAccepted.changed hChanged with
        ⟨_, _, _, _, _, hKept⟩
      rw [hLoad] at hKept
      exact Except.ok.inj hKept
  rcases hAccepted.lastCall with ⟨ca, hCached, _⟩
  rw [hSame]
  exact
    settled_of_hasCa path hCourse.endpoint_of_ok
      (hasCa_of_caBytes hCached)

------------------------------------------------------------
-- Histories
------------------------------------------------------------

/-
  What several runs have done, from a first state to the
  last one.
-/
structure History
    (path : String)
    (s : State σ)
    (rs : List (Run σ))
    (s' : State σ) : Prop where
  -- the session is the first one or that of the last login
  memory : Remembers s.session rs s'.session
  -- the file is the first one or that of one login
  file :
    (∀ r ∈ rs, NoFailedSave r.events) →
      Stores path s.session s.files rs s'.files
  -- what a run has accepted or saved stays accepted
  settled :
    ∀ r ∈ rs,
    ∀ outcome,
      r.result = .ok outcome →
      ∀ session,
        session = r.state.session ∨
            outcome ≠ .verified ∧
              SessionFile.load path r.state.files =
                .ok session →
          Settled path session

/-
  However many runs there are, and whatever they end in, the
  session and the file each belong to one login, if no empty
  authority was fetched. The first runs of a list are such a
  list themselves, so this holds after every run.
-/
theorem successive_history
    (path : String)
    (auths : List (Auth σ))
    (s : State σ)
    (hCa :
      ∀ r ∈ runs path auths s,
      ∀ ca,
        .bootstrap (.ok ca) ∈ r.events → ca ≠ []) :
    successive path auths s =
        (.ok ((runs path auths s).map Run.result),
          stateAfter path auths s) ∧
      History path s (runs path auths s)
        (stateAfter path auths s) := by
  refine ⟨successive_eq path auths s, ?_⟩
  constructor
  · exact remembers_runs path auths s
  · exact stores_runs path auths s
  · intro r hMem outcome hOk session hSession
    have hFetched := hCa r hMem
    rcases exists_of_mem_runs hMem with ⟨auth, _, t, rfl⟩
    exact settled_of_run hFetched hOk hSession

/-
  A session that is refused after its login is remembered,
  but it is not in the file.
-/
theorem successive_history_refused :
    (∀ r ∈ runs "/s" [.rejecting, .lenient] freshState,
      ∀ ca,
        .bootstrap (.ok ca) ∈ r.events → ca ≠ []) ∧
      (runs "/s" [.rejecting, .lenient] freshState).map
          Run.result =
        [.error (.auth "rejected"), .ok .verified] ∧
      successive "/s" [.rejecting, .lenient] freshState =
        (.ok [.error (.auth "rejected"), .ok .verified],
          stateAfter "/s" [.rejecting, .lenient]
            freshState) ∧
      History "/s" freshState
        (runs "/s" [.rejecting, .lenient] freshState)
        (stateAfter "/s" [.rejecting, .lenient]
          freshState) := by
  have hCa :
      ∀ r ∈ runs "/s" [.rejecting, .lenient] freshState,
      ∀ ca,
        .bootstrap (.ok ca) ∈ r.events → ca ≠ [] := by
    intro r hMem ca hFetched
    rcases exists_of_mem_runs hMem with ⟨auth, hAuth, t, rfl⟩
    rcases (course_run auth "/s" t).gives hFetched with
      ⟨_, _, hGiven⟩
    rcases hAuth with _ | ⟨_, _ | ⟨_, hAuth⟩⟩
    · cases hGiven
      decide
    · cases hGiven
      decide
    · cases hAuth
  have hHistory :=
    successive_history "/s" [.rejecting, .lenient]
      freshState hCa
  exact ⟨hCa, rfl, hHistory.1, hHistory.2⟩

end Platform
end WorkspaceClient
