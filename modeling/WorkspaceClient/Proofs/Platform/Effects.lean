import WorkspaceClient.Proofs.Platform.Validity

/-
  This file shows what a run that makes a session valid does
  to the session and to its file, also when it fails.

  A run has one of four effects. Without a login it changes
  nothing. With one, the session is wholly that of the
  login, and the file is as it was, or it holds this
  session, or saving it has failed.

  Key definitions include:
    * `Platform.loginSession`
    * `Platform.LogsIn`
    * `Platform.Effect`
    * `Platform.Aborted`

  Main declarations:
    * `Platform.Course.effect`
    * `Platform.ensureValid_aborted`
-/

namespace WorkspaceClient
namespace Platform

variable {σ : Type}

------------------------------------------------------------
-- Logins
------------------------------------------------------------

/-
  The session of a login with an authority. It depends on
  nothing else but the endpoint.
-/
def loginSession
    (endpoint : String)
    (ca : Bytes)
    (login : Login) : Session :=
  { endpoint
    token := login.token
    user := login.user
    isPlatform := true
    ca := Base64.encode ca }

theorem renewed_eq_loginSession
    (session : Session)
    (ca : Bytes)
    (login : Login) :
    renewed session ca login =
      loginSession session.endpoint ca login := rfl

/- An authority that is not empty is read from its session. -/
theorem caBytes_loginSession
    (endpoint : String)
    (login : Login)
    {ca : Bytes}
    (hCa : ca ≠ []) :
    (loginSession endpoint ca login).caBytes =
      .ok (some ca) :=
  (loginSession endpoint ca login).caBytes_withCa hCa

/-
  One authority was fetched, and one login with it, at an
  endpoint, has succeeded.
-/
structure LogsIn
    (endpoint : String)
    (events : List Event)
    (ca : Bytes)
    (login : Login) : Prop where
  fetched :
    events.filter (·.step = .bootstrap) =
      [.bootstrap (.ok ca)]
  accepted :
    events.filter (·.step = .login) =
      [.login endpoint ca (.ok login)]

/- No login has succeeded. -/
def NoLogin
    (events : List Event) : Prop :=
  ∀ endpoint ca login, .login endpoint ca (.ok login) ∉ events

/- It was not attempted to save a session. -/
def NoSave
    (events : List Event) : Prop :=
  ∀ saved answer, .save saved answer ∉ events

/- No attempt to save a session has failed. -/
def NoFailedSave
    (events : List Event) : Prop :=
  ∀ saved failure, .save saved (.error failure) ∉ events

theorem LogsIn.mem_fetched
    {endpoint : String}
    {events : List Event}
    {ca : Bytes}
    {login : Login}
    (h : LogsIn endpoint events ca login) :
    .bootstrap (.ok ca) ∈ events := by
  have hMem :
      .bootstrap (.ok ca) ∈
        events.filter (·.step = .bootstrap) := by
    rw [h.fetched]
    exact List.mem_singleton_self _
  exact (List.mem_filter.mp hMem).1

theorem LogsIn.mem_accepted
    {endpoint : String}
    {events : List Event}
    {ca : Bytes}
    {login : Login}
    (h : LogsIn endpoint events ca login) :
    .login endpoint ca (.ok login) ∈ events := by
  have hMem :
      .login endpoint ca (.ok login) ∈
        events.filter (·.step = .login) := by
    rw [h.accepted]
    exact List.mem_singleton_self _
  exact (List.mem_filter.mp hMem).1

/- There is no other login than this one. -/
theorem LogsIn.unique
    {endpoint endpoint' : String}
    {events : List Event}
    {ca ca' : Bytes}
    {login login' : Login}
    (h : LogsIn endpoint events ca login)
    (hOther : .login endpoint' ca' (.ok login') ∈ events) :
    ca' = ca ∧ login' = login := by
  have hMem :
      .login endpoint' ca' (.ok login') ∈
        events.filter (·.step = .login) :=
    List.mem_filter.mpr ⟨hOther, by simp [Event.step]⟩
  rw [h.accepted, List.mem_singleton] at hMem
  simp only [Event.login.injEq, Except.ok.injEq] at hMem
  exact hMem.2

theorem LogsIn.not_noLogin
    {endpoint : String}
    {events : List Event}
    {ca : Bytes}
    {login : Login}
    (h : LogsIn endpoint events ca login) :
    ¬ NoLogin events :=
  fun hNone => hNone _ _ _ h.mem_accepted

------------------------------------------------------------
-- Effects
------------------------------------------------------------

/-
  What a run with these events and this result does to a
  session and to the files.
-/
inductive Effect
    (path : String)
    (session : Session)
    (files : Files)
    (events : List Event)
    (result : Except Failure Outcome) :
    Session → Files → Prop where
  | unchanged
      (hLogin : NoLogin events)
      (hSave : NoSave events) :
      Effect path session files events result session files
  -- the new session was refused before it was saved
  | unsaved
      {ca : Bytes}
      {login : Login}
      {refusal : Failure}
      (hLogin : LogsIn session.endpoint events ca login)
      (hSave : NoSave events)
      (hCa : ¬ HasCa session)
      (hLast :
        events.getLast? =
          some (.verify session.endpoint ca login.token
            (.error refusal))) :
      Effect path session files events result
        (loginSession session.endpoint ca login) files
  -- the new session was saved, and it may be refused then
  | saved
      {ca : Bytes}
      {login : Login}
      {files' : Files}
      (hLogin : LogsIn session.endpoint events ca login)
      (hSave :
        SessionFile.save path
            (loginSession session.endpoint ca login) files =
          (.ok (), files'))
      (hEnd :
        (∃ outcome, result = .ok outcome) ∨
          HasCa session ∧
            ∃ refusal,
              events.getLast? =
                some (.verify session.endpoint ca login.token
                  (.error refusal))) :
      Effect path session files events result
        (loginSession session.endpoint ca login) files'
  -- the new session could not be saved
  | spoiled
      {ca : Bytes}
      {login : Login}
      {saved : Session}
      {failure : Failure}
      {files' : Files}
      (hLogin : LogsIn session.endpoint events ca login)
      (hSave : .save saved (.error failure) ∈ events) :
      Effect path session files events result
        (loginSession session.endpoint ca login) files'

section

variable {auth : Auth σ}
variable {path : String}
variable {session after : Session}
variable {files files' : Files}
variable {events : List Event}
variable {result : Except Failure Outcome}

/- A session that is not established is left as it was. -/
theorem Establishment.of_error
    {failure : Failure}
    (h :
      Establishment auth session events (.error failure)
        after) :
    after = session ∧ NoLogin events ∧ NoSave events := by
  cases h <;>
    exact ⟨rfl, by simp [NoLogin], by simp [NoSave]⟩

/- A session is established by one login. -/
theorem Establishment.of_ok
    {ca : Bytes}
    (h : Establishment auth session events (.ok ca) after) :
    ∃ login,
      events =
          [.bootstrap (.ok ca),
            .login session.endpoint ca (.ok login)] ∧
        after = loginSession session.endpoint ca login := by
  cases h with
  | @established ca login _ =>
      exact
        ⟨login, rfl, renewed_eq_loginSession session ca login⟩

/- Checks and savings are no logins. -/
theorem logsIn_append
    {endpoint : String}
    {ca : Bytes}
    {login : Login}
    {more : List Event}
    (hMore :
      ∀ e ∈ more, e.step ≠ .bootstrap ∧ e.step ≠ .login) :
    LogsIn endpoint
      ([.bootstrap (.ok ca),
        .login endpoint ca (.ok login)] ++ more) ca login := by
  have hFetches : more.filter (·.step = .bootstrap) = [] := by
    rw [List.filter_eq_nil_iff]
    intro e he
    simpa using (hMore e he).1
  have hLogins : more.filter (·.step = .login) = [] := by
    rw [List.filter_eq_nil_iff]
    intro e he
    simpa using (hMore e he).2
  constructor
  · rw [List.filter_append, hFetches]
    rfl
  · rw [List.filter_append, hLogins]
    rfl

theorem LogsIn.cons
    {endpoint : String}
    {ca : Bytes}
    {login : Login}
    (first : Event)
    (hFirst : first.step = .verify)
    (h : LogsIn endpoint events ca login) :
    LogsIn endpoint (first :: events) ca login where
  fetched := by
    rw [List.filter_cons_of_neg (by simp [hFirst]), h.fetched]
  accepted := by
    rw [List.filter_cons_of_neg (by simp [hFirst]),
      h.accepted]

/- A check is no login. -/
theorem NoLogin.cons
    {first : Event}
    (hFirst : first.step = .verify)
    (h : NoLogin events) :
    NoLogin (first :: events) := by
  intro endpoint ca login hMem
  rcases List.mem_cons.mp hMem with rfl | hMem
  · cases hFirst
  · exact h _ _ _ hMem

/- A check saves nothing. -/
theorem NoSave.cons
    {first : Event}
    (hFirst : first.step = .verify)
    (h : NoSave events) :
    NoSave (first :: events) := by
  intro saved answer hMem
  rcases List.mem_cons.mp hMem with rfl | hMem
  · cases hFirst
  · exact h _ _ hMem

/- A check before a run adds nothing to its effect. -/
theorem Effect.cons
    (first : Event)
    (hFirst : first.step = .verify)
    (h :
      Effect path session files events result after files') :
    Effect path session files (first :: events) result after
      files' := by
  cases h with
  | unchanged hLogin hSave =>
      exact .unchanged (hLogin.cons hFirst) (hSave.cons hFirst)
  | unsaved hLogin hSave hCa hLast =>
      exact
        .unsaved (hLogin.cons first hFirst) (hSave.cons hFirst)
          hCa (getLast?_cons_of_getLast? hLast)
  | saved hLogin hSave hEnd =>
      apply Effect.saved (hLogin.cons first hFirst) hSave
      rcases hEnd with hOk | ⟨hCa, refusal, hLast⟩
      · exact .inl hOk
      · exact
          .inr ⟨hCa, refusal, getLast?_cons_of_getLast? hLast⟩
  | spoiled hLogin hSave =>
      exact
        .spoiled (hLogin.cons first hFirst)
          (List.mem_cons_of_mem _ hSave)

theorem Bootstrapping.effect
    (h :
      Bootstrapping auth path session files
        events result after files')
    (hCa : ¬ HasCa session) :
    Effect path session files events result after files' := by
  cases h with
  | unestablished hEvents =>
      rcases hEvents.of_error with ⟨rfl, hLogin, hSave⟩
      exact .unchanged hLogin hSave
  | unverified refusal hEvents =>
      rcases hEvents.of_ok with ⟨login, rfl, rfl⟩
      apply Effect.unsaved _ _ hCa rfl
      · exact logsIn_append (by simp [checkEvent, Event.step])
      · simp [NoSave, checkEvent]
  | unsaved hEvents hSave =>
      rcases hEvents.of_ok with ⟨login, rfl, rfl⟩
      apply Effect.spoiled
      · exact logsIn_append (by simp [checkEvent, Event.step])
      · exact
          List.mem_append_right _
            (List.mem_cons_of_mem _ (List.mem_singleton_self _))
  | bootstrapped hEvents hSave =>
      rcases hEvents.of_ok with ⟨login, rfl, rfl⟩
      apply Effect.saved _ hSave (.inl ⟨_, rfl⟩)
      exact logsIn_append (by simp [checkEvent, Event.step])

theorem Renewing.effect
    (h :
      Renewing auth path session files
        events result after files')
    (hCa : HasCa session) :
    Effect path session files events result after files' := by
  cases h with
  | unestablished hEvents =>
      rcases hEvents.of_error with ⟨rfl, hLogin, hSave⟩
      exact .unchanged hLogin hSave
  | unsaved hEvents hSave =>
      rcases hEvents.of_ok with ⟨login, rfl, rfl⟩
      apply Effect.spoiled
      · exact logsIn_append (by simp [Event.step])
      · exact
          List.mem_append_right _ (List.mem_singleton_self _)
  | rejected refusal hEvents hSave =>
      rcases hEvents.of_ok with ⟨login, rfl, rfl⟩
      apply Effect.saved _ hSave (.inr ⟨hCa, refusal, rfl⟩)
      exact logsIn_append (by simp [checkEvent, Event.step])
  | reauthenticated hEvents hSave =>
      rcases hEvents.of_ok with ⟨login, rfl, rfl⟩
      apply Effect.saved _ hSave (.inl ⟨_, rfl⟩)
      exact logsIn_append (by simp [checkEvent, Event.step])

/- Every course has one of the effects. -/
theorem Course.effect
    (h :
      Course auth path session files
        events result after files') :
    Effect path session files events result after files' := by
  cases h with
  | noEndpoint _ =>
      exact .unchanged (by simp [NoLogin]) (by simp [NoSave])
  | bootstrapping _ hCa hRest => exact hRest.effect hCa
  | verified _ _ =>
      exact
        .unchanged (by simp [NoLogin, checkEvent])
          (by simp [NoSave, checkEvent])
  | renewing refusal _ hCa hRest =>
      exact (hRest.effect (hasCa_of_caBytes hCa)).cons _ rfl

------------------------------------------------------------
-- Failed runs
------------------------------------------------------------

/-
  What a run leaves behind that fails, unless it fails to
  save the session.
-/
structure Aborted
    (path : String)
    (session : Session)
    (files : Files)
    (events : List Event)
    (after : Session)
    (files' : Files) : Prop where
  -- without a login nothing changes
  unchanged :
    NoLogin events → after = session ∧ files' = files
  -- the session of a login is complete, and it was refused
  renewed :
    ∀ endpoint ca login,
      .login endpoint ca (.ok login) ∈ events →
        .bootstrap (.ok ca) ∈ events ∧
          after = loginSession session.endpoint ca login ∧
          (ca ≠ [] → after.caBytes = .ok (some ca)) ∧
          ∃ refusal,
            events.getLast? =
              some (.verify session.endpoint ca login.token
                (.error refusal))
  -- it is not in the file yet if no authority was cached
  unsaved :
    ¬ NoLogin events → ¬ HasCa session → files' = files
  -- and it is there if one was
  saved :
    ¬ NoLogin events →
    HasCa session →
      SessionFile.load path files' = .ok after

/- The session of a login that is refused is complete. -/
theorem LogsIn.renewed
    {ca : Bytes}
    {login : Login}
    {refusal : Failure}
    (h : LogsIn session.endpoint events ca login)
    (hLast :
      events.getLast? =
        some (.verify session.endpoint ca login.token
          (.error refusal)))
    (endpoint' : String)
    (ca' : Bytes)
    (login' : Login)
    (hMem : .login endpoint' ca' (.ok login') ∈ events) :
    .bootstrap (.ok ca') ∈ events ∧
      loginSession session.endpoint ca login =
        loginSession session.endpoint ca' login' ∧
      (ca' ≠ [] →
        (loginSession session.endpoint ca login).caBytes =
          .ok (some ca')) ∧
      ∃ refusal,
        events.getLast? =
          some (.verify session.endpoint ca' login'.token
            (.error refusal)) := by
  rcases h.unique hMem with ⟨rfl, rfl⟩
  exact
    ⟨h.mem_fetched, rfl, caBytes_loginSession _ _, _, hLast⟩

/- The effect of a failed run, unless it failed to save. -/
theorem Effect.aborted
    {failure : Failure}
    (h :
      Effect path session files events (.error failure) after
        files')
    (hSaves : NoFailedSave events) :
    Aborted path session files events after files' := by
  cases h with
  | unchanged hLogin hSave =>
      exact
        { unchanged := fun _ => ⟨rfl, rfl⟩
          renewed := fun endpoint ca login hMem =>
            absurd hMem (hLogin endpoint ca login)
          unsaved := fun hSome => absurd hLogin hSome
          saved := fun hSome => absurd hLogin hSome }
  | unsaved hLogin hSave hCa hLast =>
      exact
        { unchanged := fun hNone =>
            absurd hNone hLogin.not_noLogin
          renewed := hLogin.renewed hLast
          unsaved := fun _ _ => rfl
          saved := fun _ hSome => absurd hSome hCa }
  | saved hLogin hSave hEnd =>
      rcases hEnd with ⟨outcome, hOk⟩ | ⟨hCa, refusal, hLast⟩
      · cases hOk
      · exact
          { unchanged := fun hNone =>
              absurd hNone hLogin.not_noLogin
            renewed := hLogin.renewed hLast
            unsaved := fun _ hNone => absurd hCa hNone
            saved := fun _ _ => SessionFile.load_of_save hSave }
  | spoiled hLogin hSave =>
      exact absurd hSave (hSaves _ _)

end

/-
  A run that fails, but not to save, changes nothing without
  a login, and leaves nothing of the old session with one.
-/
theorem ensureValid_aborted
    (auth : Auth σ)
    (path : String)
    (s s' : State σ)
    (failure : Failure)
    (hSaves : NoFailedSave (run auth path s).events)
    (hError : ensureValid auth path s = (.error failure, s')) :
    Aborted path s.session s.files
      (run auth path s).events s'.session s'.files := by
  have hEffect := (course_run auth path s).effect
  rw [run_eq_ensureValid, Prod.mk.injEq] at hError
  rcases hError with ⟨hResult, hState⟩
  rw [hResult, hState] at hEffect
  exact hEffect.aborted hSaves

/- An authentication that refuses every session. -/
def Auth.rejecting : Auth Unit :=
  { Auth.lenient with
    verify := fun _ _ _ => .fail (.auth "rejected") }

/- A session with an authority, and nothing but the root. -/
def cachedState : State Unit :=
  { freshState with
    session := freshState.session.withCa [0x43, 0x41] }

theorem ensureValid_aborted_cached :
    NoFailedSave (run Auth.rejecting "/s" cachedState).events ∧
      ensureValid Auth.rejecting "/s" cachedState =
        (.error (rejectedAgain (.auth "rejected")),
          (ensureValid Auth.rejecting "/s" cachedState).2) ∧
      Aborted "/s" cachedState.session cachedState.files
        (run Auth.rejecting "/s" cachedState).events
        (ensureValid Auth.rejecting "/s" cachedState).2.session
        (ensureValid Auth.rejecting "/s"
          cachedState).2.files := by
  have hSaves :
      NoFailedSave
        (run Auth.rejecting "/s" cachedState).events := by
    have hEvents :
        (run Auth.rejecting "/s" cachedState).events =
          [.verify "https://d" [0x43, 0x41] ""
              (.error (.auth "rejected")),
            .bootstrap (.ok [0x43, 0x41]),
            .login "https://d" [0x43, 0x41]
              (.ok { token := "t", user := "platform" }),
            .save
              (loginSession "https://d" [0x43, 0x41]
                { token := "t", user := "platform" })
              (.ok ()),
            .verify "https://d" [0x43, 0x41] "t"
              (.error (.auth "rejected"))] := rfl
    rw [hEvents]
    simp [NoFailedSave]
  have hError :
      ensureValid Auth.rejecting "/s" cachedState =
        (.error (rejectedAgain (.auth "rejected")),
          (ensureValid Auth.rejecting "/s" cachedState).2) :=
    rfl
  exact
    ⟨hSaves, hError,
      ensureValid_aborted Auth.rejecting "/s" cachedState _ _
        hSaves hError⟩

end Platform
end WorkspaceClient
