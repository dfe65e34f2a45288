import WorkspaceClient.Proofs.Platform.Calls
import WorkspaceClient.Proofs.Session
import WorkspaceClient.Proofs.Trust

/-
  This file shows what a successful run leaves behind: a
  session that was accepted as it is by the last call, and a
  file that loads as this session if it has changed.

  Key definitions include:
    * `Platform.FromLogin`
    * `Platform.Accepted`

  Main declarations:
    * `Platform.ensureValid_accepted`
    * `Platform.ensureValid_ofDashboard`
-/

namespace WorkspaceClient
namespace Platform

variable {σ : Type}

------------------------------------------------------------
-- Fetched authorities
------------------------------------------------------------

/- An authority in a log was given by the authentication. -/
theorem Establishment.gives
    {auth : Auth σ}
    {session after : Session}
    {events : List Event}
    {result : Except Failure Bytes}
    {ca : Bytes}
    (h : Establishment auth session events result after)
    (hMem : .bootstrap (.ok ca) ∈ events) :
    auth.Gives ca := by
  cases h with
  | unfetched failure => simp at hMem
  | refused failure hCa =>
      simp only [List.mem_cons, List.not_mem_nil, reduceCtorEq,
        or_false, Event.bootstrap.injEq, Except.ok.injEq]
        at hMem
      rwa [hMem]
  | established login hCa =>
      simp only [List.mem_cons, List.not_mem_nil, reduceCtorEq,
        or_false, Event.bootstrap.injEq, Except.ok.injEq]
        at hMem
      rwa [hMem]

theorem Bootstrapping.gives
    {auth : Auth σ}
    {path : String}
    {session after : Session}
    {files files' : Files}
    {events : List Event}
    {result : Except Failure Outcome}
    {ca : Bytes}
    (h :
      Bootstrapping auth path session files
        events result after files')
    (hMem : .bootstrap (.ok ca) ∈ events) :
    auth.Gives ca := by
  cases h with
  | unestablished hEvents => exact hEvents.gives hMem
  | unverified _ hEvents =>
      exact hEvents.gives (by simpa [checkEvent] using hMem)
  | unsaved hEvents _ =>
      exact hEvents.gives (by simpa [checkEvent] using hMem)
  | bootstrapped hEvents _ =>
      exact hEvents.gives (by simpa [checkEvent] using hMem)

theorem Renewing.gives
    {auth : Auth σ}
    {path : String}
    {session after : Session}
    {files files' : Files}
    {events : List Event}
    {result : Except Failure Outcome}
    {ca : Bytes}
    (h :
      Renewing auth path session files
        events result after files')
    (hMem : .bootstrap (.ok ca) ∈ events) :
    auth.Gives ca := by
  cases h with
  | unestablished hEvents => exact hEvents.gives hMem
  | unsaved hEvents _ =>
      exact hEvents.gives (by simpa [checkEvent] using hMem)
  | rejected _ hEvents _ =>
      exact hEvents.gives (by simpa [checkEvent] using hMem)
  | reauthenticated hEvents _ =>
      exact hEvents.gives (by simpa [checkEvent] using hMem)

theorem Course.gives
    {auth : Auth σ}
    {path : String}
    {session after : Session}
    {files files' : Files}
    {events : List Event}
    {result : Except Failure Outcome}
    {ca : Bytes}
    (h :
      Course auth path session files
        events result after files')
    (hMem : .bootstrap (.ok ca) ∈ events) :
    auth.Gives ca := by
  cases h with
  | noEndpoint _ => simp at hMem
  | bootstrapping _ _ hRest => exact hRest.gives hMem
  | verified _ _ => simp [checkEvent] at hMem
  | renewing _ _ _ hRest =>
      exact hRest.gives (by simpa [checkEvent] using hMem)

/- The Dashboard never gives an empty authority. -/
theorem ne_nil_of_fetchCa
    {url : String}
    {network network' : Network}
    {ca : Bytes}
    (hFetch :
      Trust.fetchCa url network = (.ok ca, network')) :
    ca ≠ [] := by
  cases hUrl : Url.parse url with
  | error fault =>
      rw [Trust.fetchCa_unformed hUrl] at hFetch
      cases hFetch
  | ok u =>
      rcases Trust.exists_fetchCa hUrl network with
        ⟨answer, hAnswer, hFetched⟩
      rw [hAnswer] at hFetch
      cases hFetch
      rcases (hFetched ca rfl).readable with
        ⟨ders, hCertificates⟩
      rintro rfl
      cases hCertificates

------------------------------------------------------------
-- Successful runs
------------------------------------------------------------

/-
  A session is the one that a login with an authority has
  given, at the endpoint of the session before it.
-/
structure FromLogin
    (session : Session)
    (ca : Bytes)
    (login : Login)
    (after : Session) : Prop where
  endpoint : after.endpoint = session.endpoint
  token : after.token = login.token
  user : after.user = login.user
  isPlatform : after.isPlatform = true
  ca : after.caBytes = .ok (some ca)

/-
  A run has succeeded and has left this session and these
  files behind.
-/
structure Accepted
    (path : String)
    (session : Session)
    (files : Files)
    (events : List Event)
    (outcome : Outcome)
    (after : Session)
    (files' : Files) : Prop where
  -- the last call has accepted the session as it is
  lastCall :
    ∃ ca,
      after.caBytes = .ok (some ca) ∧
        (events.filter (·.step ≠ .save)).getLast? =
          some (.verify after.endpoint ca after.token (.ok ()))
  -- nothing changes when the first check succeeds
  unchanged :
    outcome = .verified → after = session ∧ files' = files
  -- a changed session is that of the login, and it is kept
  changed :
    outcome ≠ .verified →
      ∃ ca login,
        events.filter (·.step = .bootstrap) =
            [.bootstrap (.ok ca)] ∧
          events.filter (·.step = .login) =
            [.login session.endpoint ca (.ok login)] ∧
          FromLogin session ca login after ∧
          SessionFile.load path files' = .ok after

/- The session of a login with an authority that is not empty. -/
theorem fromLogin_renewed
    (session : Session)
    (login : Login)
    {ca : Bytes}
    (hCa : ca ≠ []) :
    FromLogin session ca login (renewed session ca login) where
  endpoint := rfl
  token := rfl
  user := rfl
  isPlatform := rfl
  ca := session.caBytes_withCa hCa

section

variable {auth : Auth σ}
variable {path : String}
variable {session after : Session}
variable {files files' : Files}
variable {events : List Event}
variable {outcome : Outcome}

/-
  A run with one login is right if it ends in a check of
  what the login gave, and has saved it.
-/
theorem accepted_renewed
    {ca : Bytes}
    {login : Login}
    (hCa : ca ≠ [])
    (hChanged : outcome ≠ .verified)
    (hSave :
      SessionFile.save path (renewed session ca login) files =
        (.ok (), files'))
    (hLast :
      (events.filter (·.step ≠ .save)).getLast? =
        some (checkEvent (renewed session ca login) ca (.ok ())))
    (hBootstrap :
      events.filter (·.step = .bootstrap) =
        [.bootstrap (.ok ca)])
    (hLogin :
      events.filter (·.step = .login) =
        [.login session.endpoint ca (.ok login)]) :
    Accepted path session files events outcome
      (renewed session ca login) files' where
  lastCall := ⟨ca, session.caBytes_withCa hCa, hLast⟩
  unchanged := fun hVerified => absurd hVerified hChanged
  changed := fun _ =>
    ⟨ca, login, hBootstrap, hLogin,
      fromLogin_renewed session login hCa,
      SessionFile.load_of_save hSave⟩

/- A session that was bootstrapped is accepted. -/
theorem Bootstrapping.accepted
    (h :
      Bootstrapping auth path session files
        events (.ok outcome) after files')
    (hCa : ∀ ca, .bootstrap (.ok ca) ∈ events → ca ≠ []) :
    Accepted path session files events outcome after
      files' := by
  cases h with
  | bootstrapped hEvents hSave =>
      cases hEvents with
      | established login _ =>
          have hFetched := hCa _ List.mem_cons_self
          exact
            accepted_renewed hFetched (by decide) hSave
              rfl rfl rfl

/- A session that was renewed is accepted. -/
theorem Renewing.accepted
    (h :
      Renewing auth path session files
        events (.ok outcome) after files')
    (cached : Bytes)
    (refusal : Failure)
    (hCa : ∀ ca, .bootstrap (.ok ca) ∈ events → ca ≠ []) :
    Accepted path session files
      (checkEvent session cached (.error refusal) :: events)
      outcome after files' := by
  cases h with
  | reauthenticated hEvents hSave =>
      cases hEvents with
      | established login _ =>
          have hFetched := hCa _ List.mem_cons_self
          exact
            accepted_renewed hFetched (by decide) hSave
              rfl rfl rfl

theorem Course.accepted
    (h :
      Course auth path session files
        events (.ok outcome) after files')
    (hCa : ∀ ca, .bootstrap (.ok ca) ∈ events → ca ≠ []) :
    Accepted path session files events outcome after
      files' := by
  cases h with
  | bootstrapping _ _ hRest => exact hRest.accepted hCa
  | verified _ hCached =>
      exact
        { lastCall := ⟨_, hCached, rfl⟩
          unchanged := fun _ => ⟨rfl, rfl⟩
          changed := fun hChanged => absurd rfl hChanged }
  | renewing refusal _ _ hRest =>
      exact hRest.accepted _ refusal fun ca hMem =>
        hCa ca (List.mem_cons_of_mem _ hMem)

end

/- Success is the result of the run with a log. -/
theorem accepted_of_ensureValid
    {auth : Auth σ}
    {path : String}
    {s s' : State σ}
    {outcome : Outcome}
    (hOk : ensureValid auth path s = (.ok outcome, s'))
    (hCa :
      ∀ ca,
        .bootstrap (.ok ca) ∈ (run auth path s).events →
          ca ≠ []) :
    Accepted path s.session s.files
      (run auth path s).events outcome
      s'.session s'.files := by
  have hCourse := course_run auth path s
  rw [run_eq_ensureValid, Prod.mk.injEq] at hOk
  rcases hOk with ⟨hResult, hState⟩
  rw [hResult, hState] at hCourse
  exact hCourse.accepted hCa

/-
  A run that succeeds leaves a session that the last call
  has accepted, if no empty authority was fetched.
-/
theorem ensureValid_accepted
    (auth : Auth σ)
    (path : String)
    (s s' : State σ)
    (outcome : Outcome)
    (hCa :
      ∀ ca,
        .bootstrap (.ok ca) ∈ (run auth path s).events →
          ca ≠ [])
    (hOk : ensureValid auth path s = (.ok outcome, s')) :
    Accepted path s.session s.files
      (run auth path s).events outcome
      s'.session s'.files := by
  exact accepted_of_ensureValid hOk hCa

/- An authentication that accepts every session. -/
def Auth.lenient : Auth Unit where
  bootstrap := pure [0x43, 0x41]
  login := fun _ _ =>
    pure { token := "t", user := "platform" }
  verify := fun _ _ _ => pure ()

/- A new session at an endpoint, and nothing but the root. -/
def freshState : State Unit :=
  { session := { Session.empty with endpoint := "https://d" }
    files := Files.empty
    warnings := []
    auth := () }

theorem ensureValid_accepted_fresh :
    (∀ ca,
      .bootstrap (.ok ca) ∈
          (run Auth.lenient "/s" freshState).events →
        ca ≠ []) ∧
      ensureValid Auth.lenient "/s" freshState =
        (.ok .bootstrapped,
          (ensureValid Auth.lenient "/s" freshState).2) ∧
      Accepted "/s" freshState.session freshState.files
        (run Auth.lenient "/s" freshState).events
        .bootstrapped
        (ensureValid Auth.lenient "/s" freshState).2.session
        (ensureValid Auth.lenient "/s" freshState).2.files := by
  have hCa :
      ∀ ca,
        .bootstrap (.ok ca) ∈
            (run Auth.lenient "/s" freshState).events →
          ca ≠ [] := by
    intro ca hMem
    rcases (course_run Auth.lenient "/s" freshState).gives hMem
      with ⟨_, _, hGiven⟩
    cases hGiven
    decide
  have hOk :
      ensureValid Auth.lenient "/s" freshState =
        (.ok .bootstrapped,
          (ensureValid Auth.lenient "/s" freshState).2) := rfl
  exact
    ⟨hCa, hOk,
      ensureValid_accepted Auth.lenient "/s" freshState _ _
        hCa hOk⟩

/-
  With the Dashboard, success always means that the session
  was accepted.
-/
theorem ensureValid_ofDashboard
    (bootstrapUrl identityPath : String)
    (fs : Files)
    (path : String)
    (s s' : State Network)
    (outcome : Outcome)
    (hOk :
      ensureValid
          (Auth.ofDashboard bootstrapUrl fs identityPath)
          path s =
        (.ok outcome, s')) :
    Accepted path s.session s.files
      (run (Auth.ofDashboard bootstrapUrl fs identityPath)
        path s).events
      outcome s'.session s'.files := by
  apply accepted_of_ensureValid hOk
  intro ca hMem
  rcases (course_run _ path s).gives hMem with
    ⟨network, network', hFetch⟩
  exact ne_nil_of_fetchCa hFetch

end Platform
end WorkspaceClient
