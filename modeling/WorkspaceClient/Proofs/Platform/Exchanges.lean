import WorkspaceClient.Proofs.Dashboard.Requests
import WorkspaceClient.Proofs.Platform.Keeping
import WorkspaceClient.Proofs.Platform.Validity

/-
  This file shows which requests a run sends that makes a
  session valid with the Dashboard: every call of the log
  has sent the request that belongs to it, or it has failed
  before it could send any.

  Key definitions include:
    * `Dashboard.Confirms`
    * `Platform.Sends`
    * `Platform.Traced`

  Main declarations:
    * `Platform.traced_run`
    * `Platform.Traced.split`
    * `Platform.Traced.exists_sent`
    * `Platform.Traced.countP_le`
    * `Platform.Traced.last`
-/

namespace WorkspaceClient

------------------------------------------------------------
-- Checks
------------------------------------------------------------

namespace Dashboard

/- A reply accepts the session that was checked. -/
def Confirms
    (reply : Http.Reply) : Prop :=
  ∃ body verification,
    reply.Delivers body ∧
      verifyShape.decode.ofBytes body = .ok verification

theorem confirms_of_readReply
    {reply : Http.Reply}
    {verification : Verification}
    (h :
      (readReply .verify verifyShape.decode reply).map
          Prod.fst =
        .ok verification) :
    Confirms reply := by
  cases hRead : readReply .verify verifyShape.decode reply with
  | ok answer =>
      rcases exists_delivers_of_readReply .verify hRead with
        ⟨body, hDelivers, hBody⟩
      exact ⟨body, _, hDelivers, hBody⟩
  | error failure =>
      rw [hRead] at h
      cases h

end Dashboard

------------------------------------------------------------
-- Requests of events
------------------------------------------------------------

namespace Platform

open Dashboard (Opens Confirms Calls)

variable {α : Type}

/-
  The request that an event with the Dashboard has sent to a
  network. If the event succeeded, so did the request.
-/
inductive Sends
    (caUrl identityPath : String)
    (fs : Files)
    (n : Network) : Event → Http.Request → Prop where
  | fetch
      {u : Url}
      {answer : Except Failure Bytes}
      (hUrl : Url.parse caUrl = .ok u)
      (hAnswer :
        ∀ ca,
          answer = .ok ca →
            (n.answer n.sent (Trust.fetchRequest u)).Delivers
              ca) :
      Sends caUrl identityPath fs n
        (.bootstrap answer) (Trust.fetchRequest u)
  | login
      {endpoint identity : String}
      {ca : Bytes}
      {client : Dashboard.Client}
      {q : Http.Request}
      (answer : Except Failure Login)
      (hIdentity :
        Credential.readIdentity fs identityPath = .ok identity)
      (hRoots : client.roots = .only ca)
      (hCalls :
        Calls client .serviceAccountLogin
          (.ofMembers [("token", .ofText identity)]) q) :
      Sends caUrl identityPath fs n
        (.login endpoint ca answer) q
  | verify
      {endpoint token : String}
      {ca : Bytes}
      {client : Dashboard.Client}
      {q : Http.Request}
      {answer : Except Failure Unit}
      (hOpens : Opens (.only ca) endpoint token client)
      (hCalls :
        Calls client .verify Dashboard.emptyDocument q)
      (hAnswer :
        answer = .ok () → Confirms (n.answer n.sent q)) :
      Sends caUrl identityPath fs n
        (.verify endpoint ca token answer) q

/- The procedure that an event calls, if it calls one. -/
def Event.procedure? : Event → Option Dashboard.Procedure
  | bootstrap _ => none
  | login _ _ _ => some .serviceAccountLogin
  | verify _ _ _ _ => some .verify
  | save _ _ => none

theorem Event.step_eq_login
    {e : Event}
    (h : e.procedure? = some .serviceAccountLogin) :
    e.step = .login := by
  cases e with
  | login => rfl
  | _ => cases h

theorem Event.step_eq_verify
    {e : Event}
    (h : e.procedure? = some .verify) :
    e.step = .verify := by
  cases e with
  | verify => rfl
  | _ => cases h

/- The request of an event tells which event it is. -/
theorem Sends.isCallOf_iff
    {caUrl identityPath : String}
    {fs : Files}
    {n : Network}
    {e : Event}
    {q : Http.Request}
    (h : Sends caUrl identityPath fs n e q)
    {procedure : Dashboard.Procedure} :
    q.isCallOf procedure = true ↔
      e.procedure? = some procedure := by
  cases h with
  | fetch =>
      rw [Trust.not_isCallOf_fetchRequest, Event.procedure?]
      simp
  | login _ _ _ hCalls =>
      rw [hCalls.isCallOf_iff, Event.procedure?,
        Option.some.injEq, eq_comm]
  | verify _ hCalls _ =>
      rw [hCalls.isCallOf_iff, Event.procedure?,
        Option.some.injEq, eq_comm]

theorem Sends.isFetch_iff
    {caUrl identityPath : String}
    {fs : Files}
    {n : Network}
    {e : Event}
    {q : Http.Request}
    (h : Sends caUrl identityPath fs n e q) :
    q.isFetch = true ↔ e.step = .bootstrap := by
  cases h with
  | fetch => exact ⟨fun _ => rfl, fun _ => rfl⟩
  | login _ _ _ hCalls =>
      rw [hCalls.not_isFetch, Event.step]
      simp
  | verify _ hCalls _ =>
      rw [hCalls.not_isFetch, Event.step]
      simp

/-
  An operation has failed without sending anything, or it
  has sent the one request of its event.
-/
def Exchanges
    (caUrl identityPath : String)
    (fs : Files)
    (n : Network)
    (event : Except Failure α → Event)
    (step : Except Failure α × Network) : Prop :=
  (∃ failure, step = (.error failure, n)) ∨
    ∃ answer q,
      step = (answer, n.after q) ∧
        Sends caUrl identityPath fs n (event answer) q

section

variable (caUrl identityPath : String)
variable (fs : Files)
variable (n : Network)

theorem exchanges_bootstrap :
    Exchanges caUrl identityPath fs n .bootstrap
      (Trust.fetchCa caUrl n) := by
  cases hUrl : Url.parse caUrl with
  | error fault =>
      exact .inl ⟨_, Trust.fetchCa_unformed hUrl n⟩
  | ok u =>
      rcases Trust.exists_fetchCa hUrl n with
        ⟨answer, hFetch, hFetched⟩
      exact
        .inr ⟨answer, _, hFetch,
          .fetch hUrl fun ca hOk => (hFetched ca hOk).delivered⟩

theorem exchanges_login
    (endpoint : String)
    (ca : Bytes) :
    Exchanges caUrl identityPath fs n (.login endpoint ca)
      ((Auth.ofDashboard caUrl fs identityPath).login endpoint
        ca n) := by
  unfold Auth.ofDashboard
  simp only
  cases hCreate : Dashboard.Client.create (.only ca) endpoint
  with
  | error failure =>
      exact .inl ⟨failure, Task.bind_error rfl⟩
  | ok client =>
      rcases Dashboard.Client.ok_of_create hCreate with
        ⟨base, _, hClient⟩
      rw [Task.bind_ok (Task.ofExcept_eq _ n)]
      cases hIdentity : Credential.readIdentity fs identityPath
      with
      | error failure =>
          unfold Dashboard.Client.identityToken
          rw [hIdentity]
          exact
            .inl ⟨failure, Task.bind_error (Task.bind_error rfl)⟩
      | ok identity =>
          -- a client without a cookie can always form a request
          have hPlain :
              ∀ s ∈ client.cookie, Dashboard.CanCarry s := by
            rw [hClient]
            nofun
          rcases client.exists_request? .serviceAccountLogin
              (.ofMembers [("token", .ofText identity)]) hPlain
            with ⟨q, hRequest⟩
          refine .inr ⟨_, q, Prod.ext rfl ?_, ?_⟩
          · rw [Task.bind_state fun _ _ => rfl]
            exact
              Dashboard.Client.identityToken_state hIdentity
                hRequest n
          · exact
              .login _ hIdentity (by rw [hClient])
                (Dashboard.Client.calls_of_request? hRequest)

/- A check is one request with the session of the token. -/
theorem exchanges_verify
    (endpoint token : String)
    (ca : Bytes) :
    Exchanges caUrl identityPath fs n
      (.verify endpoint ca token)
      ((Auth.ofDashboard caUrl fs identityPath).verify endpoint
        ca token n) := by
  unfold Auth.ofDashboard
  simp only
  cases hCreate : Dashboard.Client.create (.only ca) endpoint
  with
  | error failure =>
      exact .inl ⟨failure, Task.bind_error rfl⟩
  | ok plain =>
      rw [Task.bind_ok (Task.ofExcept_eq _ n)]
      cases hToken : plain.withToken token with
      | error failure =>
          exact .inl ⟨failure, Task.bind_error rfl⟩
      | ok client =>
          rw [Task.bind_ok (Task.ofExcept_eq _ n)]
          cases hRequest :
              client.request? .verify Dashboard.emptyDocument
          with
          | none =>
              have hCall :=
                Dashboard.Client.call_unformed hRequest
                  Dashboard.verifyShape.decode n
              exact
                .inl ⟨_, Task.bind_error (Task.bind_error hCall)⟩
          | some q =>
              have hVerify :=
                Dashboard.Client.verify_eq hRequest n
              refine
                .inr ⟨_, q, Prod.ext rfl ?_,
                  .verify ⟨plain, hCreate, hToken⟩
                    (Dashboard.Client.calls_of_request? hRequest)
                    ?_⟩
              · rw [Task.bind_state fun _ _ => rfl, hVerify]
              · intro hOk
                rcases Task.ok_of_bind (Prod.ext hOk rfl) with
                  ⟨verification, _, hStep, _⟩
                rw [hVerify, Prod.mk.injEq] at hStep
                exact Dashboard.confirms_of_readReply hStep.1

end

------------------------------------------------------------
-- Requests of logs
------------------------------------------------------------

/-
  Every event of a log has sent its request, in order. An
  event without a request is an attempt to save, or it has
  failed.
-/
inductive Traced
    (caUrl identityPath : String)
    (fs : Files)
    (n : Network) :
    List Event → List Http.Request → Prop where
  | start : Traced caUrl identityPath fs n [] []
  | silent
      {events : List Event}
      {requests : List Http.Request}
      {e : Event}
      (h : Traced caUrl identityPath fs n events requests)
      (hSilent : e.step = .save ∨ e.failure? ≠ none) :
      Traced caUrl identityPath fs n (events ++ [e]) requests
  | sent
      {events : List Event}
      {requests : List Http.Request}
      {e : Event}
      {q : Http.Request}
      (h : Traced caUrl identityPath fs n events requests)
      (hSends :
        Sends caUrl identityPath fs (n.afterAll requests)
          e q) :
      Traced caUrl identityPath fs n (events ++ [e])
        (requests ++ [q])

section

variable {caUrl identityPath : String}
variable {fs : Files}
variable {n : Network}
variable {events : List Event}
variable {requests : List Http.Request}

/- A step of an operation adds its event and its request. -/
theorem Traced.exchange
    {event : Except Failure α → Event}
    {step : Except Failure α × Network}
    (h : Traced caUrl identityPath fs n events requests)
    (hStep :
      Exchanges caUrl identityPath fs (n.afterAll requests)
        event step)
    (hFails :
      ∀ failure, (event (.error failure)).failure? ≠ none) :
    ∃ requests',
      step.2 = n.afterAll requests' ∧
        Traced caUrl identityPath fs n
          (events ++ [event step.1]) requests' := by
  rcases hStep with
    ⟨failure, rfl⟩ | ⟨answer, q, rfl, hSends⟩
  · exact ⟨requests, rfl, h.silent (.inr (hFails failure))⟩
  · exact
      ⟨requests ++ [q], n.after_afterAll requests q,
        h.sent hSends⟩

theorem keeps_traced
    (caUrl identityPath : String)
    (fs : Files)
    (n : Network) :
    (Auth.ofDashboard caUrl fs identityPath).Keeps
      fun m log =>
        ∃ requests,
          m = n.afterAll requests ∧
            Traced caUrl identityPath fs n log requests where
  bootstrap := by
    rintro m log ⟨requests, rfl, h⟩
    exact
      h.exchange (exchanges_bootstrap caUrl identityPath fs _)
        nofun
  login := by
    rintro endpoint ca m log ⟨requests, rfl, h⟩
    exact
      h.exchange
        (exchanges_login caUrl identityPath fs _ endpoint ca)
        nofun
  verify := by
    rintro endpoint ca token m log ⟨requests, rfl, h⟩
    exact
      h.exchange
        (exchanges_verify caUrl identityPath fs _ endpoint token
          ca)
        nofun
  save := by
    rintro session answer m log ⟨requests, rfl, h⟩
    exact ⟨requests, rfl, h.silent (.inl rfl)⟩

/- Every run has sent the requests of its log. -/
theorem traced_run
    (caUrl identityPath : String)
    (fs : Files)
    (path : String)
    (s : State Network) :
    ∃ requests,
      (run (Auth.ofDashboard caUrl fs identityPath) path
          s).state.auth =
        s.auth.afterAll requests ∧
      Traced caUrl identityPath fs s.auth
        (run (Auth.ofDashboard caUrl fs identityPath) path
          s).events requests :=
  (keeps_traced caUrl identityPath fs s.auth).run path s
    ⟨[], s.auth.afterAll_nil.symm, .start⟩

/- Every request belongs to an event. -/
theorem Traced.split
    {before after : List Http.Request}
    {q : Http.Request}
    (h :
      Traced caUrl identityPath fs n events
        (before ++ q :: after)) :
    ∃ eventsBefore e eventsAfter,
      events = eventsBefore ++ e :: eventsAfter ∧
        Traced caUrl identityPath fs n eventsBefore before ∧
        Sends caUrl identityPath fs (n.afterAll before) e q := by
  generalize hRequests : before ++ q :: after = requests at h
  induction h generalizing after with
  | start => simp at hRequests
  | @silent events requests e h hSilent ih =>
      rcases ih hRequests with
        ⟨eventsBefore, e', eventsAfter, hEvents, hRest⟩
      refine ⟨eventsBefore, e', eventsAfter ++ [e], ?_, hRest⟩
      rw [hEvents, List.append_assoc, List.cons_append]
  | @sent events requests e last h hSends ih =>
      rcases Network.eq_or_exists_of_concat hRequests.symm with
        ⟨rfl, rfl⟩ | ⟨others, hOthers, _⟩
      · exact ⟨events, e, [], rfl, h, hSends⟩
      · rcases ih hOthers.symm with
          ⟨eventsBefore, e', eventsAfter, hEvents, hRest⟩
        refine
          ⟨eventsBefore, e', eventsAfter ++ [e], ?_, hRest⟩
        rw [hEvents, List.append_assoc, List.cons_append]

/- A call that succeeded has sent its request. -/
theorem Traced.exists_sent
    {e : Event}
    (h : Traced caUrl identityPath fs n events requests)
    (hMem : e ∈ events)
    (hStep : e.step ≠ .save)
    (hOk : e.failure? = none) :
    ∃ before q after,
      requests = before ++ q :: after ∧
        Sends caUrl identityPath fs (n.afterAll before) e q := by
  induction h with
  | start => cases hMem
  | silent _ hSilent ih =>
      rcases List.mem_append.mp hMem with hBefore | hLast
      · exact ih hBefore
      · rw [List.mem_singleton] at hLast
        subst hLast
        rcases hSilent with hSave | hFailed
        · exact absurd hSave hStep
        · exact absurd hOk hFailed
  | @sent events requests e' q _ hSends ih =>
      rcases List.mem_append.mp hMem with hBefore | hLast
      · rcases ih hBefore with
          ⟨before, q', after, hRequests, hRest⟩
        refine ⟨before, q', after ++ [q], ?_, hRest⟩
        rw [hRequests, List.append_assoc, List.cons_append]
      · rw [List.mem_singleton] at hLast
        subst hLast
        exact ⟨requests, q, [], rfl, hSends⟩

/-
  If requests of a kind are only sent by one kind of events,
  there are no more of them than of these events.
-/
theorem Traced.countP_le
    {kind : Http.Request → Bool}
    {step : Step}
    (h : Traced caUrl identityPath fs n events requests)
    (hKind :
      ∀ m e q,
        Sends caUrl identityPath fs m e q →
        kind q = true → e.step = step) :
    requests.countP kind ≤ events.countP (·.step = step) := by
  induction h with
  | start => exact Nat.le_refl 0
  | silent _ _ ih =>
      rw [List.countP_append]
      exact Nat.le_add_right_of_le ih
  | @sent events requests e q _ hSends ih =>
      rw [List.countP_append, List.countP_append]
      apply Nat.add_le_add ih
      by_cases hThis : kind q = true
      · have hStep := hKind _ e q hSends hThis
        simp [hThis, hStep]
      · simp [hThis]

/- A call at the end of a log is its last call. -/
theorem lastCall_concat
    {e : Event}
    (events : List Event)
    (hStep : e.step ≠ .save) :
    ((events ++ [e]).filter (·.step ≠ .save)).getLast? =
      some e := by
  simp [List.filter_append, hStep]

/- The last call, if it succeeded, has sent the last request. -/
theorem Traced.last
    {e : Event}
    (h : Traced caUrl identityPath fs n events requests)
    (hLast :
      (events.filter (·.step ≠ .save)).getLast? = some e)
    (hOk : e.failure? = none) :
    ∃ before q,
      requests = before ++ [q] ∧
        Sends caUrl identityPath fs (n.afterAll before) e q := by
  induction h with
  | start => cases hLast
  | @silent events requests e' h hSilent ih =>
      by_cases hSave : e'.step = .save
      · apply ih
        simpa [List.filter_append, hSave] using hLast
      · rw [lastCall_concat events hSave] at hLast
        cases hLast
        rcases hSilent with hSave' | hFailed
        · exact absurd hSave' hSave
        · exact absurd hOk hFailed
  | @sent events requests e' q h hSends ih =>
      have hStep : e'.step ≠ .save := by
        cases hSends <;> simp [Event.step]
      rw [lastCall_concat events hStep] at hLast
      cases hLast
      exact ⟨requests, q, rfl, hSends⟩

end

end Platform
end WorkspaceClient
