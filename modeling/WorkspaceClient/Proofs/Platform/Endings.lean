import WorkspaceClient.Proofs.Dashboard.Endings
import WorkspaceClient.Proofs.Platform.Exchanges

/-
  This file shows how making a session valid with the
  Dashboard can end, whatever is answered and however the
  session is kept: which requests were sent, what was kept,
  and which failures are possible. In two cases the ending
  is certain: a session that is confirmed, and an endpoint
  that is no URL.

  Key definitions include:
    * `Platform.Introduces`
    * `Platform.Unbased`
    * `Platform.Ending`

  Main declarations:
    * `Platform.ends_establish`
    * `Platform.ending_ensureValidBy`
    * `Platform.ensureValidBy_confirmed`
    * `Platform.ensureValidBy_unbased`
-/

namespace WorkspaceClient

open Failure (IsLate)

------------------------------------------------------------
-- Checks
------------------------------------------------------------

/- A check that succeeds was confirmed by a reply. -/
theorem Dashboard.Client.ends_verify
    (client : Client)
    (n : Network) :
    client.verify.Ends n
      (fun _ n' =>
        ∃ q,
          client.request? .verify emptyDocument = some q ∧
            Confirms (n.answer n.sent q) ∧
            n' = n.afterAll [q])
      fun failure n' =>
        failure.IsLate ∧
          ∃ requests, n' = n.afterAll requests := by
  apply Task.Ends.bind
    (client.ends_call .verify emptyDocument verifyShape.decode n)
  · rintro ⟨answer, cookies⟩ n' ⟨q, hRequest, hRead, rfl⟩
    rcases exists_delivers_of_readReply .verify hRead with
      ⟨body, hDelivers, hBody⟩
    exact
      Task.ends_pure
        ⟨q, hRequest, ⟨body, _, hDelivers, hBody⟩, rfl⟩
  · exact fun _ _ h => h

/- A check that is confirmed succeeds. -/
theorem Dashboard.Client.exists_verify
    (client : Client)
    {q : Http.Request}
    {n : Network}
    (hRequest : client.request? .verify emptyDocument = some q)
    (hConfirms : Confirms (n.answer n.sent q)) :
    ∃ verification,
      client.verify n = (.ok verification, n.after q) := by
  rcases hConfirms with ⟨body, verification, hDelivers, hBody⟩
  rcases readReply_delivers .verify verifyShape.decode
      hDelivers with
    ⟨cookies, hRead⟩
  rw [hBody] at hRead
  rw [verify_eq hRequest, hRead]
  exact ⟨verification, rfl⟩

------------------------------------------------------------
-- Steps with the Dashboard
------------------------------------------------------------

namespace Platform

open Dashboard (Opens Confirms Calls Admits)

/-
  The platform has introduced itself: it has fetched an
  authority, and a login that trusts only this authority was
  answered with a user and a cookie.
-/
structure Introduces
    (caUrl identityPath : String)
    (fs : Files)
    (n : Network)
    (endpoint : String)
    (fetch login : Http.Request)
    (ca : Bytes)
    (gained : Login) : Prop where
  fetched :
    ∃ u, Url.parse caUrl = .ok u ∧ fetch = Trust.fetchRequest u
  trusted : Trust.Fetched (n.answer n.sent fetch) ca
  called :
    ∃ client identity,
      Dashboard.Client.create (.only ca) endpoint =
          .ok client ∧
        Credential.readIdentity fs identityPath =
          .ok identity ∧
        Calls client .serviceAccountLogin
          (.ofMembers [("token", .ofText identity)]) login
  user : gained.user ≠ ""
  cookie :
    ∃ cookie,
      gained.token = Credential.encodeToken cookie ∧
        Admits Dashboard.identityShape.decode
          ((n.after fetch).answer (n.after fetch).sent login)
          gained.user cookie

/-
  An authority was fetched for an endpoint that is no URL.
  Its failure is the only one that is found too late.
-/
inductive Unbased
    (caUrl : String)
    (n : Network)
    (endpoint : String) :
    List Http.Request → Failure → Prop where
  | fetched
      {u : Url}
      {ca : Bytes}
      {failure : Failure}
      (hUrl : Url.parse caUrl = .ok u)
      (hFetched :
        Trust.Fetched
          (n.answer n.sent (Trust.fetchRequest u)) ca)
      (hBase :
        Dashboard.Client.parseBase endpoint = .error failure) :
      Unbased caUrl n endpoint [Trust.fetchRequest u] failure

section

variable (caUrl identityPath : String)
variable (fs : Files)

/- A login fails late, or for its endpoint. -/
theorem ends_login
    (endpoint : String)
    (ca : Bytes)
    (n : Network) :
    ((Auth.ofDashboard caUrl fs identityPath).login endpoint
        ca).Ends n
      (fun gained n' =>
        ∃ client identity q cookie,
          Dashboard.Client.create (.only ca) endpoint =
              .ok client ∧
            Credential.readIdentity fs identityPath =
              .ok identity ∧
            Calls client .serviceAccountLogin
              (.ofMembers [("token", .ofText identity)]) q ∧
            gained.token = Credential.encodeToken cookie ∧
            gained.user ≠ "" ∧
            Admits Dashboard.identityShape.decode
              (n.answer n.sent q) gained.user cookie ∧
            n' = n.afterAll [q])
      fun failure n' =>
        (failure.IsLate ∧
            ∃ requests, n' = n.afterAll requests) ∨
          Dashboard.Client.create (.only ca) endpoint =
              .error failure ∧
            n' = n := by
  apply Task.ends_ofExcept_bind
  · intro client hCreate
    apply Task.Ends.bind
      (client.ends_identityToken fs identityPath n)
    · rintro ⟨token, user⟩ n'
        ⟨identity, q, cookie, hIdentity, hCalls, hToken, hUser,
          hAdmits, rfl⟩
      exact
        Task.ends_pure
          ⟨client, identity, q, cookie, hCreate, hIdentity,
            hCalls, hToken, hUser, hAdmits, rfl⟩
    · exact fun _ _ h => .inl h
  · exact fun failure hCreate => .inr ⟨hCreate, rfl⟩

/- A check fails late, or no client could be opened. -/
theorem ends_verify
    (endpoint token : String)
    (ca : Bytes)
    (n : Network) :
    ((Auth.ofDashboard caUrl fs identityPath).verify endpoint
        ca token).Ends n
      (fun _ n' =>
        ∃ client q,
          Opens (.only ca) endpoint token client ∧
            client.request? .verify Dashboard.emptyDocument =
              some q ∧
            Confirms (n.answer n.sent q) ∧
            n' = n.afterAll [q])
      fun failure n' =>
        (failure.IsLate ∨
            ¬ ∃ client,
              Opens (.only ca) endpoint token client) ∧
          ∃ requests, n' = n.afterAll requests := by
  apply Task.ends_ofExcept_bind
  · intro plain hCreate
    apply Task.ends_ofExcept_bind
    · intro client hToken
      apply Task.Ends.bind (client.ends_verify n)
      · rintro _ n' ⟨q, hRequest, hConfirms, rfl⟩
        exact
          Task.ends_pure
            ⟨client, q, ⟨plain, hCreate, hToken⟩, hRequest,
              hConfirms, rfl⟩
      · exact fun _ _ h => ⟨.inl h.1, h.2⟩
    · intro failure hToken
      refine ⟨.inr ?_, [], n.afterAll_nil.symm⟩
      rintro ⟨client, plain', hCreate', hToken'⟩
      rw [hCreate] at hCreate'
      cases hCreate'
      rw [hToken] at hToken'
      cases hToken'
  · intro failure hCreate
    refine ⟨.inr ?_, [], n.afterAll_nil.symm⟩
    rintro ⟨client, plain, hCreate', _⟩
    rw [hCreate] at hCreate'
    cases hCreate'

/- What an operation does to the network is all that it does. -/
theorem ends_onAuth
    {σ α : Type}
    {t : Task σ α}
    {s : State σ}
    {Good : α → σ → Prop}
    {Bad : Failure → σ → Prop}
    (h : t.Ends s.auth Good Bad) :
    (onAuth t).Ends s
      (fun a s' => ∃ n, Good a n ∧ s' = { s with auth := n })
      fun failure s' =>
        ∃ n, Bad failure n ∧ s' = { s with auth := n } := by
  apply Task.Ends.within
  exact h.imp (fun _ n hGood => ⟨n, hGood, rfl⟩)
    fun _ n hBad => ⟨n, hBad, rfl⟩

/- A client can be opened unless its endpoint is no URL. -/
theorem parseBase_of_create
    {n : Network}
    {u : Url}
    {ca : Bytes}
    {endpoint : String}
    {failure : Failure}
    (hFetched :
      Trust.Fetched
        (n.answer n.sent (Trust.fetchRequest u)) ca)
    (hCreate :
      Dashboard.Client.create (.only ca) endpoint =
        .error failure) :
    Dashboard.Client.parseBase endpoint = .error failure := by
  rcases hFetched.readable with ⟨ders, hRead⟩
  unfold Dashboard.Client.create Trust.checkRoots at hCreate
  simp only at hCreate
  rw [hRead] at hCreate
  cases hBase : Dashboard.Client.parseBase endpoint with
  | ok base =>
      rw [hBase] at hCreate
      cases hCreate
  | error other =>
      rw [hBase] at hCreate
      cases hCreate
      rfl

/- A session is established by a fetch and a login. -/
theorem ends_establish
    (s : State Network) :
    (establish (Auth.ofDashboard caUrl fs identityPath)).Ends s
      (fun ca s' =>
        ∃ fetch login gained,
          Introduces caUrl identityPath fs s.auth
              s.session.endpoint fetch login ca gained ∧
            s' =
              { s with
                session := renewed s.session ca gained
                auth := s.auth.afterAll [fetch, login] })
      fun failure s' =>
        ∃ requests,
          s' = { s with auth := s.auth.afterAll requests } ∧
            (failure.IsLate ∨
              Unbased caUrl s.auth s.session.endpoint requests
                failure) := by
  unfold establish
  apply Task.Ends.bind
    (ends_onAuth (Trust.ends_fetchCa caUrl s.auth))
  · rintro ca _ ⟨_, ⟨u, hUrl, hFetched, rfl⟩, rfl⟩
    apply Task.ends_bind_of_eq (Task.get_eq _)
    apply Task.Ends.bind
      (ends_onAuth (ends_login caUrl identityPath fs _ ca _))
    · rintro gained _
        ⟨_, ⟨client, identity, login, cookie, hCreate, hIdentity,
          hCalls, hToken, hUser, hAdmits, rfl⟩, rfl⟩
      apply Task.ends_bind_of_eq (t := Task.modify _) rfl
      apply Task.ends_pure
      refine
        ⟨Trust.fetchRequest u, login, gained,
          { fetched := ⟨u, hUrl, rfl⟩
            trusted := hFetched
            called :=
              ⟨client, identity, hCreate, hIdentity, hCalls⟩
            user := hUser
            cookie := ⟨cookie, hToken, hAdmits⟩ },
          ?_⟩
      simp only [Network.afterAll_afterAll]
      rfl
    · rintro failure _
        ⟨_, ⟨hLate, requests, rfl⟩ | ⟨hCreate, rfl⟩, rfl⟩
      · exact
          ⟨[Trust.fetchRequest u] ++ requests,
            by rw [Network.afterAll_afterAll], .inl hLate⟩
      · exact
          ⟨_, rfl,
            .inr
              (.fetched hUrl hFetched
                (parseBase_of_create hFetched hCreate))⟩
  · rintro failure _ ⟨_, ⟨hLate, requests, rfl⟩, rfl⟩
    exact ⟨requests, rfl, .inl hLate⟩

/- A check changes nothing but the network. -/
theorem ends_check
    (ca : Bytes)
    (s : State Network) :
    (check (Auth.ofDashboard caUrl fs identityPath) ca).Ends s
      (fun _ s' =>
        ∃ client q,
          Opens (.only ca) s.session.endpoint s.session.token
              client ∧
            client.request? .verify Dashboard.emptyDocument =
              some q ∧
            Confirms (s.auth.answer s.auth.sent q) ∧
            s' = { s with auth := s.auth.afterAll [q] })
      fun failure s' =>
        (failure.IsLate ∨
            ¬ ∃ client,
              Opens (.only ca) s.session.endpoint
                s.session.token client) ∧
          ∃ requests,
            s' = { s with auth := s.auth.afterAll requests } :=
    by
  unfold check
  apply Task.ends_bind_of_eq (Task.get_eq s)
  apply Task.Ends.imp
    (ends_onAuth (ends_verify caUrl identityPath fs _ _ ca _))
  · rintro _ _
      ⟨_, ⟨client, q, hOpens, hRequest, hConfirms, rfl⟩, rfl⟩
    exact ⟨client, q, hOpens, hRequest, hConfirms, rfl⟩
  · rintro failure _ ⟨_, ⟨hWhy, requests, rfl⟩, rfl⟩
    exact ⟨hWhy, requests, rfl⟩

/- The session is given to the keeper once, and that is all. -/
theorem ends_saveBy
    (keeper : SessionFile.Keeper)
    (path : String)
    (s : State Network) :
    (saveBy keeper path).Ends s
      (fun _ s' =>
        s' =
          { s with
            files := (keeper path s.session s.files).2 })
      fun failure s' =>
        failure.IsLate ∧
          s' =
            { s with
              files := (keeper path s.session s.files).2 } := by
  rcases hKeep : keeper path s.session s.files with
    ⟨fault | _, files⟩
  · have hRun :
        saveBy keeper path s =
          (.error (.sessionFile fault), { s with files }) := by
      rw [saveBy, hKeep]
    exact Task.ends_of_eq_error hRun ⟨rfl, rfl⟩
  · have hRun :
        saveBy keeper path s = (.ok (), { s with files }) := by
      rw [saveBy, hKeep]
    exact Task.ends_of_eq_ok hRun rfl

end

------------------------------------------------------------
-- Endings
------------------------------------------------------------

/-
  How making a session valid with the Dashboard can end: the
  result, and the state afterwards.
-/
inductive Ending
    (keeper : SessionFile.Keeper)
    (path caUrl identityPath : String)
    (fs : Files)
    (s : State Network) :
    Except Failure Outcome → State Network → Prop where
  | noEndpoint
      (hEndpoint : s.session.endpoint = "") :
      Ending keeper path caUrl identityPath fs s
        (.error noEndpoint) s
  | verified
      {ca : Bytes}
      {client : Dashboard.Client}
      {q : Http.Request}
      (hCa : s.session.caBytes = .ok (some ca))
      (hOpens :
        Opens (.only ca) s.session.endpoint s.session.token
          client)
      (hRequest :
        client.request? .verify Dashboard.emptyDocument =
          some q)
      (hConfirms : Confirms (s.auth.answer s.auth.sent q)) :
      Ending keeper path caUrl identityPath fs s
        (.ok .verified)
        { s with auth := s.auth.afterAll [q] }
  -- the endpoint is found to be no URL after the fetch
  | unbased
      {requests : List Http.Request}
      {failure : Failure}
      {warnings : List Warning}
      (hCa : ¬ HasCa s.session)
      (hUnbased :
        Unbased caUrl s.auth s.session.endpoint requests
          failure) :
      Ending keeper path caUrl identityPath fs s
        (.error failure)
        { s with
          warnings
          auth := s.auth.afterAll requests }
  -- any other failure before a session is kept
  | unkept
      {requests : List Http.Request}
      {failure : Failure}
      {s' : State Network}
      (hLate : failure.IsLate)
      (hFiles : s'.files = s.files)
      (hAuth : s'.auth = s.auth.afterAll requests) :
      Ending keeper path caUrl identityPath fs s
        (.error failure) s'
  -- a new session is kept, and it may be refused then
  | kept
      {before after : List Http.Request}
      {fetch login : Http.Request}
      {ca : Bytes}
      {gained : Login}
      {result : Except Failure Outcome}
      {s' : State Network}
      (hIntroduces :
        Introduces caUrl identityPath fs
          (s.auth.afterAll before) s.session.endpoint fetch
          login ca gained)
      (hLate : FailsOnly IsLate result)
      (hSession : s'.session = renewed s.session ca gained)
      (hFiles :
        s'.files = (keeper path s'.session s.files).2)
      (hAuth :
        s'.auth =
          s.auth.afterAll (before ++ fetch :: login :: after)) :
      Ending keeper path caUrl identityPath fs s result s'

section

variable {caUrl identityPath : String}
variable {fs : Files}

/- A new session can be opened with its authority. -/
theorem Introduces.exists_opens
    {n : Network}
    {session : Session}
    {fetch login : Http.Request}
    {ca : Bytes}
    {gained : Login}
    (h :
      Introduces caUrl identityPath fs n session.endpoint fetch
        login ca gained) :
    ∃ client,
      Opens (.only ca) (renewed session ca gained).endpoint
        (renewed session ca gained).token client := by
  rcases h.called with ⟨plain, _, hCreate, _, _⟩
  rcases h.cookie with ⟨cookie, hToken, _⟩
  have hReplay :
      Credential.replay gained.token = .ok cookie := by
    rw [hToken]
    exact Credential.replay_encodeToken cookie
  refine
    ⟨{ plain with cookie := some cookie }, plain, hCreate, ?_⟩
  unfold Dashboard.Client.withToken
  change (Credential.replay gained.token >>= _) = _
  rw [hReplay]
  rfl

end

section

variable (keeper : SessionFile.Keeper)
variable (path caUrl identityPath : String)
variable (fs : Files)

/- A session without an authority ends in one of the ways. -/
theorem ending_bootstrapSession
    {s : State Network}
    (hCa : ¬ HasCa s.session)
    (warnings : List Warning) :
    (bootstrapSession
        (Auth.ofDashboard caUrl fs identityPath)
        (saveBy keeper path)).Ends { s with warnings }
      (fun outcome =>
        Ending keeper path caUrl identityPath fs s (.ok outcome))
      fun failure =>
        Ending keeper path caUrl identityPath fs s
          (.error failure) := by
  unfold bootstrapSession
  apply Task.Ends.bind
    (ends_establish caUrl identityPath fs { s with warnings })
  · rintro ca _ ⟨fetch, login, gained, hIntroduces, rfl⟩
    have hFirst :
        Introduces caUrl identityPath fs (s.auth.afterAll [])
          s.session.endpoint fetch login ca gained := by
      rwa [Network.afterAll_nil]
    apply Task.Ends.bind (ends_check caUrl identityPath fs ca _)
    · rintro _ _ ⟨client, q, _, _, _, rfl⟩
      have hSent :
          (s.auth.afterAll [fetch, login]).afterAll [q] =
            s.auth.afterAll ([] ++ fetch :: login :: [q]) :=
        Network.afterAll_afterAll _ _ _
      apply Task.Ends.bind (ends_saveBy keeper path _)
      · rintro _ _ rfl
        exact
          Task.ends_pure (.kept hFirst (.ok _) rfl rfl hSent)
      · rintro failure _ ⟨hLate, rfl⟩
        exact .kept hFirst (.error hLate) rfl rfl hSent
    · rintro failure _ ⟨hWhy, requests, rfl⟩
      -- the new session can be opened, so the check fails late
      have hLate : failure.IsLate :=
        hWhy.resolve_right
          (not_not_intro hIntroduces.exists_opens)
      exact
        .unkept hLate rfl (Network.afterAll_afterAll _ _ _)
  · rintro failure _ ⟨requests, rfl, hLate | hUnbased⟩
    · exact .unkept hLate rfl rfl
    · exact .unbased hCa hUnbased

/- A refused session ends in one of the ways as well. -/
theorem ending_renewSession
    {s : State Network}
    (before : List Http.Request)
    (warnings : List Warning) :
    (renewSession (Auth.ofDashboard caUrl fs identityPath)
        (saveBy keeper path)).Ends
          { s with
            warnings
            auth := s.auth.afterAll before }
      (fun outcome =>
        Ending keeper path caUrl identityPath fs s (.ok outcome))
      fun failure =>
        Ending keeper path caUrl identityPath fs s
          (.error failure) := by
  unfold renewSession
  apply Task.Ends.bind
    ((ends_establish caUrl identityPath fs _).mapFailure
      reloginFailed)
  · rintro ca _ ⟨fetch, login, gained, hIntroduces, rfl⟩
    have hSent :
        (s.auth.afterAll before).afterAll [fetch, login] =
          s.auth.afterAll (before ++ fetch :: login :: []) :=
      Network.afterAll_afterAll _ _ _
    apply Task.Ends.bind (ends_saveBy keeper path _)
    · rintro _ _ rfl
      apply Task.Ends.bind
        ((ends_check caUrl identityPath fs ca _).mapFailure
          rejectedAgain)
      · rintro _ _ ⟨client, q, _, _, _, rfl⟩
        have hAll :
            ((s.auth.afterAll before).afterAll
                [fetch, login]).afterAll [q] =
              s.auth.afterAll
                (before ++ fetch :: login :: [q]) := by
          simp
        exact
          Task.ends_pure
            (.kept hIntroduces (.ok _) rfl rfl hAll)
      · rintro _ _ ⟨failure, rfl, _, requests, rfl⟩
        have hAll :
            ((s.auth.afterAll before).afterAll
                [fetch, login]).afterAll requests =
              s.auth.afterAll
                (before ++ fetch :: login :: requests) := by
          simp
        exact .kept hIntroduces (.error rfl) rfl rfl hAll
    · rintro failure _ ⟨hLate, rfl⟩
      exact .kept hIntroduces (.error hLate) rfl rfl hSent
  · rintro _ _ ⟨failure, rfl, requests, rfl, _⟩
    exact .unkept rfl rfl (Network.afterAll_afterAll _ _ _)

/- Making a session valid ends in one of the ways. -/
theorem ending_ensureValidBy
    (s : State Network) :
    let run :=
      ensureValidBy (Auth.ofDashboard caUrl fs identityPath)
        (saveBy keeper path) s
    Ending keeper path caUrl identityPath fs s run.1 run.2 := by
  apply Task.Ends.run
  unfold ensureValidBy
  apply Task.ends_bind_of_eq (Task.get_eq s)
  by_cases hEndpoint : s.session.endpoint = ""
  · rw [if_pos (by simpa using hEndpoint)]
    exact Task.ends_fail (.noEndpoint hEndpoint)
  · rw [if_neg (by simpa using hEndpoint)]
    rcases cachedCa_cases s.session s.files s.warnings s.auth
      with ⟨ca, hCa, hCached⟩ | ⟨hCa, warnings, hCached⟩
    · apply Task.ends_bind_of_eq hCached
      apply Task.Ends.bind
        (ends_check caUrl identityPath fs ca s).attempt
      · rintro _ _
          (⟨_, rfl, client, q, hOpens, hRequest, hConfirms,
              rfl⟩ |
            ⟨failure, rfl, _, requests, rfl⟩)
        · exact
            Task.ends_pure
              (.verified hCa hOpens hRequest hConfirms)
        · apply Task.ends_bind_of_eq (t := warn _) rfl
          exact
            ending_renewSession (s := s) keeper path caUrl
              identityPath fs requests _
      · exact fun _ _ => False.elim
    · apply Task.ends_bind_of_eq hCached
      exact
        ending_bootstrapSession keeper path caUrl identityPath fs
          hCa warnings

end

------------------------------------------------------------
-- Certain endings
------------------------------------------------------------

section

variable (caUrl identityPath : String)
variable (fs : Files)
variable (s : State Network)

/- A session that is confirmed passes the check. -/
theorem check_confirmed
    {ca : Bytes}
    {client : Dashboard.Client}
    {q : Http.Request}
    (hOpens :
      Opens (.only ca) s.session.endpoint s.session.token client)
    (hRequest :
      client.request? .verify Dashboard.emptyDocument = some q)
    (hConfirms : Confirms (s.auth.answer s.auth.sent q)) :
    check (Auth.ofDashboard caUrl fs identityPath) ca s =
      (.ok (), { s with auth := s.auth.afterAll [q] }) := by
  rcases hOpens with ⟨plain, hCreate, hToken⟩
  rcases client.exists_verify hRequest hConfirms with
    ⟨verification, hVerify⟩
  have hRun :
      (Auth.ofDashboard caUrl fs identityPath).verify
          s.session.endpoint ca s.session.token s.auth =
        (.ok (), s.auth.afterAll [q]) := by
    simp only [Auth.ofDashboard, hCreate]
    rw [Task.bind_ok (Task.ofExcept_eq _ _), hToken,
      Task.bind_ok (Task.ofExcept_eq _ _),
      Task.bind_ok hVerify]
    rfl
  unfold check
  rw [Task.bind_ok (Task.get_eq s), onAuth, Task.within, hRun]

/- A session that is confirmed is valid as it is. -/
theorem ensureValidBy_confirmed
    {ca : Bytes}
    {client : Dashboard.Client}
    {q : Http.Request}
    (hEndpoint : s.session.endpoint ≠ "")
    (hCa : s.session.caBytes = .ok (some ca))
    (hOpens :
      Opens (.only ca) s.session.endpoint s.session.token client)
    (hRequest :
      client.request? .verify Dashboard.emptyDocument = some q)
    (hConfirms : Confirms (s.auth.answer s.auth.sent q))
    (keep : Task (State Network) Unit) :
    ensureValidBy (Auth.ofDashboard caUrl fs identityPath) keep
        s =
      (.ok .verified, { s with auth := s.auth.afterAll [q] }) :=
    by
  have hCached : cachedCa s = (.ok (some ca), s) := by
    unfold cachedCa
    rw [Task.bind_ok (Task.get_eq s), hCa]
    rfl
  unfold ensureValidBy
  rw [Task.bind_ok (Task.get_eq s),
    if_neg (by simpa using hEndpoint), Task.bind_ok hCached]
  simp only
  rw [Task.bind_ok
    (Task.attempt_eq
      (check_confirmed caUrl identityPath fs s hOpens hRequest
        hConfirms))]
  rfl

/-
  Without an authority, an endpoint that is no URL is only
  found out once the authority was fetched.
-/
theorem ensureValidBy_unbased
    {u : Url}
    {ca : Bytes}
    {failure : Failure}
    (hEndpoint : s.session.endpoint ≠ "")
    (hCa : ¬ HasCa s.session)
    (hUrl : Url.parse caUrl = .ok u)
    (hFetched :
      Trust.Fetched
        (s.auth.answer s.auth.sent (Trust.fetchRequest u)) ca)
    (hBase :
      Dashboard.Client.parseBase s.session.endpoint =
        .error failure)
    (keep : Task (State Network) Unit) :
    ∃ warnings,
      ensureValidBy (Auth.ofDashboard caUrl fs identityPath)
          keep s =
        (.error failure,
          { s with
            warnings
            auth := s.auth.afterAll [Trust.fetchRequest u] }) :=
    by
  rcases hFetched.readable with ⟨ders, hRead⟩
  have hCreate :
      Dashboard.Client.create (.only ca) s.session.endpoint =
        .error failure := by
    simp only [Dashboard.Client.create, Trust.checkRoots, hRead,
      hBase]
    rfl
  have hLogin :
      ∀ n,
        (Auth.ofDashboard caUrl fs identityPath).login
            s.session.endpoint ca n =
          (.error failure, n) := by
    intro n
    simp only [Auth.ofDashboard, hCreate]
    exact Task.bind_error rfl
  rcases cachedCa_cases s.session s.files s.warnings s.auth with
    ⟨ca', hSome, _⟩ | ⟨_, warnings, hCached⟩
  · exact absurd (hasCa_of_caBytes hSome) hCa
  · refine ⟨warnings, ?_⟩
    have hFetch :
        onAuth (Auth.ofDashboard caUrl fs identityPath).bootstrap
            { s with warnings } =
          (.ok ca,
            { s with
              warnings
              auth :=
                s.auth.afterAll [Trust.fetchRequest u] }) := by
      simp only [onAuth, Task.within, Auth.ofDashboard]
      rw [Trust.fetchCa_eq hUrl hFetched]
      rfl
    unfold ensureValidBy
    rw [Task.bind_ok (Task.get_eq s),
      if_neg (by simpa using hEndpoint), Task.bind_ok hCached]
    simp only
    unfold bootstrapSession establish
    apply Task.bind_error
    rw [Task.bind_ok hFetch, Task.bind_ok (Task.get_eq _)]
    apply Task.bind_error
    rw [onAuth, Task.within, hLogin]

end

end Platform
end WorkspaceClient
