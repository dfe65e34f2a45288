import WorkspaceClient.Proofs.Command.Listing
import WorkspaceClient.Proofs.Platform.Exchanges
import WorkspaceClient.Proofs.Route

/-
  This file shows what a list command sends with the
  identity of the platform, whatever is cached and whatever
  is answered: nothing is listed before the session was
  checked with the same credentials, and the identity is
  only told to a server that the authority of this very run
  vouches for.

  Key definitions include:
    * `Listing.Known`
    * `Listing.FollowsCheck`
    * `Listing.FollowsFetch`
    * `Listing.VerifiedFirst`

  Main declarations:
    * `Listing.verifiedFirst_of_traced`
    * `Listing.VerifiedFirst.concat`
    * `Listing.exists_requests_of_list`
    * `Listing.run_verifiedFirst`
-/

namespace WorkspaceClient
namespace Listing

open Dashboard (Calls Confirms)

------------------------------------------------------------
-- Requests of a list command
------------------------------------------------------------

/-
  What a request of a list command can be. Only a login with
  the identity of the platform carries the identity token.
-/
inductive Known
    (c : Connection)
    (fs : Files) : Http.Request → Prop where
  | fetch
      {u : Url}
      (hUrl : Url.parse c.caUrl = .ok u) :
      Known c fs (Trust.fetchRequest u)
  | login
      {client : Dashboard.Client}
      {identity : String}
      {q : Http.Request}
      (hIdentity :
        Credential.readIdentity fs c.identityPath =
          .ok identity)
      (hCalls :
        Calls client .serviceAccountLogin
          (.ofMembers [("token", .ofText identity)]) q) :
      Known c fs q
  | verify
      {client : Dashboard.Client}
      {q : Http.Request}
      (hCalls :
        Calls client .verify Dashboard.emptyDocument q) :
      Known c fs q
  | workspaces
      {client : Dashboard.Client}
      {q : Http.Request}
      (owner : String)
      (hCalls :
        Calls client .getWorkspaces
          (.ofMembers [("userName", .ofText owner)]) q) :
      Known c fs q
  | users
      {client : Dashboard.Client}
      {q : Http.Request}
      (hCalls :
        Calls client .getUsers Dashboard.emptyDocument q) :
      Known c fs q

/-
  A request is sent by the client of the last check before
  it, which has accepted the session. So both go below the
  same base URL, with the same cookie, and trust the same
  authority and no other.
-/
def FollowsCheck
    (n : Network)
    (before : List Http.Request)
    (q : Http.Request) : Prop :=
  ∃ earlier check between client ca cookie,
    before = earlier ++ check :: between ∧
      (∀ r ∈ between, r.isCallOf .verify = false) ∧
      Confirms (n.answer (n.sent ++ earlier) check) ∧
      client.roots = .only ca ∧
      client.cookie = some cookie ∧
      Calls client .verify Dashboard.emptyDocument check ∧
      ∃ procedure document, Calls client procedure document q

/-
  A request only trusts the authority that was fetched
  before it.
-/
def FollowsFetch
    (n : Network)
    (before : List Http.Request)
    (q : Http.Request) : Prop :=
  ∃ earlier fetch between ca,
    before = earlier ++ fetch :: between ∧
      fetch.isFetch = true ∧
      (n.answer (n.sent ++ earlier) fetch).Delivers ca ∧
      q.roots = .only ca

/- The requests that a list command has sent to a network. -/
structure VerifiedFirst
    (c : Connection)
    (fs : Files)
    (n : Network)
    (requests : List Http.Request) : Prop where
  known : ∀ q ∈ requests, Known c fs q
  -- nothing is listed with a session that was not checked
  checked :
    ∀ before q after,
      requests = before ++ q :: after →
      q.isListCall = true →
        FollowsCheck n before q
  -- the identity is told with the fetched authority only
  trusted :
    ∀ before q after,
      requests = before ++ q :: after →
      q.isCallOf .serviceAccountLogin = true →
        FollowsFetch n before q
  fetches : requests.countP (·.isFetch) ≤ 1
  logins :
    requests.countP (·.isCallOf .serviceAccountLogin) ≤ 1
  checks : requests.countP (·.isCallOf .verify) ≤ 2
  lists : requests.countP (·.isListCall) ≤ 1

section

variable {c : Connection}
variable {fs : Files}
variable {n : Network}
variable {requests : List Http.Request}

theorem verifiedFirst_nil :
    VerifiedFirst c fs n [] where
  known := nofun
  checked := by simp
  trusted := by simp
  fetches := Nat.zero_le 1
  logins := Nat.zero_le 1
  checks := Nat.zero_le 2
  lists := Nat.zero_le 1

/- One request that lists may follow on an accepted check. -/
theorem VerifiedFirst.concat
    {client : Dashboard.Client}
    {procedure : Dashboard.Procedure}
    {document : Json}
    {q : Http.Request}
    (h : VerifiedFirst c fs n requests)
    (hNone : ∀ r ∈ requests, r.isListCall = false)
    (hKnown : Known c fs q)
    (hCheck : FollowsCheck n requests q)
    (hCalls : Calls client procedure document q)
    (hList : q.isListCall = true) :
    VerifiedFirst c fs n (requests ++ [q]) := by
  have hProcedure := hCalls.isListCall_iff.mp hList
  have hLogin : q.isCallOf .serviceAccountLogin = false := by
    rw [← Bool.not_eq_true, hCalls.isCallOf_iff]
    rcases hProcedure with rfl | rfl <;> simp
  have hVerify : q.isCallOf .verify = false := by
    rw [← Bool.not_eq_true, hCalls.isCallOf_iff]
    rcases hProcedure with rfl | rfl <;> simp
  have hFetch := hCalls.not_isFetch
  constructor
  case known =>
    intro r hMem
    rcases List.mem_append.mp hMem with hOld | hNew
    · exact h.known r hOld
    · rw [List.mem_singleton.mp hNew]
      exact hKnown
  case checked =>
    intro before r after hSplit hThis
    rcases Network.eq_or_exists_of_concat hSplit with
      ⟨rfl, rfl⟩ | ⟨rest, rfl, _⟩
    · exact hCheck
    · rw [hNone r (by simp)] at hThis
      cases hThis
  case trusted =>
    intro before r after hSplit hThis
    rcases Network.eq_or_exists_of_concat hSplit with
      ⟨rfl, rfl⟩ | ⟨rest, hOld, _⟩
    · rw [hLogin] at hThis
      cases hThis
    · exact h.trusted before r rest hOld hThis
  case fetches =>
    simpa [List.countP_append, hFetch] using h.fetches
  case logins =>
    simpa [List.countP_append, hLogin] using h.logins
  case checks =>
    simpa [List.countP_append, hVerify] using h.checks
  case lists =>
    have hBefore : requests.countP (·.isListCall) = 0 := by
      rw [List.countP_eq_zero]
      intro r hMem
      simp [hNone r hMem]
    simp [List.countP_append, hBefore, hList]

------------------------------------------------------------
-- Requests of a run
------------------------------------------------------------

open Platform (Event Orderly Sends Traced)

variable {events : List Event}

theorem known_of_sends
    {m : Network}
    {e : Event}
    {q : Http.Request}
    (h : Sends c.caUrl c.identityPath fs m e q) :
    Known c fs q := by
  cases h with
  | fetch hUrl _ => exact .fetch hUrl
  | login _ hIdentity _ hCalls => exact .login hIdentity hCalls
  | verify _ hCalls _ => exact .verify hCalls

/- No event of a run lists anything. -/
theorem not_isListCall_of_sends
    {m : Network}
    {e : Event}
    {q : Http.Request}
    (h : Sends c.caUrl c.identityPath fs m e q) :
    q.isListCall = false := by
  rw [← Bool.not_eq_true, Http.Request.isListCall,
    Bool.or_eq_true, h.isCallOf_iff, h.isCallOf_iff]
  cases h <;> simp [Event.procedure?]

/- Every request of a log was sent for an event. -/
theorem exists_sends_of_mem
    {q : Http.Request}
    (h : Traced c.caUrl c.identityPath fs n events requests)
    (hMem : q ∈ requests) :
    ∃ m e, Sends c.caUrl c.identityPath fs m e q := by
  rcases List.append_of_mem hMem with ⟨before, after, rfl⟩
  rcases h.split with ⟨_, e, _, _, _, hSends⟩
  exact ⟨_, e, hSends⟩

theorem not_isListCall_of_traced
    (h : Traced c.caUrl c.identityPath fs n events requests) :
    ∀ r ∈ requests, r.isListCall = false := by
  intro r hMem
  rcases exists_sends_of_mem h hMem with ⟨_, _, hSends⟩
  exact not_isListCall_of_sends hSends

/- A login follows the fetch of what it trusts. -/
theorem followsFetch_of_traced
    {session : Session}
    {result : Except Failure Platform.Outcome}
    {before after : List Http.Request}
    {q : Http.Request}
    (h :
      Traced c.caUrl c.identityPath fs n events
        (before ++ q :: after))
    (hOrderly : Orderly session events result)
    (hLogin : q.isCallOf .serviceAccountLogin = true) :
    FollowsFetch n before q := by
  rcases h.split with
    ⟨eventsBefore, e, eventsAfter, hEvents, hBefore, hSends⟩
  have hFits := hOrderly.fits eventsBefore e eventsAfter hEvents
  rw [hSends.isCallOf_iff] at hLogin
  cases hSends with
  | fetch _ _ => cases hLogin
  | verify _ _ _ => cases hLogin
  | login answer _ hRoots hCalls =>
      rcases hBefore.exists_sent hFits.2 (by simp [Event.step])
          rfl with
        ⟨earlier, fetch, between, rfl, hFetch⟩
      have hIsFetch := hFetch.isFetch_iff.mpr rfl
      cases hFetch with
      | fetch _ hAnswer =>
          exact
            ⟨earlier, _, between, _, rfl, hIsFetch,
              hAnswer _ rfl, hCalls.roots.trans hRoots⟩

/- The requests of a run are those of a list command. -/
theorem verifiedFirst_of_traced
    {session : Session}
    {result : Except Failure Platform.Outcome}
    (h : Traced c.caUrl c.identityPath fs n events requests)
    (hOrderly : Orderly session events result) :
    VerifiedFirst c fs n requests := by
  have hNone := not_isListCall_of_traced h
  constructor
  case known =>
    intro q hMem
    rcases exists_sends_of_mem h hMem with ⟨_, _, hSends⟩
    exact known_of_sends hSends
  case checked =>
    rintro before q after rfl hList
    rw [hNone q (by simp)] at hList
    cases hList
  case trusted =>
    rintro before q after rfl hLogin
    exact followsFetch_of_traced h hOrderly hLogin
  case fetches =>
    have hCount :
        requests.countP (·.isFetch) ≤
          events.countP (·.step = .bootstrap) :=
      h.countP_le fun _ _ _ hSends => hSends.isFetch_iff.mp
    exact
      hCount.trans (hOrderly.atMostOnce .bootstrap (by simp))
  case logins =>
    have hCount :
        requests.countP (·.isCallOf .serviceAccountLogin) ≤
          events.countP (·.step = .login) :=
      h.countP_le fun _ _ _ hSends hLogin =>
        Event.step_eq_login (hSends.isCallOf_iff.mp hLogin)
    exact hCount.trans (hOrderly.atMostOnce .login (by simp))
  case checks =>
    have hCount :
        requests.countP (·.isCallOf .verify) ≤
          events.countP (·.step = .verify) :=
      h.countP_le fun _ _ _ hSends hVerify =>
        Event.step_eq_verify (hSends.isCallOf_iff.mp hVerify)
    exact hCount.trans hOrderly.atMostTwice
  case lists =>
    have hCount : requests.countP (·.isListCall) = 0 := by
      rw [List.countP_eq_zero]
      intro r hMem
      simp [hNone r hMem]
    rw [hCount]
    exact Nat.zero_le 1

/-
  The last check of a run that has succeeded was sent by the
  client of the session afterwards.
-/
theorem followsCheck_of_accepted
    {path : String}
    {session after : Session}
    {files files' : Files}
    {outcome : Platform.Outcome}
    {ca : Bytes}
    {client : Dashboard.Client}
    {procedure : Dashboard.Procedure}
    {document : Json}
    {q : Http.Request}
    (h : Traced c.caUrl c.identityPath fs n events requests)
    (hAccepted :
      Platform.Accepted path session files events outcome after
        files')
    (hCa : after.caBytes = .ok (some ca))
    (hOpens :
      Dashboard.Opens (.only ca) after.endpoint after.token
        client)
    (hCalls : Calls client procedure document q) :
    FollowsCheck n requests q := by
  rcases hAccepted.lastCall with ⟨ca', hCa', hLast⟩
  have hSame : ca' = ca := by
    rw [hCa] at hCa'
    cases hCa'
    rfl
  rcases h.last hLast rfl with ⟨earlier, check, rfl, hSends⟩
  cases hSends with
  | verify hChecking hCheck hAnswer =>
      rw [hSame] at hChecking
      rw [hChecking.unique hOpens] at hCheck
      rcases hOpens.credentials with
        ⟨hRoots, cookie, _, hCookie⟩
      exact
        ⟨earlier, check, [], client, ca, cookie, rfl, nofun,
          hAnswer rfl, hRoots, hCookie, hCheck, procedure,
          document, hCalls⟩

end

------------------------------------------------------------
-- Choosing the backend
------------------------------------------------------------

/-
  The choice of a backend has sent these requests. What the
  backend sends next follows on an accepted check.
-/
structure Prepared
    (c : Connection)
    (fs : Files)
    (n : Network)
    (requests : List Http.Request)
    (result : Except Failure Backend) : Prop where
  verifiedFirst : VerifiedFirst c fs n requests
  noList : ∀ r ∈ requests, r.isListCall = false
  backend :
    ∀ backend,
      result = .ok backend →
        ∃ client user,
          backend = .facade client user ∧
            ∀ procedure document q,
              Calls client procedure document q →
                FollowsCheck n requests q

section

variable {c : Connection}
variable {home : Option String}
variable {path : String}
variable {session : Session}
variable {w : World}

/- The backend of the platform is that of a run. -/
theorem platformBackend_eq
    (c : Connection)
    (path : String)
    (session : Session)
    (url : String)
    (w : World) :
    let run :=
      Platform.run
        (.ofDashboard c.caUrl w.files c.identityPath) path
        (Route.startAt session url w)
    Route.platformBackend SessionFile.save c path session
        (some url) w =
      (run.result.bind fun _ =>
          Route.validBackend run.state.session,
        { files := run.state.files
          network := run.state.auth
          warnings := run.state.warnings }) := by
  intro run
  have hRun :
      Platform.ensureValidBy
          (.ofDashboard c.caUrl w.files c.identityPath)
          (Platform.saveBy SessionFile.save path)
          (Route.startAt session url w) =
        (run.result, run.state) :=
    Platform.run_eq_ensureValid _ path _
  rw [Route.platformBackend_some, hRun]

theorem exists_prepared
    (h : Route.ActsAsPlatform c home w path session) :
    ∃ requests,
      (Route.select c home w).2.network =
          w.network.afterAll requests ∧
        Prepared c w.files w.network requests
          (Route.select c home w).1 := by
  rw [Route.select, h.selectBy_eq]
  cases hUrl :
      Route.endpoint c.explicitUrl session c.location with
  | none =>
      refine
        ⟨[], w.network.afterAll_nil.symm, verifiedFirst_nil,
          nofun, ?_⟩
      intro backend hBackend
      cases hBackend
  | some url =>
      rcases Platform.traced_run c.caUrl c.identityPath w.files
          path (Route.startAt session url w) with
        ⟨requests, hNetwork, hTraced⟩
      have hOrderly :=
        (Platform.course_run
          (.ofDashboard c.caUrl w.files c.identityPath) path
          (Route.startAt session url w)).orderly
      rw [platformBackend_eq]
      refine
        ⟨requests, hNetwork,
          verifiedFirst_of_traced hTraced hOrderly,
          not_isListCall_of_traced hTraced, ?_⟩
      intro backend hBackend
      rcases Result.ok_of_bind hBackend with
        ⟨outcome, hResult, hValid⟩
      rcases Route.ok_of_validBackend hValid with
        ⟨ca, client, hCa, hOpens, rfl⟩
      have hOk :=
        Platform.run_eq_ensureValid
          (.ofDashboard c.caUrl w.files c.identityPath) path
          (Route.startAt session url w)
      rw [hResult] at hOk
      have hAccepted :=
        Platform.ensureValid_ofDashboard c.caUrl c.identityPath
          w.files path (Route.startAt session url w) _ outcome hOk
      exact
        ⟨client, _, rfl, fun _ _ _ =>
          followsCheck_of_accepted hTraced hAccepted hCa hOpens⟩

end

------------------------------------------------------------
-- Listing
------------------------------------------------------------

/- A client has sent one request that lists, or nothing. -/
def Lists
    (c : Connection)
    (fs : Files)
    (client : Dashboard.Client)
    (n n' : Network) : Prop :=
  n' = n ∨
    ∃ procedure document q,
      Calls client procedure document q ∧
        Known c fs q ∧
        q.isListCall = true ∧
        n' = n.after q

section

variable (c : Connection)
variable (fs : Files)
variable (client : Dashboard.Client)
variable (n : Network)

/- A call that lists sends its one request, or nothing. -/
theorem lists_call
    {α : Type}
    {procedure : Dashboard.Procedure}
    {document : Json}
    (d : Json.Decoder α)
    (hKnown :
      ∀ q, Calls client procedure document q → Known c fs q)
    (hList :
      procedure = .getWorkspaces ∨ procedure = .getUsers) :
    Lists c fs client n
      (client.call procedure document d n).2 := by
  rcases client.call_sends procedure document d n with
    hNothing | ⟨q, hCalls, hSent⟩
  · exact .inl hNothing
  · exact
      .inr ⟨procedure, document, q, hCalls, hKnown q hCalls,
        hCalls.isListCall_iff.mpr hList, hSent⟩

variable (user : String)

theorem lists_workspaces
    (named : Option String)
    (filters : List Filter) :
    Lists c fs client n
      (workspaces (Backend.facade client user).catalog named
        filters n).2 := by
  cases hOwner :
      owner named (Backend.facade client user).currentUser with
  | error failure =>
      rw [workspaces_unowned hOwner]
      exact .inl rfl
  | ok of =>
      rw [workspaces_state hOwner]
      exact
        lists_call c fs client n _
          (fun _ hCalls => .workspaces of hCalls) (.inl rfl)

theorem lists_users
    (filters : List Filter) :
    Lists c fs client n
      (users (Backend.facade client user).catalog filters
        n).2 := by
  rw [users_state]
  exact
    lists_call c fs client n _ (fun _ hCalls => .users hCalls)
      (.inr rfl)

end

section

variable {c : Connection}
variable {home : Option String}
variable {path : String}
variable {session : Session}
variable {w : World}

/- What is sent when rows are listed with a chosen backend. -/
theorem exists_requests_of_list
    {α : Type}
    (h : Route.ActsAsPlatform c home w path session)
    (expressions : List String)
    (t : Backend → Task Network (List α × List Warning))
    (report : List α → Report)
    (hLists :
      ∀ filters client user n,
        parseFilters expressions = .ok filters →
          Lists c w.files client n
            (t (.facade client user) n).2) :
    ∃ requests,
      (Command.list SessionFile.save c home expressions t report
          w).2.network =
        w.network.afterAll requests ∧
        VerifiedFirst c w.files w.network requests := by
  cases hFilters : parseFilters expressions with
  | error failure =>
      rw [Command.list_malformed _ _ _ _ _ hFilters]
      exact ⟨[], w.network.afterAll_nil.symm, verifiedFirst_nil⟩
  | ok filters =>
      rw [Command.list_eq _ _ _ _ _ hFilters]
      rcases exists_prepared h with
        ⟨requests, hNetwork, hPrepared⟩
      rcases hSelect : Route.selectBy SessionFile.save c home w
        with ⟨failure | backend, w'⟩
      · rw [Route.select, hSelect] at hNetwork
        rw [Task.bind_error hSelect]
        exact ⟨requests, hNetwork, hPrepared.verifiedFirst⟩
      · rw [Route.select, hSelect] at hNetwork hPrepared
        rcases hPrepared.backend backend rfl with
          ⟨client, user, rfl, hFollows⟩
        rw [Task.bind_ok hSelect, network_of_online]
        simp only at hNetwork
        rw [hNetwork]
        rcases hLists filters client user
            (w.network.afterAll requests) hFilters with
          hNothing |
            ⟨procedure, document, q, hCalls, hKnown, hList, hSent⟩
        · exact ⟨requests, hNothing, hPrepared.verifiedFirst⟩
        · rw [hSent, Network.after_afterAll]
          exact
            ⟨requests ++ [q], rfl,
              hPrepared.verifiedFirst.concat hPrepared.noList
                hKnown (hFollows _ _ q hCalls) hCalls hList⟩

/-
  What a list command sends with the identity of the
  platform, whatever its options, the files and the answers
  are.
-/
theorem run_verifiedFirst
    (h : Route.ActsAsPlatform c home w path session)
    (command : Command)
    (hListing : isListing command = true)
    (format : Format)
    (input : Bytes) :
    ∃ requests,
      (Invocation.run { format, connection := c, command } home
          input w).2.network =
        w.network.afterAll requests ∧
      VerifiedFirst c w.files w.network requests := by
  unfold Invocation.run Invocation.runBy
  rw [Task.bind_state fun _ _ => rfl]
  cases command with
  | login arguments => cases hListing
  | viewConfig => cases hListing
  | listWorkspaces named expressions =>
      apply exists_requests_of_list h expressions
      intro filters client user n hFilters
      rw [selectWorkspaces_eq hFilters]
      exact
        lists_workspaces c w.files client n user named filters
  | listUsers expressions =>
      apply exists_requests_of_list h expressions
      intro filters client user n hFilters
      rw [selectUsers_eq hFilters]
      exact lists_users c w.files client n user filters

end

/- The options of a command that is run by the platform. -/
def platformOptions : Connection :=
  { Connection.usual with
    dashboardUrl := some "https://d"
    config := some "/s"
    bootstrapUrl := some "http://d/ca"
    identityFile := some "/id" }

/- A bundle with one certificate. -/
def bundle : String :=
  "-----BEGIN CERTIFICATE-----\n"
    ++ "MAYwADAAAwA=\n"
    ++ "-----END CERTIFICATE-----\n"

/- A complete answer of success. -/
def accepting
    (body : String) : Http.Reply :=
  .answered
    { status := 200
      headers := [("set-cookie", Bytes.ofText "sid=a1")]
      body := Bytes.ofText body
      isCut := false }

/- A world with an identity, where everything is accepted. -/
def acceptingWorld : World where
  files :=
    Files.empty.put ["id"]
      (.file 0o600 (Bytes.ofText "identity"))
  network :=
    { answer := fun _ q =>
        if q.isFetch then
          accepting bundle
        else
          accepting "\x7b\"userName\":\"ann\"\x7d"
      sent := [] }
  warnings := []

/- All four kinds of requests are sent, in this order. -/
theorem run_verifiedFirst_fresh :
    Route.ActsAsPlatform platformOptions none acceptingWorld "/s"
        Session.empty ∧
      isListing (.listUsers []) = true ∧
      ∃ fetch login check list,
        VerifiedFirst platformOptions acceptingWorld.files
            acceptingWorld.network [fetch, login, check, list] ∧
          fetch.isFetch = true ∧
          login.isCallOf .serviceAccountLogin = true ∧
          check.isCallOf .verify = true ∧
          list.isCallOf .getUsers = true := by
  have hPlatform :
      Route.ActsAsPlatform platformOptions none acceptingWorld
        "/s" Session.empty :=
    { facade := rfl
      store := rfl
      load := rfl
      platform := rfl }
  rcases run_verifiedFirst hPlatform (.listUsers []) rfl .table
      [] with
    ⟨requests, hNetwork, hVerified⟩
  have hKinds :
      (Invocation.run
          { format := .table
            connection := platformOptions
            command := .listUsers [] }
          none [] acceptingWorld).2.network.sent.map (fun q =>
            (q.isFetch, q.isCallOf .serviceAccountLogin,
              q.isCallOf .verify, q.isCallOf .getUsers)) =
        [(true, false, false, false),
          (false, true, false, false),
          (false, false, true, false),
          (false, false, false, true)] := by
    decide +kernel
  rw [hNetwork, Network.afterAll] at hKinds
  simp only [acceptingWorld, List.nil_append,
    List.map_eq_cons_iff, List.map_eq_nil_iff,
    Prod.mk.injEq] at hKinds
  rcases hKinds with
    ⟨fetch, _, rfl, ⟨hFetch, _⟩,
      login, _, rfl, ⟨_, hLogin, _⟩,
      check, _, rfl, ⟨_, _, hCheck, _⟩,
      list, _, rfl, ⟨_, _, _, hList⟩, rfl⟩
  exact
    ⟨hPlatform, rfl, fetch, login, check, list, hVerified,
      hFetch, hLogin, hCheck, hList⟩

end Listing
end WorkspaceClient
