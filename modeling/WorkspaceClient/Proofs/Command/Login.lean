import WorkspaceClient.Command.Login
import WorkspaceClient.Proofs.Ending
import WorkspaceClient.Proofs.Route
import WorkspaceClient.Proofs.SessionFile

/-
  This file shows how the login of a person can end. When it
  succeeds it has sent one request, and the session file
  holds the cookie of the answer, the URL that was called,
  the user, and the authority that was trusted.

  Key definitions include:
    * `Login.Authority`
    * `Login.Exchange`
    * `Login.Succeeds`
    * `Login.Plan`
    * `Login.Ready`
    * `Login.Ending`

  Main declarations:
    * `Login.authority_eq_ok_iff`
    * `Login.caBytes_session`
    * `Login.ending_runBy`
    * `Login.exists_exchange`
-/

namespace WorkspaceClient
namespace Login

------------------------------------------------------------
-- Authorities
------------------------------------------------------------

/-
  The authority that a login trusts beside those of the
  system: the one in the given file, or else the cached one
  of a session with the same endpoint, or else none.
-/
inductive Authority
    (a : Arguments)
    (fs : Files)
    (previous : Session)
    (url : String) : Option Bytes → Prop where
  | file
      {path : String}
      {pem : Bytes}
      (hFile : a.caFile = some path)
      (hRead : fs.read (Path.ofText path) = .ok pem) :
      Authority a fs previous url (some pem)
  | cached
      {ca : Option Bytes}
      (hFile : a.caFile = none)
      (hSame : previous.endpoint = url)
      (hCached : previous.caBytes = .ok ca) :
      Authority a fs previous url ca
  | none
      (hFile : a.caFile = none)
      (hOther : previous.endpoint ≠ url) :
      Authority a fs previous url none

theorem authority_eq_ok_iff
    {a : Arguments}
    {fs : Files}
    {previous : Session}
    {url : String}
    {ca : Option Bytes} :
    authority a fs previous url = .ok ca ↔
      Authority a fs previous url ca := by
  constructor
  · intro h
    unfold authority at h
    split at h
    · next hFile =>
        split at h
        · next hRead =>
            cases h
            exact .file hFile hRead
        · cases h
    · next hFile =>
        split at h
        · next hSame =>
            exact .cached hFile hSame (Route.cachedCa_eq_ok_iff.mp h)
        · next hOther =>
            cases h
            exact .none hFile hOther
  · intro h
    unfold authority
    cases h with
    | file hFile hRead => simp only [hFile, hRead]
    | cached hFile hSame hCached =>
        simp only [hFile, if_pos hSame]
        exact Route.cachedCa_eq_ok_iff.mpr hCached
    | none hFile hOther => simp only [hFile, if_neg hOther]

------------------------------------------------------------
-- Sessions
------------------------------------------------------------

section

variable (a : Arguments)
variable (url token : String)
variable (ca : Option Bytes)

@[simp] theorem endpoint_session :
    (session a url token ca).endpoint = url := by
  cases ca <;> rfl

@[simp] theorem token_session :
    (session a url token ca).token = token := by
  cases ca <;> rfl

@[simp] theorem user_session :
    (session a url token ca).user = a.user := by
  cases ca <;> rfl

@[simp] theorem isPlatform_session :
    (session a url token ca).isPlatform = false := by
  cases ca <;> rfl

/- The authority of a login can be read from its session. -/
theorem caBytes_session
    (hCa : ca ≠ some []) :
    (session a url token ca).caBytes = .ok ca := by
  cases ca with
  | none => rfl
  | some pem =>
      apply Session.caBytes_withCa
      rintro rfl
      exact hCa rfl

end

------------------------------------------------------------
-- Logins
------------------------------------------------------------

/-
  What a login works with: the path of the session file and
  the session before, the URL and the base URL, the
  authority, the request with its answer, and the pairs that
  the answer sets.
-/
structure Exchange where
  path : String
  previous : Session
  url : String
  base : Url
  ca : Option Bytes
  request : Http.Request
  response : Http.Response
  pairs : List String

namespace Exchange

/- The cookie of the new session. -/
def cookie
    (x : Exchange) : String :=
  Text.join "; " x.pairs

/- The client that logs in. -/
def client
    (x : Exchange) : Dashboard.Client :=
  { roots := Route.rootsWith x.ca
    base := x.base
    cookie := none }

/- The session that is kept. -/
def session
    (x : Exchange)
    (a : Arguments) : Session :=
  Login.session a x.url (Credential.encodeToken x.cookie) x.ca

end Exchange

/- A login succeeds with an exchange. -/
structure Succeeds
    (c : Connection)
    (home : Option String)
    (a : Arguments)
    (w w' : World)
    (x : Exchange) : Prop where
  user : a.user ≠ ""
  -- the session file and the URL
  path : c.storePath home = .ok x.path
  previous : SessionFile.load x.path w.files = .ok x.previous
  url :
    Route.endpoint c.explicitUrl x.previous c.location =
      some x.url
  -- the client
  ca : Authority a w.files x.previous x.url x.ca
  client :
    Dashboard.Client.create (Route.rootsWith x.ca) x.url =
      .ok x.client
  -- one request is sent, and it is answered with a cookie
  request :
    ∃ document,
      Dashboard.Calls x.client .login document x.request
  network : w'.network = w.network.after x.request
  response :
    w.network.answer w.network.sent x.request =
      .answered x.response
  pairs :
    Credential.SetsAll (Dashboard.readableCookies x.response)
      x.pairs
  cookie : x.pairs ≠ []
  noAttribute : ∀ pair ∈ x.pairs, ';' ∉ pair.toList
  -- the session is kept, and its authority can be read
  stored : SessionFile.load x.path w'.files = .ok (x.session a)
  storedCa : (x.session a).caBytes = .ok x.ca

/-
  What a login has found before it calls: the password, the
  path of the session file and the session before, the URL,
  the authority, and the client.
-/
structure Plan where
  password : String
  path : String
  previous : Session
  url : String
  ca : Option Bytes
  client : Dashboard.Client

namespace Plan

/- The session that is kept for a token. -/
def session
    (plan : Plan)
    (a : Arguments)
    (token : String) : Session :=
  Login.session a plan.url token plan.ca

/- The report of a login that has succeeded. -/
def report
    (plan : Plan)
    (a : Arguments) : Report :=
  .ofMessage ("logged in as " ++ a.user ++ " to " ++ plan.url)

/- The call, and what is kept after it. -/
def finish
    (plan : Plan)
    (keeper : SessionFile.Keeper)
    (a : Arguments) : Task World Report := do
  let token ← World.online
    (plan.client.passwordToken a.user plan.password)
  World.saveBy keeper plan.path (plan.session a token)
  return plan.report a

end Plan

/- A login has found all that it needs. -/
structure Ready
    (c : Connection)
    (home : Option String)
    (a : Arguments)
    (input : Bytes)
    (w : World)
    (plan : Plan) : Prop where
  facade : c.direct = false
  password : (readPassword a input).1 = .ok plan.password
  path : c.storePath home = .ok plan.path
  previous :
    SessionFile.load plan.path w.files = .ok plan.previous
  url :
    Route.endpoint c.explicitUrl plan.previous c.location =
      some plan.url
  ca : Authority a w.files plan.previous plan.url plan.ca
  client :
    Dashboard.Client.create (Route.rootsWith plan.ca) plan.url =
      .ok plan.client

/-
  How a login can end: the result, and the world afterwards.
-/
inductive Ending
    (keeper : SessionFile.Keeper)
    (c : Connection)
    (home : Option String)
    (a : Arguments)
    (input : Bytes)
    (w : World) : Except Failure Report → World → Prop where
  | unready
      {failure : Failure} :
      Ending keeper c home a input w (.error failure) w
  | refused
      {plan : Plan}
      {failure : Failure}
      {n : Network}
      (hReady : Ready c home a input w plan)
      (hCall :
        plan.client.passwordToken a.user plan.password
            w.network =
          (.error failure, n)) :
      Ending keeper c home a input w (.error failure)
        { w with network := n }
  | kept
      {plan : Plan}
      {token : String}
      {kept : Except SessionFile.Fault Unit}
      {result : Except Failure Report}
      {files : Files}
      {n : Network}
      (hReady : Ready c home a input w plan)
      (hCall :
        plan.client.passwordToken a.user plan.password
            w.network =
          (.ok token, n))
      (hKeep :
        keeper plan.path (plan.session a token) w.files =
          (kept, files))
      (hResult :
        result =
          (kept.mapError Failure.sessionFile).map fun _ =>
            plan.report a) :
      Ending keeper c home a input w result
        { w with files, network := n }

section

variable {c : Connection}
variable {home : Option String}
variable {a : Arguments}
variable {input : Bytes}
variable {w w' : World}

/- What a login does once it is ready. -/
theorem Ready.ends
    {plan : Plan}
    (h : Ready c home a input w plan)
    (keeper : SessionFile.Keeper) :
    (plan.finish keeper a).Ends w
      (fun report =>
        Ending keeper c home a input w (.ok report))
      fun failure =>
        Ending keeper c home a input w (.error failure) := by
  unfold Plan.finish
  rcases hCall :
      plan.client.passwordToken a.user plan.password w.network
    with ⟨failure | token, n⟩
  · exact
      Task.ends_of_eq_error
        (Task.bind_error (World.online_eq hCall))
        (.refused h hCall)
  · apply Task.ends_bind_of_eq (World.online_eq hCall)
    rcases hKeep :
        keeper plan.path (plan.session a token) w.files with
      ⟨kept, files⟩
    have hSave :=
      World.saveBy_eq (w := { w with network := n }) hKeep
    cases kept with
    | error fault =>
        exact
          Task.ends_of_eq_error (Task.bind_error hSave)
            (.kept h hCall hKeep rfl)
    | ok _ =>
        apply Task.ends_bind_of_eq hSave
        exact Task.ends_pure (.kept h hCall hKeep rfl)

/- Every login ends in one of these ways. -/
theorem ending_runBy
    (keeper : SessionFile.Keeper)
    (c : Connection)
    (home : Option String)
    (a : Arguments)
    (input : Bytes)
    (w : World) :
    let run := runBy keeper c home a input w
    Ending keeper c home a input w run.1 run.2 := by
  apply Task.Ends.run
  unfold runBy
  split
  · exact Task.ends_fail .unready
  · next hFacade =>
      apply Task.ends_ofExcept_bind _ fun _ _ => .unready
      intro password hPassword
      apply Task.ends_ofExcept_bind _ fun _ _ => .unready
      intro path hPath
      cases hLoad : SessionFile.load path w.files with
      | error fault =>
          exact
            Task.ends_of_eq_error
              (Task.bind_error (World.load_error hLoad))
              .unready
      | ok previous =>
          apply Task.ends_bind_of_eq (World.load_eq hLoad)
          cases hUrl :
              Route.endpoint c.explicitUrl previous c.location
          with
          | none => exact Task.ends_fail .unready
          | some url =>
              apply Task.ends_bind_of_eq (Task.get_eq w)
              apply Task.ends_ofExcept_bind _ fun _ _ => .unready
              intro ca hCa
              apply Task.ends_ofExcept_bind _ fun _ _ => .unready
              intro client hClient
              have hReady :
                  Ready c home a input w
                    { password, path, previous, url, ca,
                      client } :=
                { facade := by simpa using hFacade
                  password := hPassword
                  path := hPath
                  previous := hLoad
                  url := hUrl
                  ca := authority_eq_ok_iff.mp hCa
                  client := hClient }
              exact hReady.ends keeper

/- A login that gives a report has succeeded. -/
theorem exists_exchange
    {report : Report}
    (h : run c home a input w = (.ok report, w')) :
    ∃ x, Succeeds c home a w w' x := by
  have hEnding := ending_runBy SessionFile.save c home a input w
  rw [run] at h
  rw [h] at hEnding
  cases hEnding with
  | @kept plan token kept _ files n hReady hCall hKeep
      hResult =>
      have hSaved :
          SessionFile.save plan.path (plan.session a token)
              w.files =
            (.ok (), files) := by
        cases kept with
        | error fault => cases hResult
        | ok _ => exact hKeep
      rcases Dashboard.Client.ok_of_create hReady.client with
        ⟨base, _, hClient⟩
      rw [hClient] at hCall
      rcases Dashboard.Client.ok_of_passwordToken hCall with
        ⟨hUser, document, request, response, pairs, hCalls,
          rfl, hAnswer, hPairs, hSome, rfl⟩
      -- an empty bundle could not be told from none
      have hNotEmpty : plan.ca ≠ some [] := by
        intro hEmpty
        have hCreate := hReady.client
        rw [hEmpty] at hCreate
        exact Dashboard.Client.create_extra_nil _ _ hCreate
      exact
        ⟨{ path := plan.path
           previous := plan.previous
           url := plan.url
           base
           ca := plan.ca
           request
           response
           pairs },
          { user := hUser
            path := hReady.path
            previous := hReady.previous
            url := hReady.url
            ca := hReady.ca
            client := hReady.client.trans (congrArg _ hClient)
            request := ⟨document, hCalls⟩
            network := rfl
            response := hAnswer
            pairs := hPairs
            cookie := hSome
            noAttribute := fun _ => hPairs.semicolon_not_mem
            stored := SessionFile.load_of_save hSaved
            storedCa := caBytes_session _ _ _ _ hNotEmpty }⟩

end

end Login
end WorkspaceClient
