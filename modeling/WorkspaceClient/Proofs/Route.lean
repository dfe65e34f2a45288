import WorkspaceClient.Proofs.Dashboard
import WorkspaceClient.Route

/-
  This file shows which backend is chosen for the session of
  a person: the Dashboard at the URL of the session, with
  its authority and its cookie. The choice sends nothing and
  changes no file. It also shows what the backend of the
  platform takes from its session.

  Key definitions include:
    * `Route.ActsAsPlatform`
    * `Route.ActsAsPerson`

  Main declarations:
    * `Route.ne_empty_of_endpoint`
    * `Route.endpoint_eq`
    * `Route.humanBackend_eq`
    * `Route.selectBy_facade`
    * `Route.selectBy_human`
    * `Route.ok_of_humanBackend`
    * `Route.ok_of_validBackend`
-/

namespace WorkspaceClient
namespace Route

------------------------------------------------------------
-- Endpoints
------------------------------------------------------------

/- The URL that is chosen is not empty. -/
theorem ne_empty_of_endpoint
    {explicit : Option String}
    {session : Session}
    {location : ClusterLocation}
    {url : String}
    (h : endpoint explicit session location = some url) :
    url ≠ "" := by
  unfold endpoint at h
  split at h
  · next given hGiven =>
      cases h
      rw [Connection.given, Option.filter_eq_some_iff] at hGiven
      simpa using hGiven.2
  · split at h
    · next hSome =>
        cases h
        simpa using hSome
    · split at h
      · cases h
        simp [ClusterLocation.dashboardUrl]
      · cases h

/- A session is used at its own URL unless another is given. -/
theorem endpoint_eq
    {explicit : Option String}
    {session : Session}
    (location : ClusterLocation)
    (hSome : session.endpoint ≠ "")
    (hSame : ∀ url, explicit = some url → url = session.endpoint) :
    endpoint explicit session location =
      some session.endpoint := by
  unfold endpoint
  cases explicit with
  | none => simp [Connection.given, hSome]
  | some url =>
      have hGiven :
          Connection.given (some session.endpoint) =
            some session.endpoint := by
        simp [Connection.given, Option.filter, hSome]
      rw [hSame url rfl, hGiven]

/- A session with a token is used at a URL that was given. -/
theorem given_or_cached_of_endpoint
    {c : Connection}
    {session : Session}
    {url : String}
    (hToken : session.token ≠ "")
    (h :
      endpoint c.explicitUrl session c.location = some url) :
    c.explicitUrl = some url ∨
      c.explicitUrl = none ∧
        session.endpoint = url ∧ url ≠ "" := by
  have hGiven :
      Connection.given c.explicitUrl = c.explicitUrl := by
    simp [Connection.explicitUrl, Connection.given,
      Option.filter_filter]
  have hSome : session.isEmpty = false := by
    simp [Session.isEmpty, hToken]
  unfold endpoint at h
  rw [hGiven, hSome] at h
  cases hUrl : c.explicitUrl with
  | some given =>
      rw [hUrl] at h
      exact .inl h
  | none =>
      rw [hUrl] at h
      simp only at h
      split at h
      · next hEndpoint =>
          cases h
          exact .inr ⟨rfl, rfl, by simpa using hEndpoint⟩
      · cases h

/- The cached authority is that of the session. -/
theorem cachedCa_eq_ok_iff
    {s : Session}
    {ca : Option Bytes} :
    cachedCa s = .ok ca ↔ s.caBytes = .ok ca := by
  unfold cachedCa
  cases s.caBytes <;> simp

------------------------------------------------------------
-- Sessions of persons
------------------------------------------------------------

/- A session with a token that is no platform's is a person's. -/
theorem identity_human
    {session : Session}
    (hPlatform : session.isPlatform = false)
    (hToken : session.token ≠ "")
    (hasToken : Bool) :
    identity session hasToken = .human := by
  have hSome : session.isEmpty = false := by
    simp [Session.isEmpty, hToken]
  rw [identity, hPlatform, hSome]
  rfl

theorem humanBackend_eq
    {session : Session}
    {url cookie : String}
    {ca : Option Bytes}
    {client : Dashboard.Client}
    (hToken : session.token ≠ "")
    (hCa : session.caBytes = .ok ca)
    (hCreate :
      Dashboard.Client.create (rootsWith ca) url = .ok client)
    (hReplay : Credential.replay session.token = .ok cookie) :
    humanBackend session (some url) =
      .ok (.facade { client with cookie := some cookie }
        session.user) := by
  have hHas : session.hasToken = true := by
    simp [Session.hasToken, hToken]
  simp only [humanBackend, hHas, cachedCa, hCa,
    Dashboard.Client.withToken, hReplay]
  change (Dashboard.Client.create _ _ >>= _) = _
  rw [hCreate]
  rfl

/- The backend of a person has the session as it is. -/
theorem ok_of_humanBackend
    {session : Session}
    {url : Option String}
    {backend : Backend}
    (h : humanBackend session url = .ok backend) :
    ∃ text ca client,
      url = some text ∧
        session.token ≠ "" ∧
        session.caBytes = .ok ca ∧
        Dashboard.Opens (rootsWith ca) text session.token
          client ∧
        backend = .facade client session.user := by
  unfold humanBackend at h
  cases url with
  | none => cases h
  | some text =>
      simp only at h
      split at h
      · cases h
      · next hToken =>
          rcases Result.ok_of_bind h with ⟨ca, hCa, h⟩
          rcases Result.ok_of_bind h with
            ⟨plain, hCreate, h⟩
          rcases Result.ok_of_bind h with
            ⟨client, hReplay, h⟩
          cases h
          exact
            ⟨text, ca, client, rfl,
              by simpa [Session.hasToken] using hToken,
              cachedCa_eq_ok_iff.mp hCa, ⟨plain, hCreate, hReplay⟩,
              rfl⟩

section

variable {c : Connection}
variable {home : Option String}
variable {path : String}
variable {session : Session}
variable {w : World}

/- Without the cluster, the session decides who acts. -/
theorem selectBy_facade
    (keeper : SessionFile.Keeper)
    (hFacade : c.direct = false)
    (hPath : c.storePath home = .ok path)
    (hLoad : SessionFile.load path w.files = .ok session) :
    selectBy keeper c home w =
      (match
          identity session
            (w.files.isFile (Path.ofText c.identityPath)) with
        | .platform =>
            platformBackend keeper c path session
              (endpoint c.explicitUrl session c.location)
        | .human =>
            .ofExcept
              (humanBackend session
                (endpoint c.explicitUrl session c.location)))
        w := by
  have hStore :
      Task.ofExcept (c.storePath home) w = (.ok path, w) := by
    rw [Task.ofExcept_eq, hPath]
  rw [selectBy, hFacade, if_neg (by simp), selectFacade,
    Task.bind_ok hStore, Task.bind_ok (World.load_eq hLoad)]
  exact Task.bind_ok (Task.get_eq w)

/- Choosing for a person only looks at the session. -/
theorem selectBy_human
    (keeper : SessionFile.Keeper)
    (hFacade : c.direct = false)
    (hPath : c.storePath home = .ok path)
    (hLoad : SessionFile.load path w.files = .ok session)
    (hHuman :
      identity session
          (w.files.isFile (Path.ofText c.identityPath)) =
        .human) :
    selectBy keeper c home w =
      (humanBackend session
          (endpoint c.explicitUrl session c.location),
        w) := by
  rw [selectBy_facade keeper hFacade hPath hLoad, hHuman]
  exact Task.ofExcept_eq _ w

------------------------------------------------------------
-- The session of the platform
------------------------------------------------------------

/-
  A command without the cluster talks to the Dashboard with
  the identity of the platform.
-/
structure ActsAsPlatform
    (c : Connection)
    (home : Option String)
    (w : World)
    (path : String)
    (session : Session) : Prop where
  facade : c.direct = false
  store : c.storePath home = .ok path
  load : SessionFile.load path w.files = .ok session
  platform :
    identity session
        (w.files.isFile (Path.ofText c.identityPath)) =
      .platform

theorem ActsAsPlatform.selectBy_eq
    (h : ActsAsPlatform c home w path session)
    (keeper : SessionFile.Keeper) :
    selectBy keeper c home w =
      platformBackend keeper c path session
        (endpoint c.explicitUrl session c.location) w := by
  rw [selectBy_facade keeper h.facade h.store h.load,
    h.platform]

------------------------------------------------------------
-- The session of a person
------------------------------------------------------------

/-
  A command without the cluster talks to the Dashboard with
  the session of a person: it is not flagged, and something
  was stored or no identity token is mounted.
-/
structure ActsAsPerson
    (c : Connection)
    (home : Option String)
    (w : World)
    (path : String)
    (session : Session) : Prop where
  facade : c.direct = false
  store : c.storePath home = .ok path
  load : SessionFile.load path w.files = .ok session
  unflagged : session.isPlatform = false
  started :
    session.isEmpty = false ∨
      w.files.isFile (Path.ofText c.identityPath) = false

theorem ActsAsPerson.identity_eq
    (h : ActsAsPerson c home w path session) :
    identity session
        (w.files.isFile (Path.ofText c.identityPath)) =
      .human := by
  rw [identity, h.unflagged]
  rcases h.started with hSome | hNoToken
  · rw [hSome]
    rfl
  · rw [hNoToken, Bool.and_false]
    rfl

theorem ActsAsPerson.selectBy_eq
    (h : ActsAsPerson c home w path session)
    (keeper : SessionFile.Keeper) :
    selectBy keeper c home w =
      (humanBackend session
          (endpoint c.explicitUrl session c.location),
        w) :=
  selectBy_human keeper h.facade h.store h.load h.identity_eq

/- A session is used by the platform or by a person. -/
theorem ActsAsPlatform.not_actsAsPerson
    {path' : String}
    {session' : Session}
    (h : ActsAsPlatform c home w path session) :
    ¬ ActsAsPerson c home w path' session' := by
  intro hPerson
  have hPath := h.store.symm.trans hPerson.store
  cases hPath
  have hSession := h.load.symm.trans hPerson.load
  cases hSession
  have hBoth := h.platform.symm.trans hPerson.identity_eq
  cases hBoth

end

/- The backend of the platform has the session as it is. -/
theorem ok_of_validBackend
    {session : Session}
    {backend : Backend}
    (h : validBackend session = .ok backend) :
    ∃ ca client,
      session.caBytes = .ok (some ca) ∧
        Dashboard.Opens (.only ca) session.endpoint session.token
          client ∧
        backend = .facade client session.user := by
  rcases Result.ok_of_bind h with ⟨cached, hCached, h⟩
  cases cached with
  | none => cases h
  | some ca =>
      rcases Result.ok_of_bind h with ⟨plain, hCreate, h⟩
      rcases Result.ok_of_bind h with ⟨client, hToken, h⟩
      cases h
      exact
        ⟨ca, client, cachedCa_eq_ok_iff.mp hCached,
          ⟨plain, hCreate, hToken⟩, rfl⟩

theorem validBackend_eq
    {session : Session}
    {ca : Bytes}
    {client : Dashboard.Client}
    (hCa : session.caBytes = .ok (some ca))
    (hOpens :
      Dashboard.Opens (.only ca) session.endpoint session.token
        client) :
    validBackend session =
      .ok (.facade client session.user) := by
  rcases hOpens with ⟨plain, hCreate, hToken⟩
  simp only [validBackend, cachedCa, hCa]
  change (Dashboard.Client.create _ _ >>= _) = _
  rw [hCreate]
  change (plain.withToken _ >>= _) = _
  rw [hToken]
  rfl

/- The state in which a session at a URL is made valid. -/
def startAt
    (session : Session)
    (url : String)
    (w : World) : Platform.State Network where
  session := { session with endpoint := url }
  files := w.files
  warnings := w.warnings
  auth := w.network

/- A valid session gives the backend of the platform. -/
theorem platformBackend_some
    (keeper : SessionFile.Keeper)
    (c : Connection)
    (path : String)
    (session : Session)
    (url : String)
    (w : World) :
    platformBackend keeper c path session (some url) w =
      (let run :=
        Platform.ensureValidBy
          (.ofDashboard c.caUrl w.files c.identityPath)
          (Platform.saveBy keeper path) (startAt session url w)
      (run.1.bind fun _ => validBackend run.2.session,
        { files := run.2.files
          network := run.2.auth
          warnings := run.2.warnings })) := by
  rcases hRun :
      Platform.ensureValidBy
        (.ofDashboard c.caUrl w.files c.identityPath)
        (Platform.saveBy keeper path) (startAt session url w)
    with ⟨result, s⟩
  have hRenew :
      renew keeper
          (.ofDashboard c.caUrl w.files c.identityPath) path
          { session with endpoint := url } w =
        (result.map fun _ => s.session,
          { files := s.files
            network := s.auth
            warnings := s.warnings }) := by
    unfold startAt at hRun
    unfold renew
    simp only
    rw [hRun]
  unfold platformBackend
  simp only
  rw [Task.bind_ok (Task.get_eq w)]
  cases result with
  | error failure => exact Task.bind_error hRenew
  | ok outcome =>
      rw [Task.bind_ok hRenew]
      exact Task.ofExcept_eq _ _

end Route
end WorkspaceClient
