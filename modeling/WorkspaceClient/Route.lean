import WorkspaceClient.Backend
import WorkspaceClient.Connection
import WorkspaceClient.Platform.Renewal
import WorkspaceClient.World

/-
  This file defines the choice of the backend: the API of
  the cluster, the Dashboard with the session of a person,
  or the Dashboard with the identity of the platform.

  Key definitions include:
    * `Route.Identity`
    * `Route.identity`
    * `Route.endpoint`
    * `Route.humanBackend`
    * `Route.platformBackend`
    * `Route.selectBy`
    * `Route.select`
-/

namespace WorkspaceClient
namespace Route

------------------------------------------------------------
-- Identity and endpoint
------------------------------------------------------------

/- Whose session talks to the Dashboard. -/
inductive Identity where
  | human
  | platform
  deriving DecidableEq, Repr

/-
  The platform acts if the session says so, or if there has
  never been a session and an identity token is mounted.
-/
def identity
    (session : Session)
    (hasToken : Bool) : Identity :=
  if session.isPlatform || (session.isEmpty && hasToken) then
    .platform
  else
    .human

/-
  The URL of the Dashboard: the explicit one, else the one
  of the session, else the one inside of the cluster if
  there has never been a session.
-/
def endpoint
    (explicit : Option String)
    (session : Session)
    (location : ClusterLocation) : Option String :=
  match Connection.given explicit with
  | some url => some url
  | none =>
      if !session.endpoint.isEmpty then
        some session.endpoint
      else if session.isEmpty then
        some location.dashboardUrl
      else
        none

------------------------------------------------------------
-- Sessions
------------------------------------------------------------

/- The failure of a person without a session. -/
def notLoggedIn : Failure :=
  .validation "not logged in: run 'burrow login <user>' first"

/- The cached authority of a session. -/
def cachedCa
    (session : Session) : Except Failure (Option Bytes) :=
  match session.caBytes with
  | .ok ca => .ok ca
  | .error fault =>
      .error (.sessionFile (.unreadableCa fault.message))

/- The roots that a cached authority is added to. -/
def rootsWith : Option Bytes → Http.Roots
  | some bundle => .extra bundle
  | none => .system

/- The Dashboard with the session of a person. -/
def humanBackend
    (session : Session)
    (url : Option String) : Except Failure Backend := do
  match url with
  | none => throw notLoggedIn
  | some url =>
      if !session.hasToken then
        throw notLoggedIn
      else
        let ca ← cachedCa session
        let client ←
          Dashboard.Client.create (rootsWith ca) url
        let client ← client.withToken session.token
        return .facade client session.user

/- The Dashboard with a valid session of the platform. -/
def validBackend
    (session : Session) : Except Failure Backend := do
  match ← cachedCa session with
  | none =>
      throw (.protocol
        "platform session has no CA after bootstrap")
  | some ca =>
      let client ←
        Dashboard.Client.create (.only ca) session.endpoint
      let client ← client.withToken session.token
      return .facade client session.user

/-
  Make a session of the platform valid. It is kept in some
  way when it has changed.
-/
def renew
    (keeper : SessionFile.Keeper)
    (auth : Platform.Auth Network)
    (path : String)
    (session : Session) : Task World Session :=
  fun w =>
    let start : Platform.State Network :=
      { session
        files := w.files
        warnings := w.warnings
        auth := w.network }
    match Platform.ensureValidBy auth
        (Platform.saveBy keeper path) start with
    | (result, s) =>
        (result.map fun _ => s.session,
          { files := s.files
            network := s.auth
            warnings := s.warnings })

/- The Dashboard with the identity of the platform. -/
def platformBackend
    (keeper : SessionFile.Keeper)
    (c : Connection)
    (path : String)
    (session : Session)
    (url : Option String) : Task World Backend := do
  match url with
  | none => .fail Platform.noEndpoint
  | some url =>
      let w ← Task.get
      let auth := Platform.Auth.ofDashboard c.caUrl w.files
        c.identityPath
      let valid ←
        renew keeper auth path
          { session with endpoint := url }
      .ofExcept (validBackend valid)

------------------------------------------------------------
-- Choice
------------------------------------------------------------

/- The Dashboard with the session in the session file. -/
def selectFacade
    (keeper : SessionFile.Keeper)
    (c : Connection)
    (home : Option String) : Task World Backend := do
  let path ← .ofExcept (c.storePath home)
  let session ← World.load path
  let w ← Task.get
  let url := endpoint c.explicitUrl session c.location
  let hasToken :=
    w.files.isFile (Path.ofText c.identityPath)
  match identity session hasToken with
  | .platform => platformBackend keeper c path session url
  | .human => .ofExcept (humanBackend session url)

/-
  The backend that the options of a command choose. A
  session that has changed is kept in some way.
-/
def selectBy
    (keeper : SessionFile.Keeper)
    (c : Connection)
    (home : Option String) : Task World Backend := do
  if c.direct then
    let w ← Task.get
    let client ← .ofExcept
      (Cluster.Client.resolve w.files home c.kubeconfigPath
        c.context)
    return .direct client
  else
    selectFacade keeper c home

/- The backend that the options of a command choose. -/
def select
    (c : Connection)
    (home : Option String) : Task World Backend :=
  selectBy SessionFile.save c home

end Route
end WorkspaceClient
