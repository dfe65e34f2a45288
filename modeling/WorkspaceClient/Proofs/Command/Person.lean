import WorkspaceClient.Proofs.Command.Rows
import WorkspaceClient.Proofs.Route
import WorkspaceClient.Proofs.Session

/-
  This file shows that the session of a person never becomes
  a login of the platform: a list command sends the request
  for its list or nothing, with the cookie of the session,
  and it changes no file.

  Key definitions include:
    * `Listing.AsksAs`
    * `Listing.Unusable`
    * `Listing.StaysPerson`

  Main declarations:
    * `Listing.isListCall_of_asks`
    * `Listing.not_unusable_of_humanBackend`
    * `Listing.run_staysPerson`
-/

namespace WorkspaceClient
namespace Listing

open Dashboard (Calls)

------------------------------------------------------------
-- Requests of a person
------------------------------------------------------------

/-
  A request asks for the list of a command in the session of
  a person: below the URL that is given or else cached, with
  the cookie that the token stores.
-/
inductive AsksAs
    (c : Connection)
    (session : Session)
    (command : Command) : Http.Request → Prop where
  | call
      {url cookie : String}
      {u : Url}
      {ca : Option Bytes}
      {procedure : Dashboard.Procedure}
      {document : Json}
      {q : Http.Request}
      (hUrl :
        c.explicitUrl = some url ∨
          c.explicitUrl = none ∧
            session.endpoint = url ∧ url ≠ "")
      (hParse : Url.parse url = .ok u)
      (hCookie :
        Credential.decodeToken session.token = .ok cookie)
      (hCa : session.caBytes = .ok ca)
      (hAsks :
        Asks session.user command (expressionsOf command)
          procedure document)
      (hCalls :
        Calls
          { roots := Route.rootsWith ca
            base := u.asBase
            cookie := some cookie }
          procedure document q) :
      AsksAs c session command q

/-
  The session of a person cannot be used: there is no token
  or no URL, or something of it cannot be decoded.
-/
inductive Unusable
    (c : Connection)
    (session : Session) : Prop where
  | noToken
      (h : session.token = "")
  | noUrl
      (hExplicit : c.explicitUrl = none)
      (hCached : session.endpoint = "")
  | badToken
      {fault : Credential.TokenFault}
      (h :
        Credential.decodeToken session.token = .error fault)
  | badCa
      {fault : Base64.Fault}
      (h : session.caBytes = .error fault)
  | noCertificate
      {ca : Bytes}
      {failure : Failure}
      (hCa : session.caBytes = .ok (some ca))
      (hRead : Trust.certificates ca = .error failure)

/- What a list command does in the session of a person. -/
structure StaysPerson
    (c : Connection)
    (session : Session)
    (command : Command)
    (w w' : World)
    (requests : List Http.Request)
    (result : Except Failure String) : Prop where
  network : w'.network = w.network.afterAll requests
  files : w'.files = w.files
  atMostOne : requests.length ≤ 1
  known : ∀ q ∈ requests, AsksAs c session command q
  -- nothing is fetched, and only lists are called
  listsOnly :
    ∀ q ∈ requests,
      q.isFetch = false ∧
        ∀ procedure,
          q.isCallOf procedure = true →
            procedure = .getWorkspaces ∨
              procedure = .getUsers
  unusable :
    Unusable c session →
      requests = [] ∧ ∃ failure, result = .error failure

section

variable {c : Connection}
variable {session : Session}
variable {command : Command}

/- What is asked for is a list. -/
theorem procedure_of_asks
    {user : String}
    {expressions : List String}
    {procedure : Dashboard.Procedure}
    {document : Json}
    (h : Asks user command expressions procedure document) :
    procedure = .getWorkspaces ∨ procedure = .getUsers := by
  cases h with
  | workspaces => exact .inl rfl
  | users => exact .inr rfl

theorem AsksAs.listsOnly
    {q : Http.Request}
    (h : AsksAs c session command q) :
    q.isFetch = false ∧
      ∀ procedure,
        q.isCallOf procedure = true →
          procedure = .getWorkspaces ∨
            procedure = .getUsers := by
  cases h with
  | call _ _ _ _ hAsks hCalls =>
      refine ⟨hCalls.not_isFetch, ?_⟩
      intro procedure hThis
      rw [hCalls.isCallOf_iff.mp hThis]
      exact procedure_of_asks hAsks

/- A session that gives a backend can be used. -/
theorem not_unusable_of_humanBackend
    {b : Backend}
    (h :
      Route.humanBackend session
          (Route.endpoint c.explicitUrl session c.location) =
        .ok b) :
    ¬ Unusable c session := by
  rcases Route.ok_of_humanBackend h with
    ⟨url, ca, client, hUrl, hToken, hCa, hOpens, _⟩
  rcases hOpens.exists_eq with ⟨_, cookie, _, hReplay, _⟩
  have hCookie := Credential.ok_of_replay hReplay
  intro hUnusable
  cases hUnusable with
  | noToken hNone => exact hToken hNone
  | noUrl hExplicit hCached =>
      rcases Route.given_or_cached_of_endpoint hToken hUrl with
        hGiven | ⟨_, hEndpoint, hSome⟩
      · rw [hExplicit] at hGiven
        cases hGiven
      · exact hSome (hEndpoint.symm.trans hCached)
  | badToken hBad =>
      rw [hCookie] at hBad
      cases hBad
  | badCa hBad =>
      rw [hCa] at hBad
      cases hBad
  | noCertificate hSome hRead =>
      rw [hCa] at hSome
      cases hSome
      rcases hOpens with ⟨plain, hCreate, _⟩
      rcases Result.ok_of_bind hCreate with
        ⟨_, hRoots, _⟩
      rcases Result.ok_of_bind hRoots with
        ⟨_, hCertificates, _⟩
      rw [hRead] at hCertificates
      cases hCertificates

/- What is asked with the backend of a person is asked as one. -/
theorem asksAs_of_asked
    {b : Backend}
    {requests : List Http.Request}
    (h :
      Route.humanBackend session
          (Route.endpoint c.explicitUrl session c.location) =
        .ok b)
    (hAsked :
      ∀ client user,
        b = .facade client user →
          Asked client user command requests) :
    requests.length ≤ 1 ∧
      ∀ q ∈ requests, AsksAs c session command q := by
  rcases Route.ok_of_humanBackend h with
    ⟨url, ca, client, hUrl, hToken, hCa, hOpens, hBackend⟩
  rcases hOpens.exists_eq with
    ⟨base, cookie, hBase, hReplay, rfl⟩
  rcases Dashboard.Client.ok_of_parseBase hBase with
    ⟨u, hParse, rfl⟩
  cases hAsked _ _ hBackend with
  | nothing => exact ⟨Nat.zero_le 1, nofun⟩
  | once hAsks hCalls =>
      refine ⟨Nat.le_refl 1, ?_⟩
      intro q hMem
      rw [List.mem_singleton.mp hMem]
      exact
        .call
          (Route.given_or_cached_of_endpoint hToken hUrl)
          hParse (Credential.ok_of_replay hReplay) hCa hAsks
          hCalls

theorem staysPerson_nil
    (w : World)
    (failure : Failure) :
    StaysPerson c session command w w [] (.error failure) where
  network := w.network.afterAll_nil.symm
  files := rfl
  atMostOne := Nat.zero_le 1
  known := nofun
  listsOnly := nofun
  unusable := fun _ => ⟨rfl, failure, rfl⟩

/-
  A list command in the session of a person stays there,
  whatever its options, the session, the files and the
  answers are.
-/
theorem run_staysPerson
    {home : Option String}
    {path : String}
    {w : World}
    (h : Route.ActsAsPerson c home w path session)
    (hListing : isListing command = true)
    (format : Format)
    (input : Bytes) :
    let run :=
      Invocation.run { format, connection := c, command } home
        input w
    ∃ requests,
      StaysPerson c session command w run.2 requests run.1 := by
  intro run
  have hRun :
      ListRun SessionFile.save c home command w run.1 run.2 :=
    listRun_runBy hListing format input
  have hSelect := h.selectBy_eq SessionFile.save
  generalize run.1 = result, run.2 = w' at hRun
  cases hRun with
  | refused _ => exact ⟨[], staysPerson_nil w _⟩
  | unselected _ hThis =>
      rw [hSelect, Prod.mk.injEq] at hThis
      rcases hThis with ⟨_, rfl⟩
      exact ⟨[], staysPerson_nil w _⟩
  | @listed _ b _ requests _ _ _ hThis hReads =>
      rw [hSelect, Prod.mk.injEq] at hThis
      rcases hThis with ⟨hBackend, rfl⟩
      rcases asksAs_of_asked hBackend hReads.asked with
        ⟨hOne, hKnown⟩
      exact
        ⟨requests,
          { network := rfl
            files := rfl
            atMostOne := hOne
            known := hKnown
            listsOnly := fun q hMem => (hKnown q hMem).listsOnly
            unusable := fun hUnusable =>
              absurd hUnusable
                (not_unusable_of_humanBackend hBackend) }⟩

end

/- The session of a person. -/
def personSession : Session :=
  { Session.empty with
    endpoint := "https://d"
    token := "c2lkPWEx"
    user := "ann" }

/- A world with this session and with a mounted identity. -/
def personWorld : World where
  files :=
    (Files.empty.put ["id"]
      (.file 0o600 (Bytes.ofText "identity"))).put ["s"]
        (.file 0o600 personSession.document)
  network := Network.unreachable
  warnings := []

/- The options of a command that finds both files. -/
def mountedOptions : Connection :=
  { Connection.usual with
    config := some "/s"
    identityFile := some "/id" }

/- The identity is there, and only the list is asked for. -/
theorem run_staysPerson_mounted :
    Route.ActsAsPerson mountedOptions none personWorld "/s"
        personSession ∧
      isListing (.listUsers []) = true ∧
      personWorld.files.isFile
          (Path.ofText mountedOptions.identityPath) = true ∧
      ∃ q result w',
        StaysPerson mountedOptions personSession (.listUsers [])
            personWorld w' [q] result ∧
          q.header? "cookie" = some (Bytes.ofText "sid=a1") := by
  have hPerson :
      Route.ActsAsPerson mountedOptions none personWorld "/s"
        personSession :=
    { facade := rfl
      store := rfl
      load := SessionFile.load_of_read rfl
      unflagged := rfl
      started := .inl rfl }
  rcases run_staysPerson hPerson
      (show isListing (.listUsers []) = true from rfl) .table []
    with ⟨requests, hStays⟩
  have hCookies :
      (Invocation.run
          { format := .table
            connection := mountedOptions
            command := .listUsers [] }
          none [] personWorld).2.network.sent.map
            (·.header? "cookie") =
        [some (Bytes.ofText "sid=a1")] := by
    decide +kernel
  rw [hStays.network] at hCookies
  rcases List.map_eq_singleton_iff.mp hCookies with
    ⟨q, rfl, hCookie⟩
  exact ⟨hPerson, rfl, rfl, q, _, _, hStays, hCookie⟩

end Listing
end WorkspaceClient
