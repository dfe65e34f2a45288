import WorkspaceClient.Proofs.Command.Listing
import WorkspaceClient.Proofs.Command.Login

/-
  This file shows that a list command after a login talks to
  the server that the login talked to, as the user that
  logged in: with the same authorities, at the same base
  URL, and with exactly the pairs that the answer to the
  login has set as its cookie.

  Key definitions include:
    * `Login.Follows`
    * `Login.Resumes`
    * `Login.Replays`

  Main declarations:
    * `Login.Succeeds.select_eq`
    * `Login.Succeeds.replays`
    * `Login.run_replayed`
-/

namespace WorkspaceClient
namespace Login

------------------------------------------------------------
-- Later commands
------------------------------------------------------------

/-
  A later command uses the session file that a login left,
  and it does not name another URL. Everything else may have
  changed.
-/
structure Follows
    (x : Exchange)
    (w' : World)
    (c : Connection)
    (home : Option String)
    (w : World) : Prop where
  facade : c.direct = false
  path : c.storePath home = .ok x.path
  file :
    w.files.read (Path.ofText x.path) =
      w'.files.read (Path.ofText x.path)
  url : ∀ url, c.explicitUrl = some url → url = x.url

/-
  A request goes where a login went, and its cookie is what
  the answer to the login has set.
-/
structure Resumes
    (x : Exchange)
    (procedure : Dashboard.Procedure)
    (document : Json)
    (q : Http.Request) : Prop where
  roots : q.roots = x.request.roots
  origin : q.origin = x.request.origin
  target :
    q.target = (x.base.join procedure.path.toList).target
  cookie :
    (q.headers.filter fun h => h.1 == "cookie") =
      [("cookie", Bytes.ofText (Text.join "; " x.pairs))]
  body : q.body = document.compact

/- The client of a later command. -/
def Exchange.laterClient
    (x : Exchange) : Dashboard.Client :=
  { x.client with cookie := some x.cookie }

/-
  A later command chooses the Dashboard with the session of
  the login, without a request. A list command then sends
  one request, unless one of its filters is malformed.
-/
structure Replays
    (x : Exchange)
    (a : Arguments)
    (c : Connection)
    (home : Option String)
    (w : World) : Prop where
  identity :
    ∀ hasToken,
      Route.identity (x.session a) hasToken = .human
  select :
    Route.select c home w =
      (.ok (.facade x.laterClient a.user), w)
  sends :
    ∀ {command expressions procedure document filters},
      Listing.Asks a.user command expressions procedure
        document →
      Listing.parseFilters expressions = .ok filters →
      ∀ format input,
        ∃ q,
          Resumes x procedure document q ∧
            World.Sends w
              (Invocation.run
                { format, connection := c, command } home
                input w).2 q
  refuses :
    ∀ {command expressions procedure document failure},
      Listing.Asks a.user command expressions procedure
        document →
      Listing.parseFilters expressions = .error failure →
      ∀ format input,
        Invocation.run
            { format, connection := c, command } home input w =
          (.error failure, w)

section

variable {c c' : Connection}
variable {home home' : Option String}
variable {a : Arguments}
variable {w w' later : World}
variable {x : Exchange}

theorem Succeeds.token_ne_empty
    (h : Succeeds c home a w w' x) :
    (x.session a).token ≠ "" := by
  rw [Exchange.session, token_session]
  intro hEmpty
  rw [Credential.encodeToken_eq_empty_iff] at hEmpty
  exact h.pairs.cookie_ne_empty h.cookie hEmpty

theorem Succeeds.identity
    (h : Succeeds c home a w w' x)
    (hasToken : Bool) :
    Route.identity (x.session a) hasToken = .human :=
  Route.identity_human (isPlatform_session _ _ _ _)
    h.token_ne_empty hasToken

/- A later command talks to the Dashboard of the login. -/
theorem Succeeds.select_eq
    (h : Succeeds c home a w w' x)
    (hFollows : Follows x w' c' home' later) :
    Route.select c' home' later =
      (.ok (.facade x.laterClient a.user), later) := by
  have hLoad :
      SessionFile.load x.path later.files =
        .ok (x.session a) := by
    rw [SessionFile.load_congr hFollows.file]
    exact h.stored
  have hEndpoint : (x.session a).endpoint = x.url :=
    endpoint_session _ _ _ _
  have hUrl :
      Route.endpoint c'.explicitUrl (x.session a) c'.location =
        some x.url := by
    rw [← hEndpoint]
    apply Route.endpoint_eq
    · rw [hEndpoint]
      exact Route.ne_empty_of_endpoint h.url
    · rw [hEndpoint]
      exact hFollows.url
  have hReplay :
      Credential.replay (x.session a).token = .ok x.cookie := by
    rw [Exchange.session, token_session]
    exact Credential.replay_encodeToken x.cookie
  have hBackend :=
    Route.humanBackend_eq h.token_ne_empty h.storedCa h.client
      hReplay
  rw [Route.select, Route.selectBy_human _ hFollows.facade
    hFollows.path hLoad (h.identity _), hUrl, hBackend,
    Exchange.session, user_session]
  rfl

/- Its requests carry the cookie of the login. -/
theorem Succeeds.resumes
    {procedure : Dashboard.Procedure}
    {document : Json}
    {q : Http.Request}
    (h : Succeeds c home a w w' x)
    (hCalls :
      Dashboard.Calls x.laterClient procedure document q) :
    Resumes x procedure document q := by
  rcases h.request with ⟨_, hLogin⟩
  exact
    { roots := hCalls.roots.trans hLogin.roots.symm
      origin := hCalls.origin.trans hLogin.origin.symm
      target := hCalls.target
      cookie := hCalls.cookie
      body := hCalls.body }

theorem Succeeds.replays
    (h : Succeeds c home a w w' x)
    (hFollows : Follows x w' c' home' later) :
    Replays x a c' home' later where
  identity := h.identity
  select := h.select_eq hFollows
  sends := by
    intro command expressions procedure document filters
      hAsks hFilters format input
    -- only readable headers were kept, so the cookie is sent
    have hCarry :
        ∀ s ∈ x.laterClient.cookie, Dashboard.CanCarry s := by
      rintro s ⟨⟩
      exact Dashboard.canCarry_of_setsAll h.pairs
    rcases x.laterClient.exists_request? procedure document
        hCarry with ⟨q, hRequest⟩
    refine
      ⟨q,
        h.resumes (Dashboard.Client.calls_of_request? hRequest),
        ?_⟩
    exact
      Listing.sends_of_asks (h.select_eq hFollows) h.user hAsks
        hFilters hRequest format input
  refuses := by
    intro command expressions procedure document failure
      hAsks hFilters format input
    exact
      Listing.refuses_of_asks hAsks hFilters format c' home'
        input later

end

------------------------------------------------------------
-- Login and list
------------------------------------------------------------

/-
  What is listed after a login is listed for the user that
  has logged in, where the login went.
-/
theorem run_replayed
    {format : Format}
    {c : Connection}
    {home : Option String}
    {a : Arguments}
    {input : Bytes}
    {w w' : World}
    {output : String}
    (hRun :
      Invocation.run
          { format, connection := c, command := .login a } home
          input w =
        (.ok output, w')) :
    ∃ x,
      Succeeds c home a w w' x ∧
        ∀ c' home' later,
          Follows x w' c' home' later →
            Replays x a c' home' later := by
  rcases Task.ok_of_bind hRun with ⟨report, w₁, hLogin, ⟨⟩⟩
  rcases exists_exchange hLogin with ⟨x, hSucceeds⟩
  exact ⟨x, hSucceeds, fun _ _ _ => hSucceeds.replays⟩

/- An answer that sets two pairs with three headers. -/
def twoPairs : Http.Response :=
  { status := 200
    headers :=
      [("Set-Cookie", Bytes.ofText "sid=a1; Path=/; HttpOnly"),
        ("set-cookie", Bytes.ofText "=none"),
        ("set-cookie", Bytes.ofText " theme=dark ")]
    body := Bytes.ofText "\x7b\x7d"
    isCut := false }

/- A world without a session, where every request is answered. -/
def answeringWorld : World :=
  { files := Files.empty
    network :=
      { answer := fun _ _ => .answered twoPairs
        sent := [] }
    warnings := [] }

/- The options and the arguments of a first login. -/
def firstOptions : Connection :=
  { Connection.usual with
    dashboardUrl := some "https://d"
    config := some "/s" }

def firstArguments : Arguments :=
  { user := "ann"
    fromInput := false
    password := some "pw"
    caFile := none }

/- Both pairs are replayed, and neither is an attribute. -/
theorem run_replayed_two_pairs :
    ∃ output w' x,
      Invocation.run
            { format := .table
              connection := firstOptions
              command := .login firstArguments }
            none [] answeringWorld =
          (.ok output, w') ∧
        Succeeds firstOptions none firstArguments
          answeringWorld w' x ∧
        x.pairs = ["sid=a1", "theme=dark"] ∧
        Follows x w' firstOptions none w' ∧
        Replays x firstArguments firstOptions none w' := by
  have hRun :
      ∃ output w',
        Invocation.run
            { format := .table
              connection := firstOptions
              command := .login firstArguments }
            none [] answeringWorld =
          (.ok output, w') :=
    ⟨_, _, rfl⟩
  rcases hRun with ⟨output, w', hRun⟩
  rcases run_replayed hRun with ⟨x, hSucceeds, hReplays⟩
  have hResponse : twoPairs = x.response :=
    Http.Reply.answered.inj hSucceeds.response
  have hPairs : x.pairs = ["sid=a1", "theme=dark"] := by
    have hAll := hSucceeds.pairs
    rw [← hResponse, Credential.setsAll_iff] at hAll
    rw [← hAll]
    rfl
  have hUrl : x.url = "https://d" :=
    (Option.some.inj hSucceeds.url).symm
  have hFollows : Follows x w' firstOptions none w' :=
    { facade := rfl
      path := hSucceeds.path
      file := rfl
      url := by
        rintro url ⟨⟩
        exact hUrl.symm }
  exact
    ⟨output, w', x, hRun, hSucceeds, hPairs, hFollows,
      hReplays _ _ _ hFollows⟩

end Login
end WorkspaceClient
