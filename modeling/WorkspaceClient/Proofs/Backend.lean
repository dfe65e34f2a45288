import WorkspaceClient.Backend
import WorkspaceClient.Proofs.Dashboard.Replies

/-
  This file shows what a list call of a Dashboard backend
  makes of every reply: rows, or a failure that tells whether
  the session has expired, whether something is not there,
  and which status was answered.

  Key definitions include:
    * `Backend.Reads`
    * `Backend.Concludes`

  Main declarations:
    * `Backend.reads_conclusion`
    * `Backend.facade_concludes`
-/

namespace WorkspaceClient

open Text (Mentions)

------------------------------------------------------------
-- Conclusions
------------------------------------------------------------

namespace Backend

open Dashboard (readReply)

variable {α : Type}

/-
  What a list call makes of a reply, whatever the reply is.
-/
structure Reads
    (d : Json.Decoder α)
    (reply : Http.Reply)
    (result : Except Failure α) : Prop where
  complete :
    (∃ body, reply.Delivers body) ∨
      (∃ status message, reply.Refuses status message) ∨
      reply.Loses
  -- rows come from a complete body that decodes only
  ok :
    ∀ rows,
      result = .ok rows ↔
        ∃ body,
          reply.Delivers body ∧ d.ofBytes body = .ok rows
  undecodable :
    ∀ body fault,
      reply.Delivers body →
      d.ofBytes body = .error fault →
        ∃ text, result = .error (.protocol text)
  -- a refusal is told apart by its status
  rejected :
    ∀ status message,
      reply.Refuses status message →
      status = 401 ∨ status = 403 →
        ∃ text,
          result = .error (.auth text) ∧
            (∀ told ∈ message, text = told) ∧
            (message = none →
              Mentions text (Http.statusText status))
  missing :
    ∀ message,
      reply.Refuses 404 (some message) →
        result = .error (.notFound message)
  redirected :
    ∀ message,
      reply.Refuses 302 message →
        result = .error .sessionExpired
  -- any other refusal is told apart by its message
  reported :
    ∀ status message text,
      reply.Refuses status message →
      ¬ (status = 401 ∨ status = 403) →
      (status = 404 → message = none) →
      text ∈ message →
      Mentions text Failure.redirectMarker →
        result = .error .sessionExpired
  unexpected :
    ∀ status message,
      reply.Refuses status message →
      status ≠ 302 →
      ¬ (status = 401 ∨ status = 403) →
      (status = 404 → message = none) →
      (∀ text ∈ message,
        ¬ Mentions text Failure.redirectMarker) →
        ∃ text,
          result = .error (.transport text) ∧
            Mentions text Failure.sessionHint ∧
            Mentions text (Http.statusText status) ∧
            ∀ told ∈ message, Mentions text told
  lost :
    reply.Loses →
      ∃ text,
        result = .error (.transport text) ∧
          Mentions text Failure.sessionHint
  -- no failed connection is told without the hint
  hinted :
    ∀ text,
      result = .error (.transport text) →
        Mentions text Failure.sessionHint
  -- a body that cannot be read does not hide the status
  unreadable :
    ∀ r,
      reply = .answered r →
      r.isCut = true →
      ¬ Http.Succeeds r.status →
        reply.Refuses r.status none

/- The rows or the failure that a list call reads. -/
def conclusion
    (procedure : Dashboard.Procedure)
    (d : Json.Decoder α)
    (reply : Http.Reply) : Except Failure α :=
  ((readReply procedure d reply).map Prod.fst).mapError
    Failure.classify

section

variable (procedure : Dashboard.Procedure)
variable {reply : Http.Reply}
variable (d : Json.Decoder α)

theorem conclusion_error
    {failure : Failure}
    (h : readReply procedure d reply = .error failure) :
    conclusion procedure d reply =
      .error (Failure.classify failure) := by
  rw [conclusion, h]
  rfl

theorem conclusion_delivers
    {body : Bytes}
    (hDelivers : reply.Delivers body) :
    conclusion procedure d reply =
      match d.ofBytes body with
      | .ok rows => .ok rows
      | .error fault =>
          .error (.protocol
            (procedure.path ++ ": " ++ fault.message)) := by
  rcases Dashboard.readReply_delivers procedure d hDelivers
    with ⟨cookies, hRead⟩
  rw [conclusion, hRead]
  cases d.ofBytes body <;> rfl

theorem exists_conclusion_lost
    (hLoses : reply.Loses) :
    ∃ text,
      conclusion procedure d reply =
          .error (.transport text) ∧
        Mentions text Failure.sessionHint := by
  rcases Dashboard.isLoss_of_loses procedure d hLoses with
    ⟨_, hRead, text, rfl, hMark⟩
  rcases Failure.exists_classify hMark with
    ⟨hinted, hClassified, hHint, _⟩
  rw [conclusion_error procedure d hRead, hClassified]
  exact ⟨hinted, rfl, hHint⟩

/- A refusal that is not explained otherwise. -/
theorem conclusion_unexpected
    {status : Nat}
    {message : Option String}
    (hRefuses : reply.Refuses status message)
    (hAuth : ¬ (status = 401 ∨ status = 403))
    (hMissing : status = 404 → message = none) :
    conclusion procedure d reply =
      .error (Failure.classify
        (.transport
          (Dashboard.unexpected procedure status message))) := by
  rcases Dashboard.readReply_refuses procedure d hRefuses with
    ⟨body, rfl, hRead⟩
  rw [conclusion_error procedure d hRead,
    Dashboard.statusFailure_unexpected procedure hAuth hMissing]

/- Rows are only read from what was delivered. -/
theorem exists_delivers_of_ok
    {rows : α}
    (h : conclusion procedure d reply = .ok rows) :
    ∃ body,
      reply.Delivers body ∧ d.ofBytes body = .ok rows := by
  unfold conclusion at h
  cases hRead : readReply procedure d reply with
  | ok answer =>
      rw [hRead] at h
      cases h
      exact
        Dashboard.exists_delivers_of_readReply procedure hRead
  | error failure =>
      rw [hRead] at h
      cases h

/- Every reply is read as it should be. -/
theorem reads_conclusion
    (reply : Http.Reply) :
    Reads d reply (conclusion procedure d reply) where
  complete := reply.cases
  ok := by
    intro rows
    constructor
    · exact exists_delivers_of_ok procedure d
    · rintro ⟨body, hDelivers, hBody⟩
      rw [conclusion_delivers procedure d hDelivers, hBody]
  undecodable := by
    intro body fault hDelivers hBody
    rw [conclusion_delivers procedure d hDelivers, hBody]
    exact ⟨_, rfl⟩
  rejected := by
    intro status message hRefuses hStatus
    rcases Dashboard.readReply_refuses procedure d hRefuses
      with ⟨body, hMessage, hRead⟩
    rw [conclusion_error procedure d hRead,
      Dashboard.statusFailure_auth procedure body hStatus,
      hMessage]
    refine ⟨_, rfl, ?_, ?_⟩
    · rintro told rfl
      rfl
    · rintro rfl
      exact Text.mentions_behind _ _ _
  missing := by
    intro message hRefuses
    rcases Dashboard.readReply_refuses procedure d hRefuses
      with ⟨body, hMessage, hRead⟩
    rw [conclusion_error procedure d hRead,
      Dashboard.statusFailure_notFound procedure hMessage]
    rfl
  redirected := by
    intro message hRefuses
    rw [conclusion_unexpected procedure d hRefuses (by decide)
      (fun h => absurd h (by decide))]
    apply congrArg Except.error
    apply Failure.classify_redirected
    exact
      (Dashboard.mentions_unexpected_iff procedure).mpr
        (.inl rfl)
  reported := by
    intro status message text hRefuses hAuth hMissing hText hMark
    rw [conclusion_unexpected procedure d hRefuses hAuth
      hMissing]
    apply congrArg Except.error
    apply Failure.classify_redirected
    exact
      (Dashboard.mentions_unexpected_iff procedure).mpr
        (.inr ⟨text, hText, hMark⟩)
  unexpected := by
    intro status message hRefuses hOther hAuth hMissing hPlain
    have hMark :
        ¬ Mentions
          (Dashboard.unexpected procedure status message)
          Failure.redirectMarker := by
      rw [Dashboard.mentions_unexpected_iff, not_or]
      refine ⟨hOther, ?_⟩
      rintro ⟨text, hText, hInside⟩
      exact hPlain text hText hInside
    rcases Failure.exists_classify hMark with
      ⟨hinted, hClassified, hHint, hKept⟩
    rw [conclusion_unexpected procedure d hRefuses hAuth
      hMissing, hClassified]
    refine
      ⟨hinted, rfl, hHint,
        hKept _
          (Dashboard.mentions_status_unexpected procedure status
            message), ?_⟩
    rintro told rfl
    exact
      hKept _
        (Dashboard.mentions_message_unexpected procedure status
          told)
  lost := exists_conclusion_lost procedure d
  hinted := by
    intro text hResult
    cases hRead : readReply procedure d reply with
    | ok rows =>
        rw [conclusion, hRead] at hResult
        cases hResult
    | error failure =>
        rw [conclusion_error procedure d hRead] at hResult
        exact
          Failure.mentions_hint_of_classify
            (Except.error.inj hResult)
  unreadable := by
    rintro r rfl hCut hStatus
    exact Dashboard.refuses_of_isCut hCut hStatus

end

------------------------------------------------------------
-- List calls
------------------------------------------------------------

/-
  How a list call of a client ends. A request whose cookie
  cannot be carried is not sent; any other one is sent once,
  and its reply is read.
-/
structure Concludes
    (client : Dashboard.Client)
    (procedure : Dashboard.Procedure)
    (document : Json)
    (d : Json.Decoder α)
    (n : Network)
    (run : Except Failure α × Network) : Prop where
  sent :
    (∀ s ∈ client.cookie, Dashboard.CanCarry s) →
      ∃ q,
        client.request? procedure document = some q ∧
          Dashboard.Calls client procedure document q ∧
          run.2 = n.after q ∧
          Reads d (n.answer n.sent q) run.1
  unsent :
    ¬ (∀ s ∈ client.cookie, Dashboard.CanCarry s) →
      run.2 = n ∧
        ∃ text,
          run.1 = .error (.transport text) ∧
            Mentions text Failure.sessionHint

/- A list call that is sent ends as its reply is read. -/
theorem call_eq_conclusion
    {client : Dashboard.Client}
    {procedure : Dashboard.Procedure}
    {document : Json}
    {q : Http.Request}
    (hRequest : client.request? procedure document = some q)
    (d : Json.Decoder α)
    (n : Network) :
    Task.mapFailure Failure.classify
        (client.call procedure document d
          >>= fun answer => pure answer.1) n =
      (conclusion procedure d (n.answer n.sent q),
        n.after q) := by
  have hCall := Dashboard.Client.call_eq hRequest d n
  unfold conclusion
  cases hRead : readReply procedure d (n.answer n.sent q) with
  | ok a =>
      rw [hRead] at hCall
      have hRows :
          (client.call procedure document d
            >>= fun answer => pure answer.1) n =
            (.ok a.1, n.after q) :=
        Task.bind_ok hCall
      rw [Task.mapFailure_ok hRows]
      rfl
  | error failure =>
      rw [hRead] at hCall
      rw [Task.mapFailure_error (Task.bind_error hCall)]
      rfl

theorem concludes_call
    (client : Dashboard.Client)
    (procedure : Dashboard.Procedure)
    (document : Json)
    (d : Json.Decoder α)
    (n : Network) :
    Concludes client procedure document d n
      (Task.mapFailure Failure.classify
        (client.call procedure document d
          >>= fun answer => pure answer.1) n) where
  sent := by
    intro hCarry
    rcases client.exists_request? procedure document hCarry
      with ⟨q, hRequest⟩
    rw [call_eq_conclusion hRequest]
    exact
      ⟨q, hRequest,
        Dashboard.Client.calls_of_request? hRequest, rfl,
        reads_conclusion procedure d _⟩
  unsent := by
    intro hCarry
    have hRequest :
        client.request? procedure document = none :=
      Dashboard.Client.request?_eq_none hCarry
    have hCall :=
      Dashboard.Client.call_unformed hRequest d n
    rw [Task.mapFailure_error (Task.bind_error hCall)]
    rcases Dashboard.isLoss_unformed procedure with
      ⟨text, hLoss, hMark⟩
    rcases Failure.exists_classify hMark with
      ⟨hinted, hClassified, hHint, _⟩
    rw [hLoss, hClassified]
    exact ⟨rfl, hinted, rfl, hHint⟩

/-
  A list call of a Dashboard backend, for workspaces or for
  users, reads every reply as it should be read.
-/
theorem facade_concludes
    (client : Dashboard.Client)
    (user : String)
    (n : Network) :
    (∀ owner,
      Concludes client .getWorkspaces
        (.ofMembers [("userName", .ofText owner)])
        (Dashboard.itemsShape Workspace.shape).decode n
        ((facade client user).workspaces owner n)) ∧
      Concludes client .getUsers Dashboard.emptyDocument
        (Dashboard.itemsShape User.shape).decode n
        ((facade client user).users n) := by
  constructor
  · intro owner
    exact concludes_call client _ _ _ n
  · exact concludes_call client _ _ _ n

------------------------------------------------------------
-- Refusals with a message
------------------------------------------------------------

/- A Dashboard without a session. -/
def someDashboard : Dashboard.Client :=
  { roots := .system
    base :=
      { scheme := .https
        username := []
        password := []
        host := .domain "dashboard".toList
        port := none
        segments := [[]]
        query := none
        fragment := none }
    cookie := none }

/- An answer whose body has a type. -/
def refusal
    (status : Nat)
    (type : String)
    (body : Bytes) : Http.Response where
  status := status
  headers := [("Content-Type", Bytes.ofText type)]
  body := body
  isCut := false

/- A network in which every request gets this answer. -/
def refusing
    (r : Http.Response) : Network where
  answer := fun _ _ => .answered r
  sent := []

/- Something that is not there, told in UTF-8. -/
def gone : Http.Response :=
  refusal 404 "application/json"
    (Bytes.ofText "\x7b\"message\": \"gone\"\x7d")

/- A redirection that a proxy reports, told in UTF-16. -/
def moved : Http.Response :=
  refusal 500 "text/plain; charset=utf-16le"
    (Bytes.Wide.encode false "[\"got 302 Found\"]".toList)

theorem tells_gone :
    gone.Tells "gone" := by
  have hCharset :
      (Dashboard.charset? gone).getD .utf8 = .utf8 := by
    decide
  have hBody :
      gone.body =
        Bytes.ofText "\x7b\"message\": \"gone\"\x7d" :=
    rfl
  rw [Http.Response.tells_iff_utf8 rfl hCharset hBody
    (by decide)]
  exact
    ⟨by decide, .ofMembers [("message", .ofText "gone")],
      Json.parse_eq_iff.mp rfl, .named (by simp) rfl⟩

theorem tells_moved :
    moved.Tells "got 302 Found" := by
  have hCharset :
      Dashboard.charset? moved = some (.wide false) := by
    decide
  have hText :
      Bytes.toTextAs ((Dashboard.charset? moved).getD .utf8)
          moved.body =
        "[\"got 302 Found\"]" := by
    rw [hCharset]
    exact Bytes.toTextAs_wide false (by decide)
  rw [Http.Response.tells_iff rfl hText]
  exact
    ⟨by decide, .array [.ofText "got 302 Found"],
      Json.parse_eq_iff.mp rfl, .ordered⟩

/-
  The first answer is told as it is, and the second one is
  told as the end of the session. A session that cannot be
  sent gets no answer.
-/
theorem facade_concludes_refused :
    (∃ q,
      Dashboard.Calls someDashboard .getUsers
          Dashboard.emptyDocument q ∧
        (facade someDashboard "ann").users (refusing gone) =
          (.error (.notFound "gone"),
            (refusing gone).after q)) ∧
      (∃ q,
        Dashboard.Calls someDashboard .getWorkspaces
            (.ofMembers [("userName", .ofText "ann")]) q ∧
          (facade someDashboard "ann").workspaces "ann"
              (refusing moved) =
            (.error .sessionExpired,
              (refusing moved).after q)) ∧
      ((facade { someDashboard with cookie := some "a\nb" }
          "ann").users (refusing gone)).2 =
        refusing gone := by
  refine ⟨?_, ?_, ?_⟩
  · rcases (facade_concludes someDashboard "ann"
        (refusing gone)).2.sent (by simp [someDashboard]) with
      ⟨q, -, hCalls, hSent, hReads⟩
    have hRefuses :=
      Dashboard.refuses_of_tells tells_gone
        (by simp [gone, refusal, Http.Succeeds])
    exact
      ⟨q, hCalls, Prod.ext (hReads.missing _ hRefuses) hSent⟩
  · rcases ((facade_concludes someDashboard "ann"
        (refusing moved)).1 "ann").sent
        (by simp [someDashboard]) with
      ⟨q, -, hCalls, hSent, hReads⟩
    have hRefuses :=
      Dashboard.refuses_of_tells tells_moved
        (by simp [moved, refusal, Http.Succeeds])
    have hExpired :=
      hReads.reported _ _ _ hRefuses
        (by simp [moved, refusal])
        (by simp [moved, refusal]) rfl (by decide)
    exact ⟨q, hCalls, Prod.ext hExpired hSent⟩
  · exact
      ((facade_concludes
          { someDashboard with cookie := some "a\nb" } "ann"
          (refusing gone)).2.unsent (by decide)).1

end Backend
end WorkspaceClient
