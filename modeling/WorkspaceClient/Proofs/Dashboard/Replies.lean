import WorkspaceClient.Proofs.Dashboard
import WorkspaceClient.Proofs.Dashboard.Messages
import WorkspaceClient.Proofs.Failure
import WorkspaceClient.Proofs.Http.Status

/-
  This file tells replies apart, and shows how each of them
  is read: as what it delivers, as a refusal with its status
  and its message, or as a loss.

  Key definitions include:
    * `Http.Reply.Delivers`
    * `Http.Reply.Refuses`
    * `Http.Reply.Loses`
    * `Dashboard.IsLoss`

  Main declarations:
    * `Http.Reply.cases`
    * `Dashboard.mentions_unexpected_iff`
    * `Dashboard.isLoss_of_loses`
    * `Dashboard.readReply_delivers`
    * `Dashboard.readReply_refuses`
    * `Dashboard.exists_delivers_of_readReply`
-/

namespace WorkspaceClient

open Text (Mentions)

------------------------------------------------------------
-- Replies
------------------------------------------------------------

namespace Http

/- Whether a status code tells of success. -/
def Succeeds
    (status : Nat) : Prop :=
  200 ≤ status ∧ status < 300

theorem isSuccess_iff
    {status : Nat} :
    isSuccess status = true ↔ Succeeds status := by
  simp [isSuccess, Succeeds]

/- A body is complete if it was not cut. -/
theorem body?_eq_some_iff
    {r : Response}
    {body : Bytes} :
    r.body? = some body ↔ r.isCut = false ∧ r.body = body := by
  unfold Response.body?
  cases r.isCut <;> simp

/- A reply tells of success and has its complete body. -/
def Reply.Delivers
    (reply : Reply)
    (body : Bytes) : Prop :=
  ∃ r,
    reply = .answered r ∧ Succeeds r.status ∧
      r.isCut = false ∧ r.body = body

/-
  A reply has a status that does not tell of success, and
  the message that its body tells, if it tells any.
-/
def Reply.Refuses
    (reply : Reply)
    (status : Nat)
    (message : Option String) : Prop :=
  ∃ r,
    reply = .answered r ∧ r.status = status ∧
      ¬ Succeeds status ∧
      ∀ m, message = some m ↔ r.Tells m

/- There is no answer, or one of success that was cut. -/
def Reply.Loses : Reply → Prop
  | .refused => True
  | .closed => True
  | .answered r => Succeeds r.status ∧ r.isCut = true

/- Every reply delivers, refuses or loses. -/
theorem Reply.cases
    (reply : Reply) :
    (∃ body, reply.Delivers body) ∨
      (∃ status message, reply.Refuses status message) ∨
      reply.Loses := by
  cases reply with
  | refused => exact .inr (.inr trivial)
  | closed => exact .inr (.inr trivial)
  | answered r =>
      by_cases hStatus : Succeeds r.status
      · cases hCut : r.isCut with
        | false => exact .inl ⟨_, r, rfl, hStatus, hCut, rfl⟩
        | true => exact .inr (.inr ⟨hStatus, hCut⟩)
      · exact
          .inr
            (.inl
              ⟨_, _, r, rfl, rfl, hStatus, fun _ =>
                Dashboard.refusalDetail?_refusalText_iff⟩)

end Http

------------------------------------------------------------
-- Refusals
------------------------------------------------------------

namespace Dashboard

/- The text of a refusal that is not explained otherwise. -/
def unexpected
    (procedure : Procedure)
    (status : Nat)
    (message : Option String) : String :=
  procedure.path ++ ": " ++ "unexpected status "
    ++ Http.statusText status
    ++ (message.map (": " ++ ·)).getD ""

section

variable (procedure : Procedure)
variable {status : Nat}

theorem statusFailure_auth
    (body : String)
    (hStatus : status = 401 ∨ status = 403) :
    statusFailure procedure status body =
      .auth ((refusalDetail? body).getD
        (procedure.path ++ ": "
          ++ Http.statusText status)) := by
  rcases hStatus with rfl | rfl <;> rfl

theorem statusFailure_notFound
    {body message : String}
    (hMessage : refusalDetail? body = some message) :
    statusFailure procedure 404 body = .notFound message := by
  unfold statusFailure
  rw [hMessage]
  rfl

theorem statusFailure_unexpected
    {body : String}
    (hAuth : ¬ (status = 401 ∨ status = 403))
    (hMissing : status = 404 → refusalDetail? body = none) :
    statusFailure procedure status body =
      .transport
        (unexpected procedure status (refusalDetail? body)) := by
  unfold statusFailure
  dsimp only
  split
  · exact absurd (.inl rfl) hAuth
  · exact absurd (.inr rfl) hAuth
  · next message hMessage =>
      rw [hMissing rfl] at hMessage
      cases hMessage
  · next message _ _ _ hMessage =>
      rw [hMessage]
      simp [unexpected, String.append_assoc]
  · next hMessage =>
      rw [hMessage]
      simp [unexpected]

/- No procedure is named like a redirection. -/
theorem not_infix_path :
    ¬ Failure.redirectMarker.toList <:+:
      procedure.path.toList := by
  rw [← Text.occurs_iff]
  cases procedure <;> decide

/- The text of a refusal, cut at its first colon. -/
theorem toList_unexpected
    (status : Nat)
    (message : Option String) :
    (unexpected procedure status message).toList =
      procedure.path.toList
        ++ ':' :: (Http.statusContext
          ++ (Http.statusText status).toList
          ++ ((message.map (": " ++ ·)).getD "").toList) := by
  have hColon : ": ".toList = [':', ' '] := rfl
  have hContext :
      Http.statusContext =
        ' ' :: "unexpected status ".toList := rfl
  rw [hContext, unexpected]
  simp only [String.toList_append, hColon, List.append_assoc,
    List.cons_append, List.nil_append]

/-
  The text of a refusal has the mark of a redirection only
  from its status or from its message. The mark has no colon,
  so it stands on one side of each colon.
-/
theorem mentions_unexpected_iff
    {message : Option String} :
    Mentions (unexpected procedure status message)
        Failure.redirectMarker ↔
      status = 302 ∨
        ∃ text ∈ message,
          Mentions text Failure.redirectMarker := by
  have hColon : ':' ∉ Failure.redirectMarker.toList := by
    decide
  have hMark :
      Failure.redirectMarker.toList =
        '3' :: "02 Found".toList := rfl
  unfold Mentions
  rw [toList_unexpected, Text.infix_separated_iff hColon,
    or_iff_right (not_infix_path procedure)]
  cases message with
  | none =>
      have hNothing :
          ((none : Option String).map (": " ++ ·)).getD "" =
            "" := rfl
      rw [hNothing, String.toList_empty, List.append_nil,
        Http.infix_status_iff]
      simp
  | some text =>
      have hTail :
          (((some text).map (": " ++ ·)).getD "").toList =
            ':' :: ' ' :: text.toList := by
        exact String.toList_append
      have hSpace :
          ¬ Failure.redirectMarker.toList <+:
            ' ' :: text.toList := by
        rw [hMark, List.cons_prefix_cons]
        exact fun h => absurd h.1 (by decide)
      rw [hTail, Text.infix_separated_iff hColon,
        Http.infix_status_iff, List.infix_cons_iff,
        or_iff_right hSpace]
      simp

/- The text of a refusal shows the status. -/
theorem mentions_status_unexpected
    (status : Nat)
    (message : Option String) :
    Mentions (unexpected procedure status message)
      (Http.statusText status) :=
  Text.mentions_middle _ _ _

/- The text of a refusal shows its message. -/
theorem mentions_message_unexpected
    (status : Nat)
    (message : String) :
    Mentions (unexpected procedure status (some message))
      message := by
  change Mentions (_ ++ (": " ++ message)) message
  rw [← String.append_assoc]
  exact Text.mentions_behind _ _ _

------------------------------------------------------------
-- Losses
------------------------------------------------------------

/- A failed connection, not told like a redirection. -/
def IsLoss
    (failure : Failure) : Prop :=
  ∃ text,
    failure = .transport text ∧
      ¬ Mentions text Failure.redirectMarker

theorem isLoss_ofChain
    {outermost : String}
    {causes : List String}
    (hChain :
      ¬ Mentions (Failure.chainText outermost causes)
        Failure.redirectMarker) :
    IsLoss (.ofChain procedure.path outermost causes) := by
  refine ⟨_, rfl, ?_⟩
  rw [Text.mentions_colon_iff (by decide) (by decide)]
  exact not_or.mpr ⟨not_infix_path procedure, hChain⟩

theorem isLoss_unformed :
    IsLoss (Trust.unformed procedure.path) :=
  isLoss_ofChain procedure (by decide)

theorem isLoss_unfinished :
    IsLoss (Trust.unfinished procedure.path) :=
  isLoss_ofChain procedure (by decide)

/- A reply that is lost is read as a loss. -/
theorem isLoss_of_loses
    {α : Type}
    {reply : Http.Reply}
    (d : Json.Decoder α)
    (hLoses : reply.Loses) :
    ∃ failure,
      readReply procedure d reply = .error failure ∧
        IsLoss failure := by
  cases reply with
  | refused =>
      exact ⟨_, rfl, isLoss_ofChain procedure (by decide)⟩
  | closed =>
      exact ⟨_, rfl, isLoss_ofChain procedure (by decide)⟩
  | answered r =>
      refine ⟨_, ?_, isLoss_unfinished procedure⟩
      have hStatus := Http.isSuccess_iff.mpr hLoses.1
      change readResponse procedure d r = _
      rw [readResponse, hStatus, Http.Response.body?,
        hLoses.2]
      rfl

------------------------------------------------------------
-- Answers
------------------------------------------------------------

theorem readReply_delivers
    {α : Type}
    {reply : Http.Reply}
    {body : Bytes}
    (d : Json.Decoder α)
    (hDelivers : reply.Delivers body) :
    ∃ cookies,
      readReply procedure d reply =
        match d.ofBytes body with
        | .ok a => .ok (a, cookies)
        | .error fault =>
            .error (.protocol
              (procedure.path ++ ": " ++ fault.message)) := by
  rcases hDelivers with ⟨r, rfl, hStatus, hWhole, rfl⟩
  refine ⟨readableCookies r, ?_⟩
  change readResponse procedure d r = _
  rw [readResponse, Http.isSuccess_iff.mpr hStatus,
    Http.Response.body?, hWhole]
  rfl

theorem readReply_refuses
    {α : Type}
    {reply : Http.Reply}
    {status : Nat}
    {message : Option String}
    (d : Json.Decoder α)
    (hRefuses : reply.Refuses status message) :
    ∃ body,
      refusalDetail? body = message ∧
        readReply procedure d reply =
          .error (statusFailure procedure status body) := by
  rcases hRefuses with ⟨r, rfl, rfl, hStatus, hMessage⟩
  refine ⟨refusalText r, ?_, ?_⟩
  · apply Option.ext
    intro m
    rw [refusalDetail?_refusalText_iff]
    exact (hMessage m).symm
  have hFailed : Http.isSuccess r.status = false := by
    rw [← Bool.not_eq_true, Http.isSuccess_iff]
    exact hStatus
  change readResponse procedure d r = _
  rw [readResponse, hFailed]
  rfl

/- The body of a refusal that was cut has no message. -/
theorem refuses_of_isCut
    {r : Http.Response}
    (hCut : r.isCut = true)
    (hStatus : ¬ Http.Succeeds r.status) :
    (Http.Reply.answered r).Refuses r.status none := by
  refine ⟨r, rfl, rfl, hStatus, fun m => ?_⟩
  unfold Http.Response.Tells
  simp [hCut]

/- The body of a refusal tells one message at most. -/
theorem refuses_of_tells
    {r : Http.Response}
    {message : String}
    (hTells : r.Tells message)
    (hStatus : ¬ Http.Succeeds r.status) :
    (Http.Reply.answered r).Refuses r.status
      (some message) := by
  rw [← refusalDetail?_refusalText_iff] at hTells
  refine ⟨r, rfl, rfl, hStatus, fun m => ?_⟩
  rw [← refusalDetail?_refusalText_iff, hTells]

/- Only what was delivered is read successfully. -/
theorem exists_delivers_of_readReply
    {α : Type}
    {d : Json.Decoder α}
    {reply : Http.Reply}
    {a : α × List String}
    (h : readReply procedure d reply = .ok a) :
    ∃ body,
      reply.Delivers body ∧ d.ofBytes body = .ok a.1 := by
  rcases reply.cases with
    ⟨body, hDelivers⟩ | ⟨status, message, hRefuses⟩ | hLoses
  · rcases readReply_delivers procedure d hDelivers with
      ⟨cookies, hRead⟩
    rw [hRead] at h
    refine ⟨body, hDelivers, ?_⟩
    cases hBody : d.ofBytes body with
    | ok value =>
        rw [hBody] at h
        cases h
        rfl
    | error fault =>
        rw [hBody] at h
        cases h
  · rcases readReply_refuses procedure d hRefuses with
      ⟨body, _, hRead⟩
    rw [hRead] at h
    cases h
  · rcases isLoss_of_loses procedure d hLoses with
      ⟨failure, hRead, _⟩
    rw [hRead] at h
    cases h

end

end Dashboard
end WorkspaceClient
