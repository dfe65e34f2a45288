import WorkspaceClient.Proofs.Dashboard.Replies

/-
  This file shows what fetching the authority of the
  Dashboard does: it sends one request, and it succeeds only
  with the complete body that was delivered, which has
  certificates.

  Main declarations:
    * `Trust.exists_fetchCa`
    * `Trust.fetchCa_eq`
    * `Trust.fetchCa_unformed`
-/

namespace WorkspaceClient
namespace Trust

/- The authority was delivered, and it can be read. -/
structure Fetched
    (reply : Http.Reply)
    (ca : Bytes) : Prop where
  delivered : reply.Delivers ca
  readable : ∃ ders, certificates ca = .ok ders

/- An answer is only given with the reply. -/
theorem answered_of_response
    {context : String}
    {reply : Http.Reply}
    {r : Http.Response}
    (h : response context reply = .ok r) :
    reply = .answered r := by
  cases reply with
  | refused => cases h
  | closed => cases h
  | answered r =>
      cases h
      rfl

theorem fetchCa_unformed
    {url : String}
    {fault : Url.Fault}
    (hUrl : Url.parse url = .error fault)
    (n : Network) :
    fetchCa url n = (.error (unformed fetchContext), n) := by
  unfold fetchCa
  rw [hUrl]
  rfl

/- One request is sent for the authority. -/
theorem exists_fetchCa
    {url : String}
    {u : Url}
    (hUrl : Url.parse url = .ok u)
    (n : Network) :
    ∃ answer,
      fetchCa url n = (answer, n.after (fetchRequest u)) ∧
        ∀ ca,
          answer = .ok ca →
            Fetched (n.answer n.sent (fetchRequest u)) ca := by
  unfold fetchCa
  rw [hUrl]
  simp only
  rw [Task.bind_ok (n.send_eq (fetchRequest u))]
  cases hReply :
      response fetchContext (n.answer n.sent (fetchRequest u))
  with
  | error failure => exact ⟨.error failure, rfl, nofun⟩
  | ok r =>
      rw [Task.bind_ok (Task.ofExcept_eq _ _)]
      by_cases hStatus : Http.isSuccess r.status = true
      · rw [hStatus, if_neg (by simp)]
        cases hBody : r.body? with
        | none => exact ⟨_, rfl, nofun⟩
        | some body =>
            simp only
            cases hRead : certificates body with
            | error failure =>
                exact ⟨.error failure, rfl, nofun⟩
            | ok ders =>
                refine ⟨.ok body, rfl, ?_⟩
                rintro ca ⟨⟩
                have hComplete :=
                  Http.body?_eq_some_iff.mp hBody
                have hAnswer := answered_of_response hReply
                exact
                  { delivered :=
                      ⟨r, hAnswer,
                        Http.isSuccess_iff.mp hStatus,
                        hComplete.1, hComplete.2⟩
                    readable := ⟨ders, hRead⟩ }
      · rw [if_pos (by simpa using hStatus)]
        exact ⟨_, rfl, nofun⟩

/- An authority that is delivered is fetched. -/
theorem fetchCa_eq
    {url : String}
    {u : Url}
    {ca : Bytes}
    {n : Network}
    (hUrl : Url.parse url = .ok u)
    (hFetched :
      Fetched (n.answer n.sent (fetchRequest u)) ca) :
    fetchCa url n = (.ok ca, n.after (fetchRequest u)) := by
  rcases hFetched.delivered with
    ⟨r, hAnswer, hStatus, hWhole, hBody⟩
  rcases hFetched.readable with ⟨ders, hRead⟩
  have hSend := n.send_eq (fetchRequest u)
  rw [hAnswer] at hSend
  have hComplete : r.body? = some ca :=
    Http.body?_eq_some_iff.mpr ⟨hWhole, hBody⟩
  unfold fetchCa
  rw [hUrl]
  simp only
  rw [Task.bind_ok hSend, response,
    Task.bind_ok (Task.ofExcept_eq _ _),
    Http.isSuccess_iff.mpr hStatus, if_neg (by simp), hComplete]
  simp only
  rw [hRead]
  rfl

end Trust
end WorkspaceClient
