import WorkspaceClient.Proofs.Dashboard.Requests
import WorkspaceClient.Proofs.Late
import WorkspaceClient.Proofs.Trust

/-
  This file shows how a fetch and a call of the Dashboard
  can end, whatever is answered: which request was sent, and
  what the reply to it was if it has succeeded.

  Key definitions include:
    * `Dashboard.Admits`

  Main declarations:
    * `Trust.ends_fetchCa`
    * `Dashboard.Client.ends_call`
    * `Dashboard.Client.ends_passwordToken`
    * `Dashboard.Client.ends_identityToken`
-/

namespace WorkspaceClient

open Failure (IsLate)

------------------------------------------------------------
-- Authorities
------------------------------------------------------------

/- A fetch that fails has sent requests and fails late. -/
theorem Trust.ends_fetchCa
    (url : String)
    (n : Network) :
    (fetchCa url).Ends n
      (fun ca n' =>
        ∃ u,
          Url.parse url = .ok u ∧
            Fetched (n.answer n.sent (fetchRequest u)) ca ∧
            n' = n.afterAll [fetchRequest u])
      fun failure n' =>
        failure.IsLate ∧
          ∃ requests, n' = n.afterAll requests := by
  apply (late_fetchCa url).ends
  cases hUrl : Url.parse url with
  | error fault =>
      exact
        Task.ends_of_eq_error (fetchCa_unformed hUrl n)
          ⟨[], n.afterAll_nil.symm⟩
  | ok u =>
      rcases exists_fetchCa hUrl n with
        ⟨failure | ca, hFetch, hFetched⟩
      · exact
          Task.ends_of_eq_error hFetch ⟨[fetchRequest u], rfl⟩
      · exact
          Task.ends_of_eq_ok hFetch
            ⟨u, rfl, hFetched ca rfl, rfl⟩

------------------------------------------------------------
-- Calls
------------------------------------------------------------

namespace Dashboard

/-
  A reply admits a user: it delivers an answer, and it sets
  the cookie of a session.
-/
structure Admits
    {α : Type}
    (d : Json.Decoder α)
    (reply : Http.Reply)
    (answer : α)
    (cookie : String) : Prop where
  answer :
    ∃ body, reply.Delivers body ∧ d.ofBytes body = .ok answer
  cookie :
    ∃ response,
      reply = .answered response ∧
        Credential.sessionCookie (readableCookies response) =
          some cookie

theorem admits_of_readReply
    {α : Type}
    {procedure : Procedure}
    {d : Json.Decoder α}
    {reply : Http.Reply}
    {answer : α}
    {cookies : List String}
    {user : String}
    {gained : LoginReply}
    (hRead : readReply procedure d reply = .ok (answer, cookies))
    (hGained :
      LoginReply.ofCookies procedure cookies user =
        .ok gained) :
    Admits d reply answer gained.cookie where
  answer := exists_delivers_of_readReply procedure hRead
  cookie := by
    rcases Client.ok_of_readReply hRead with
      ⟨response, hAnswered, rfl⟩
    exact
      ⟨response, hAnswered,
        Client.cookie_of_ofCookies hGained⟩

theorem user_of_ofCookies
    {procedure : Procedure}
    {cookies : List String}
    {user : String}
    {gained : LoginReply}
    (h :
      LoginReply.ofCookies procedure cookies user =
        .ok gained) :
    gained.user = user := by
  unfold LoginReply.ofCookies at h
  split at h
  · cases h
    rfl
  · cases h

namespace Client

section

variable (client : Client)

/- A call that succeeds has read the reply to its request. -/
theorem ends_call
    {α : Type}
    (procedure : Procedure)
    (document : Json)
    (d : Json.Decoder α)
    (n : Network) :
    (client.call procedure document d).Ends n
      (fun a n' =>
        ∃ q,
          client.request? procedure document = some q ∧
            readReply procedure d (n.answer n.sent q) =
              .ok a ∧
            n' = n.afterAll [q])
      fun failure n' =>
        failure.IsLate ∧
          ∃ requests, n' = n.afterAll requests := by
  apply (client.late_call procedure document d).ends
  cases hRequest : client.request? procedure document with
  | none =>
      exact
        Task.ends_of_eq_error (call_unformed hRequest d n)
          ⟨[], n.afterAll_nil.symm⟩
  | some q =>
      have hCall := call_eq hRequest d n
      cases hRead : readReply procedure d (n.answer n.sent q)
      with
      | error failure =>
          rw [hRead] at hCall
          exact Task.ends_of_eq_error hCall ⟨[q], rfl⟩
      | ok a =>
          rw [hRead] at hCall
          exact Task.ends_of_eq_ok hCall ⟨q, rfl, hRead, rfl⟩

/- A login that succeeds was admitted by a reply. -/
theorem ends_login
    (user password : String)
    (n : Network) :
    (client.login user password).Ends n
      (fun gained n' =>
        ∃ q answer,
          Calls client .login
              (.ofMembers
                [("userName", .ofText user),
                  ("password", .ofText password)])
              q ∧
            Admits loginShape.decode (n.answer n.sent q) answer
              gained.cookie ∧
            n' = n.afterAll [q])
      fun failure n' =>
        failure.IsLate ∧
          ∃ requests, n' = n.afterAll requests := by
  apply (client.late_login user password).ends
  apply Task.Ends.bind
    (client.ends_call .login
      (.ofMembers
        [("userName", .ofText user),
          ("password", .ofText password)])
      loginShape.decode n)
  · rintro ⟨answer, cookies⟩ n' ⟨q, hRequest, hRead, rfl⟩
    apply Task.ends_ofExcept
    · intro gained hGained
      exact
        ⟨q, answer, calls_of_request? hRequest,
          admits_of_readReply hRead hGained, rfl⟩
    · exact fun _ _ => ⟨[q], rfl⟩
  · exact fun _ _ h => h.2

/-
  A login with a password gives a token only if it was
  admitted by a reply. Nothing is sent if it fails early.
-/
theorem ends_passwordToken
    (user password : String)
    (n : Network) :
    (client.passwordToken user password).Ends n
      (fun token n' =>
        ∃ document q answer cookie,
          Calls client .login document q ∧
            user ≠ "" ∧
            Admits loginShape.decode (n.answer n.sent q) answer
              cookie ∧
            token = Credential.encodeToken cookie ∧
            n' = n.afterAll [q])
      fun failure n' =>
        ∃ requests,
          n' = n.afterAll requests ∧
            (failure.IsLate ∨ requests = []) := by
  unfold passwordToken
  split
  · exact Task.ends_fail ⟨[], n.afterAll_nil.symm, .inr rfl⟩
  · next hUser =>
      split
      · exact Task.ends_fail ⟨[], n.afterAll_nil.symm, .inr rfl⟩
      · apply Task.Ends.bind
          (client.ends_login user password n)
        · rintro gained n' ⟨q, answer, hCalls, hAdmits, rfl⟩
          exact
            Task.ends_pure
              ⟨_, q, answer, gained.cookie, hCalls,
                by simpa using hUser, hAdmits, rfl, rfl⟩
        · rintro failure n' ⟨hLate, requests, rfl⟩
          exact ⟨requests, rfl, .inl hLate⟩

/- An identity login that succeeds was admitted by a reply. -/
theorem ends_identityLogin
    (identity : String)
    (n : Network) :
    (client.identityLogin identity).Ends n
      (fun gained n' =>
        ∃ q,
          Calls client .serviceAccountLogin
              (.ofMembers [("token", .ofText identity)]) q ∧
            gained.user ≠ "" ∧
            Admits identityShape.decode (n.answer n.sent q)
              gained.user gained.cookie ∧
            n' = n.afterAll [q])
      fun failure n' =>
        failure.IsLate ∧
          ∃ requests, n' = n.afterAll requests := by
  apply (client.late_identityLogin identity).ends
  apply Task.Ends.bind
    (client.ends_call .serviceAccountLogin
      (.ofMembers [("token", .ofText identity)])
      identityShape.decode n)
  · rintro ⟨user, cookies⟩ n' ⟨q, hRequest, hRead, rfl⟩
    simp only
    split
    · exact Task.ends_fail ⟨[q], rfl⟩
    · next hUser =>
        apply Task.ends_ofExcept
        · intro gained hGained
          have hSame := user_of_ofCookies hGained
          refine ⟨q, calls_of_request? hRequest, ?_, ?_, rfl⟩
          · rw [hSame]
            simpa using hUser
          · rw [hSame]
            exact admits_of_readReply hRead hGained
        · exact fun _ _ => ⟨[q], rfl⟩
  · exact fun _ _ h => h.2

/- So is a login with the identity token of a file. -/
theorem ends_identityToken
    (fs : Files)
    (path : String)
    (n : Network) :
    (client.identityToken fs path).Ends n
      (fun gained n' =>
        ∃ identity q cookie,
          Credential.readIdentity fs path = .ok identity ∧
            Calls client .serviceAccountLogin
              (.ofMembers [("token", .ofText identity)]) q ∧
            gained.1 = Credential.encodeToken cookie ∧
            gained.2 ≠ "" ∧
            Admits identityShape.decode (n.answer n.sent q)
              gained.2 cookie ∧
            n' = n.afterAll [q])
      fun failure n' =>
        failure.IsLate ∧
          ∃ requests, n' = n.afterAll requests := by
  apply (client.late_identityToken fs path).ends
  apply Task.ends_ofExcept_bind
  · intro identity hIdentity
    apply Task.Ends.bind (client.ends_identityLogin identity n)
    · rintro gained n' ⟨q, hCalls, hUser, hAdmits, rfl⟩
      exact
        Task.ends_pure
          ⟨identity, q, gained.cookie, hIdentity, hCalls, rfl,
            hUser, hAdmits, rfl⟩
    · exact fun _ _ h => h.2
  · exact fun _ _ => ⟨[], n.afterAll_nil.symm⟩

end

end Client
end Dashboard

end WorkspaceClient
