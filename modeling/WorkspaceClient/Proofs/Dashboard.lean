import WorkspaceClient.Dashboard.Calls
import WorkspaceClient.Proofs.Credential
import WorkspaceClient.Proofs.World

/-
  This file shows what a call of the Dashboard sends, and
  what is known when it succeeds: one request was sent, with
  the authorities, the base URL and the cookie of the
  client, and it was answered.

  Key definitions include:
    * `Dashboard.Opens`
    * `Dashboard.CanCarry`
    * `Dashboard.Calls`

  Main declarations:
    * `Dashboard.Client.ok_of_create`
    * `Dashboard.Client.exists_request?`
    * `Dashboard.Client.call_eq`
    * `Dashboard.Client.call_sends`
    * `Dashboard.Client.ok_of_call`
    * `Dashboard.Client.ok_of_passwordToken`
    * `Dashboard.canCarry_of_setsAll`
-/

namespace WorkspaceClient
namespace Dashboard

------------------------------------------------------------
-- Clients
------------------------------------------------------------

/- A client that is created has no session. -/
theorem Client.ok_of_create
    {roots : Http.Roots}
    {text : String}
    {client : Client}
    (h : create roots text = .ok client) :
    ∃ base,
      parseBase text = .ok base ∧
        client = { roots, base, cookie := none } := by
  unfold create at h
  rcases Result.ok_of_bind h with ⟨_, _, h⟩
  rcases Result.ok_of_bind h with ⟨base, hBase, h⟩
  cases h
  exact ⟨base, hBase, rfl⟩

/- The base URL of a text is that of the URL it writes. -/
theorem Client.ok_of_parseBase
    {text : String}
    {base : Url}
    (h : parseBase text = .ok base) :
    ∃ u, Url.parse text = .ok u ∧ base = u.asBase := by
  unfold parseBase at h
  split at h
  · next u hParse =>
      cases h
      exact ⟨u, hParse, rfl⟩
  · cases h

/- No client trusts an empty bundle of authorities. -/
theorem Client.create_extra_nil
    (text : String)
    (client : Client) :
    create (.extra []) text ≠ .ok client := by
  rintro ⟨⟩

/- A client for a URL that has the session of a token. -/
def Opens
    (roots : Http.Roots)
    (url token : String)
    (client : Client) : Prop :=
  ∃ plain,
    Client.create roots url = .ok plain ∧
      plain.withToken token = .ok client

theorem Opens.unique
    {roots : Http.Roots}
    {url token : String}
    {client other : Client}
    (h : Opens roots url token client)
    (hOther : Opens roots url token other) :
    client = other := by
  rcases h with ⟨plain, hCreate, hToken⟩
  rcases hOther with ⟨plain', hCreate', hToken'⟩
  rw [hCreate] at hCreate'
  cases hCreate'
  rw [hToken] at hToken'
  cases hToken'
  rfl

/- Such a client is made of the authorities, URL and token. -/
theorem Opens.exists_eq
    {roots : Http.Roots}
    {url token : String}
    {client : Client}
    (h : Opens roots url token client) :
    ∃ base cookie,
      Client.parseBase url = .ok base ∧
        Credential.replay token = .ok cookie ∧
        client = { roots, base, cookie := some cookie } := by
  rcases h with ⟨plain, hCreate, hToken⟩
  rcases Client.ok_of_create hCreate with ⟨base, hBase, rfl⟩
  rcases Result.ok_of_bind hToken with
    ⟨cookie, hReplay, hClient⟩
  cases hClient
  exact ⟨base, cookie, hBase, hReplay, rfl⟩

/- Such a client trusts the authorities, and has a cookie. -/
theorem Opens.credentials
    {roots : Http.Roots}
    {url token : String}
    {client : Client}
    (h : Opens roots url token client) :
    client.roots = roots ∧
      ∃ cookie,
        Credential.replay token = .ok cookie ∧
          client.cookie = some cookie := by
  rcases h.exists_eq with ⟨base, cookie, _, hReplay, rfl⟩
  exact ⟨rfl, cookie, hReplay, rfl⟩

------------------------------------------------------------
-- Requests
------------------------------------------------------------

/- A cookie header can carry a text. -/
def CanCarry
    (cookie : String) : Prop :=
  ∀ b ∈ Bytes.ofText cookie, isHeaderByte b = true

instance : DecidablePred CanCarry := fun cookie =>
  decidable_of_iff
    ((Bytes.ofText cookie).all isHeaderByte = true)
    List.all_eq_true

/-
  A request calls a procedure for a client. It goes to the
  server and below the base URL of the client, and no other
  cookie is sent.
-/
structure Calls
    (client : Client)
    (procedure : Procedure)
    (document : Json)
    (q : Http.Request) : Prop where
  roots : q.roots = client.roots
  method : q.method = "POST"
  origin : q.origin = Trust.originOf client.base
  target : q.target = (client.procedureUrl procedure).target
  cookie :
    (q.headers.filter fun h => h.1 == "cookie") =
      client.cookie.toList.map fun cookie =>
        ("cookie", Bytes.ofText cookie)
  body : q.body = document.compact

theorem cookieHeader?_eq
    {cookie : Option String}
    {headers : List (String × Bytes)}
    (h : cookieHeader? cookie = some headers) :
    headers =
      cookie.toList.map fun cookie =>
        ("cookie", Bytes.ofText cookie) := by
  cases cookie with
  | none =>
      cases h
      rfl
  | some cookie =>
      rw [cookieHeader?] at h
      split at h
      · cases h
        rfl
      · cases h

theorem exists_cookieHeader?
    {cookie : Option String}
    (h : ∀ s ∈ cookie, CanCarry s) :
    ∃ headers, cookieHeader? cookie = some headers := by
  cases cookie with
  | none => exact ⟨[], rfl⟩
  | some cookie =>
      rw [cookieHeader?]
      have hAll :
          (Bytes.ofText cookie).all isHeaderByte = true :=
        List.all_eq_true.mpr (h cookie rfl)
      exact ⟨_, if_pos hAll⟩

/- The user of a URL is not sent as a cookie. -/
theorem filter_userHeaders
    (u : Url) :
    ((Trust.userHeaders u).filter fun h => h.1 == "cookie") =
      [] := by
  unfold Trust.userHeaders
  split <;> rfl

namespace Client

theorem calls_of_request?
    {client : Client}
    {procedure : Procedure}
    {document : Json}
    {q : Http.Request}
    (h : client.request? procedure document = some q) :
    Calls client procedure document q := by
  unfold request? at h
  rcases hCookie : cookieHeader? client.cookie with _ | headers
  · rw [hCookie] at h
    cases h
  · rw [hCookie] at h
    cases h
    refine ⟨rfl, rfl, rfl, rfl, ?_, rfl⟩
    simp only [List.filter_append, filter_userHeaders]
    rw [cookieHeader?_eq hCookie]
    cases client.cookie <;> rfl

/- A request can be formed if its cookie can be carried. -/
theorem exists_request?
    {client : Client}
    (procedure : Procedure)
    (document : Json)
    (h : ∀ s ∈ client.cookie, CanCarry s) :
    ∃ q, client.request? procedure document = some q := by
  rcases exists_cookieHeader? h with ⟨headers, hCookie⟩
  unfold request?
  rw [hCookie]
  exact ⟨_, rfl⟩

/- No request can be formed if its cookie cannot be carried. -/
theorem request?_eq_none
    {client : Client}
    {procedure : Procedure}
    {document : Json}
    (h : ¬ ∀ s ∈ client.cookie, CanCarry s) :
    client.request? procedure document = none := by
  unfold request?
  cases hCookie : client.cookie with
  | none =>
      rw [hCookie] at h
      exact absurd (fun _ hMem => by cases hMem) h
  | some cookie =>
      have hBytes :
          ¬ (Bytes.ofText cookie).all isHeaderByte = true := by
        rw [hCookie] at h
        intro hAll
        apply h
        intro s hs
        cases hs
        exact List.all_eq_true.mp hAll
      rw [cookieHeader?, if_neg hBytes]
      rfl

------------------------------------------------------------
-- Calls
------------------------------------------------------------

variable {α : Type}
variable {client : Client}
variable {procedure : Procedure}
variable {document : Json}
variable {d : Json.Decoder α}

/- A call whose request is formed sends this request. -/
theorem call_eq
    {q : Http.Request}
    (hRequest : client.request? procedure document = some q)
    (d : Json.Decoder α)
    (n : Network) :
    client.call procedure document d n =
      (readReply procedure d (n.answer n.sent q),
        n.after q) := by
  unfold call
  rw [hRequest]
  simp only
  rw [Task.bind_ok (n.send_eq q)]
  cases readReply procedure d (n.answer n.sent q) <;> rfl

/- A call sends its request, whatever the answer is. -/
theorem call_state
    {q : Http.Request}
    (hRequest : client.request? procedure document = some q)
    (d : Json.Decoder α)
    (n : Network) :
    (client.call procedure document d n).2 = n.after q := by
  rw [call_eq hRequest]

/- A list call does to the network what its call does. -/
theorem workspaces_state
    (client : Client)
    (user : String)
    (n : Network) :
    (client.workspaces user n).2 =
      (client.call .getWorkspaces
        (.ofMembers [("userName", .ofText user)])
        (itemsShape Workspace.shape).decode n).2 := by
  unfold workspaces
  exact Task.bind_state (fun _ _ => rfl) n

theorem users_state
    (client : Client)
    (n : Network) :
    (client.users n).2 =
      (client.call .getUsers emptyDocument
        (itemsShape User.shape).decode n).2 := by
  unfold users
  exact Task.bind_state (fun _ _ => rfl) n

theorem identityLogin_state
    {identity : String}
    {q : Http.Request}
    (hRequest :
      client.request? .serviceAccountLogin
          (.ofMembers [("token", .ofText identity)]) =
        some q)
    (n : Network) :
    (client.identityLogin identity n).2 = n.after q := by
  unfold identityLogin
  rw [Task.bind_state]
  · exact call_state hRequest _ n
  · intro answer s
    simp only
    split
    · rfl
    · rw [Task.ofExcept_eq]

theorem identityToken_state
    {fs : Files}
    {path identity : String}
    {q : Http.Request}
    (hIdentity : Credential.readIdentity fs path = .ok identity)
    (hRequest :
      client.request? .serviceAccountLogin
          (.ofMembers [("token", .ofText identity)]) =
        some q)
    (n : Network) :
    (client.identityToken fs path n).2 = n.after q := by
  unfold identityToken
  rw [hIdentity, Task.bind_ok (Task.ofExcept_eq _ n),
    Task.bind_state fun _ _ => rfl]
  exact identityLogin_state hRequest n

/- A check sends its request and reads the reply. -/
theorem verify_eq
    {q : Http.Request}
    (hRequest : client.request? .verify emptyDocument = some q)
    (n : Network) :
    client.verify n =
      ((readReply .verify verifyShape.decode
          (n.answer n.sent q)).map Prod.fst,
        n.after q) := by
  have hCall := call_eq hRequest verifyShape.decode n
  unfold verify
  cases hRead :
      readReply .verify verifyShape.decode (n.answer n.sent q)
  with
  | ok answer =>
      rw [hRead] at hCall
      rw [Task.bind_ok hCall]
      rfl
  | error failure =>
      rw [hRead] at hCall
      rw [Task.bind_error hCall]
      rfl

theorem call_unformed
    (hRequest : client.request? procedure document = none)
    (d : Json.Decoder α)
    (n : Network) :
    client.call procedure document d n =
      (.error (Trust.unformed procedure.path), n) := by
  unfold call
  rw [hRequest]
  rfl

/- A call sends its request, or nothing at all. -/
theorem call_sends
    (client : Client)
    (procedure : Procedure)
    (document : Json)
    (d : Json.Decoder α)
    (n : Network) :
    (client.call procedure document d n).2 = n ∨
      ∃ q,
        Calls client procedure document q ∧
          (client.call procedure document d n).2 =
            n.after q := by
  cases hRequest : client.request? procedure document with
  | none =>
      rw [call_unformed hRequest]
      exact .inl rfl
  | some q =>
      exact
        .inr ⟨q, calls_of_request? hRequest,
          call_state hRequest d n⟩

/- The cookies of a call are those of its answer. -/
theorem ok_of_readReply
    {reply : Http.Reply}
    {a : α}
    {cookies : List String}
    (h : readReply procedure d reply = .ok (a, cookies)) :
    ∃ response,
      reply = .answered response ∧
        cookies = readableCookies response := by
  cases reply with
  | refused => cases h
  | closed => cases h
  | answered response =>
      change readResponse procedure d response = _ at h
      refine ⟨response, rfl, ?_⟩
      unfold readResponse at h
      split at h
      · cases h
      · split at h
        · cases h
        · split at h
          · cases h
            rfl
          · cases h

/- A call that succeeds has sent a request and got an answer. -/
theorem ok_of_call
    {a : α}
    {cookies : List String}
    {n n' : Network}
    (h :
      client.call procedure document d n =
        (.ok (a, cookies), n')) :
    ∃ q response,
      Calls client procedure document q ∧
        n' = n.after q ∧
        n.answer n.sent q = .answered response ∧
        cookies = readableCookies response := by
  rcases hRequest : client.request? procedure document with
    _ | q
  · rw [call_unformed hRequest] at h
    cases h
  · rw [call_eq hRequest, Prod.mk.injEq] at h
    rcases ok_of_readReply h.1 with
      ⟨response, hAnswer, hCookies⟩
    exact
      ⟨q, response, calls_of_request? hRequest, h.2.symm,
        hAnswer, hCookies⟩

------------------------------------------------------------
-- Passwords
------------------------------------------------------------

theorem cookie_of_ofCookies
    {cookies : List String}
    {user : String}
    {reply : LoginReply}
    (h :
      LoginReply.ofCookies procedure cookies user =
        .ok reply) :
    Credential.sessionCookie cookies = some reply.cookie := by
  unfold LoginReply.ofCookies at h
  split at h
  · next hCookie =>
      cases h
      exact hCookie
  · cases h

/-
  A login that succeeds has sent one request, and its cookie
  has the pairs that the answer sets.
-/
theorem ok_of_login
    {user password : String}
    {reply : LoginReply}
    {n n' : Network}
    (h : client.login user password n = (.ok reply, n')) :
    ∃ document q response pairs,
      Calls client .login document q ∧
        n' = n.after q ∧
        n.answer n.sent q = .answered response ∧
        Credential.SetsAll (readableCookies response) pairs ∧
        pairs ≠ [] ∧
        reply.cookie = Text.join "; " pairs := by
  rcases Task.ok_of_bind h with
    ⟨⟨answer, cookies⟩, n₁, hCall, hReply⟩
  change
    Task.ofExcept
        (LoginReply.ofCookies .login cookies _) n₁ =
      _ at hReply
  rw [Task.ofExcept_eq, Prod.mk.injEq] at hReply
  rcases hReply with ⟨hReply, rfl⟩
  rcases ok_of_call hCall with
    ⟨q, response, hCalls, hSent, hAnswer, rfl⟩
  rcases Credential.sessionCookie_eq_some_iff.mp
      (cookie_of_ofCookies hReply) with
    ⟨pairs, hAll, hSome, hCookie⟩
  exact
    ⟨_, q, response, pairs, hCalls, hSent, hAnswer, hAll,
      hSome, hCookie⟩

/- A login with a password gives the token of its cookie. -/
theorem ok_of_passwordToken
    {user password token : String}
    {n n' : Network}
    (h :
      client.passwordToken user password n =
        (.ok token, n')) :
    user ≠ "" ∧
      ∃ document q response pairs,
        Calls client .login document q ∧
          n' = n.after q ∧
          n.answer n.sent q = .answered response ∧
          Credential.SetsAll (readableCookies response) pairs ∧
          pairs ≠ [] ∧
          token =
            Credential.encodeToken (Text.join "; " pairs) := by
  unfold passwordToken at h
  split at h
  · cases h
  · next hUser =>
      split at h
      · cases h
      · rcases Task.ok_of_bind h with ⟨reply, n₁, hLogin, h⟩
        cases h
        rcases ok_of_login hLogin with
          ⟨document, q, response, pairs, hCalls, hSent, hAnswer,
            hAll, hSome, hCookie⟩
        exact
          ⟨by simpa using hUser, document, q, response, pairs,
            hCalls, hSent, hAnswer, hAll, hSome, by rw [hCookie]⟩

end Client

------------------------------------------------------------
-- Cookies
------------------------------------------------------------

/- The bytes of a text are those of its characters. -/
theorem mem_ofText
    {s : String}
    {b : UInt8} :
    b ∈ Bytes.ofText s ↔
      ∃ c ∈ s.toList, b ∈ String.utf8EncodeChar c := by
  rw [Bytes.ofText_eq]
  exact List.mem_flatMap

/- A readable header can be sent again. -/
theorem canCarry_of_readable
    {r : Http.Response}
    {header : String}
    (h : header ∈ readableCookies r) :
    CanCarry header := by
  rcases List.mem_filterMap.mp h with ⟨value, hValue, hText⟩
  have hPlain := (List.mem_filter.mp hValue).2
  intro b hb
  rw [Bytes.ofText_of_toText? hText] at hb
  have hByte := List.all_eq_true.mp hPlain b hb
  unfold isTextByte at hByte
  unfold isHeaderByte
  simp only [Bool.or_eq_true, Bool.and_eq_true,
    decide_eq_true_eq, beq_iff_eq, bne_iff_ne] at hByte ⊢
  rcases hByte with ⟨hLow, hHigh⟩ | hTab
  · exact .inl ⟨hLow, UInt8.ne_of_lt hHigh⟩
  · exact .inr hTab

/- The cookie that an answer sets can be sent again. -/
theorem canCarry_of_setsAll
    {r : Http.Response}
    {pairs : List String}
    (h : Credential.SetsAll (readableCookies r) pairs) :
    CanCarry (Text.join "; " pairs) := by
  intro b hb
  rcases mem_ofText.mp hb with ⟨c, hc, hByte⟩
  rcases h.mem_cookie hc with
    hSeparator | ⟨header, hHeader, hInside⟩
  · have hPlain : CanCarry "; " := by decide
    exact hPlain b (mem_ofText.mpr ⟨c, hSeparator, hByte⟩)
  · exact
      canCarry_of_readable hHeader b
        (mem_ofText.mpr ⟨c, hInside, hByte⟩)

end Dashboard
end WorkspaceClient
