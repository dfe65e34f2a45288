import WorkspaceClient.Proofs.Dashboard
import WorkspaceClient.Proofs.Url.Reading

/-
  This file shows where the requests of a client lead: to
  the server of the URL that it was created for, and there
  to the procedures right below the path of this URL. It
  also shows that the base URL of a client names itself.

  Key definitions include:
    * `Url.slashEnded`
    * `Dashboard.LeadsBelow`
    * `Dashboard.Sends`
    * `Dashboard.StaysBelow`

  Main declarations:
    * `Url.pathText_asBase`
    * `Url.target_join`
    * `Dashboard.Client.staysBelow`
    * `Dashboard.Client.staysBelow_of_create`
-/

namespace WorkspaceClient

------------------------------------------------------------
-- Base paths
------------------------------------------------------------

namespace Url

/- A path with a slash at its end, its own or an added one. -/
def slashEnded
    (path : List Char) : List Char :=
  if path.getLast? = some '/' then path else path ++ ['/']

section

variable {u : Url}

/- A path ends in a slash if its last segment is empty. -/
theorem getLast?_pathText_iff
    (h : u.IsNormal) :
    u.pathText.getLast? = some '/' ↔
      u.segments.getLast? = some [] := by
  rcases List.eq_nil_or_concat u.segments with
    hNone | ⟨front, last, hSegments⟩
  · exact absurd hNone h.nonempty
  · rw [List.concat_eq_append] at hSegments
    have hLast : IsSegment last := by
      apply h.segments
      rw [hSegments]
      exact List.mem_append_right _ List.mem_cons_self
    unfold pathText
    rw [hSegments, List.flatMap_append, List.flatMap_singleton,
      List.getLast?_concat, Option.some_inj,
      List.getLast?_append_of_ne_nil _ (List.cons_ne_nil _ _)]
    constructor
    · intro hSlash
      -- a slash at the end is none of the last segment
      by_contra hSome
      rw [List.getLast?_cons_of_ne_nil hSome] at hSlash
      exact hLast.slash (List.mem_of_getLast? hSlash)
    · rintro rfl
      rfl

/- A base URL has the path of the URL, ended by a slash. -/
theorem pathText_asBase
    (h : u.IsNormal) :
    u.asBase.pathText = slashEnded u.pathText := by
  unfold asBase slashEnded
  by_cases hSlash : u.segments.getLast? = some []
  · rw [if_pos hSlash,
      if_pos ((getLast?_pathText_iff h).mpr hSlash)]
  · rw [if_neg hSlash,
      if_neg (mt (getLast?_pathText_iff h).mp hSlash)]
    unfold pathText
    rw [List.flatMap_append]
    rfl

theorem exists_segments_asBase
    (u : Url) :
    ∃ front, u.asBase.segments = front ++ [[]] := by
  unfold asBase
  split
  · next hSlash => exact List.getLast?_eq_some_iff.mp hSlash
  · exact ⟨u.segments, rfl⟩

/- Below a base URL nothing of its path is replaced. -/
theorem target_join
    (u : Url)
    (path : List Char) :
    (u.asBase.join path).target.toList =
      u.asBase.pathText ++ path := by
  rcases exists_segments_asBase u with ⟨front, hSegments⟩
  unfold target join queryText
  rw [String.toList_ofList]
  unfold pathText
  dsimp only
  rw [hSegments, List.dropLast_concat, List.flatMap_append,
    Text.flatMap_splitOn, List.flatMap_append,
    List.flatMap_singleton, List.append_nil, List.append_assoc]
  rfl

/- A base URL is normal, as the URL is. -/
theorem IsNormal.asBase
    (h : u.IsNormal) :
    u.asBase.IsNormal := by
  unfold Url.asBase
  split
  · exact h
  · refine { h with nonempty := by simp, segments := ?_ }
    intro s hs
    rcases List.mem_append.mp hs with hOld | hNew
    · exact h.segments s hOld
    · rw [List.mem_singleton.mp hNew]
      exact isSegment_nil

theorem asBase_asBase
    (u : Url) :
    u.asBase.asBase = u.asBase := by
  rcases exists_segments_asBase u with ⟨front, hSegments⟩
  rw [asBase, if_pos]
  rw [hSegments, List.getLast?_concat]

/- No path has a mark of a query or a fragment in it. -/
theorem bare_of_mem_slashEnded
    (h : u.IsNormal)
    {c : Char}
    (hMem : c ∈ slashEnded u.pathText) :
    c ≠ '?' ∧ c ≠ '#' := by
  rw [← pathText_asBase h] at hMem
  rcases mem_pathText_cases h.asBase hMem with hSlash | hShown
  · rw [hSlash]
    decide
  · constructor <;>
    · rintro rfl
      exact absurd hShown (by decide)

end

end Url

------------------------------------------------------------
-- Requests
------------------------------------------------------------

namespace Dashboard

/-
  A request leads to the server of a URL, and there to a
  procedure right below its path. Nothing else of the URL
  is in the target.
-/
structure LeadsBelow
    (u : Url)
    (procedure : Procedure)
    (q : Http.Request) : Prop where
  scheme : q.origin.scheme = u.scheme.name
  host : q.origin.host = String.ofList u.host.text
  port : q.origin.port = u.effectivePort
  target :
    q.target.toList =
      Url.slashEnded u.pathText ++ procedure.path.toList
  bare : ∀ c ∈ q.target.toList, c ≠ '?' ∧ c ≠ '#'

/- The server of a base URL is that of the URL. -/
theorem originOf_asBase
    (u : Url) :
    Trust.originOf u.asBase = Trust.originOf u := by
  unfold Url.asBase
  split <;> rfl

section

variable {u : Url}
variable {client : Client}
variable {procedure : Procedure}
variable {document : Json}

/- The request of a client leads below its URL. -/
theorem Calls.leadsBelow
    {q : Http.Request}
    (hNormal : u.IsNormal)
    (hBase : client.base = u.asBase)
    (h : Calls client procedure document q) :
    LeadsBelow u procedure q := by
  have hOrigin : q.origin = Trust.originOf u := by
    rw [h.origin, hBase, originOf_asBase]
  have hTarget :
      q.target.toList =
        Url.slashEnded u.pathText ++ procedure.path.toList := by
    rw [h.target, Client.procedureUrl, hBase, Url.target_join,
      Url.pathText_asBase hNormal]
  have hName :
      (procedure.path.toList.all fun c =>
        c != '?' && c != '#') = true := by
    cases procedure <;> decide
  simp only [List.all_eq_true, Bool.and_eq_true, bne_iff_ne]
    at hName
  refine
    { scheme := by rw [hOrigin]; rfl
      host := by rw [hOrigin]; rfl
      port := by rw [hOrigin]; rfl
      target := hTarget
      bare := ?_ }
  rw [hTarget, List.forall_mem_append]
  exact
    ⟨fun c hc => Url.bare_of_mem_slashEnded hNormal hc, hName⟩

------------------------------------------------------------
-- Clients
------------------------------------------------------------

/-
  What a client sends for a procedure: one request below the
  URL if its cookie can be carried, and else nothing.
-/
structure Sends
    (u : Url)
    (client : Client)
    (procedure : Procedure)
    (n n' : Network) : Prop where
  once :
    (∀ s ∈ client.cookie, CanCarry s) →
      ∃ q, LeadsBelow u procedure q ∧ n' = n.after q
  never :
    ¬ (∀ s ∈ client.cookie, CanCarry s) → n' = n

/- All that a client does stays below a URL. -/
structure StaysBelow
    (u : Url)
    (client : Client) : Prop where
  login :
    ∀ user password n,
      Sends u client .login n
        (client.login user password n).2
  identityLogin :
    ∀ identity n,
      Sends u client .serviceAccountLogin n
        (client.identityLogin identity n).2
  verify :
    ∀ n, Sends u client .verify n (client.verify n).2
  workspaces :
    ∀ user n,
      Sends u client .getWorkspaces n
        (client.workspaces user n).2
  users :
    ∀ n, Sends u client .getUsers n (client.users n).2

/- A call stays below the URL of its client. -/
theorem sends_call
    {α : Type}
    (hNormal : u.IsNormal)
    (hBase : client.base = u.asBase)
    (procedure : Procedure)
    (document : Json)
    (d : Json.Decoder α)
    (n : Network) :
    Sends u client procedure n
      (client.call procedure document d n).2 where
  once := by
    intro hCarry
    rcases Client.exists_request? procedure document hCarry with
      ⟨q, hRequest⟩
    exact
      ⟨q,
        (Client.calls_of_request? hRequest).leadsBelow hNormal
          hBase,
        Client.call_state hRequest d n⟩
  never := by
    intro hCarry
    rw [Client.call_unformed (Client.request?_eq_none hCarry)]

namespace Client

/- A login does to the network what its call does. -/
theorem login_state
    (client : Client)
    (user password : String)
    (n : Network) :
    (client.login user password n).2 =
      (client.call .login
        (.ofMembers
          [("userName", .ofText user),
            ("password", .ofText password)])
        loginShape.decode n).2 := by
  unfold login
  refine Task.bind_state ?_ n
  intro answer s
  exact congrArg Prod.snd (Task.ofExcept_eq _ s)

theorem identityLogin_call_state
    (client : Client)
    (identity : String)
    (n : Network) :
    (client.identityLogin identity n).2 =
      (client.call .serviceAccountLogin
        (.ofMembers [("token", .ofText identity)])
        identityShape.decode n).2 := by
  unfold identityLogin
  refine Task.bind_state ?_ n
  intro answer s
  dsimp only
  split
  · rfl
  · rw [Task.ofExcept_eq]

theorem verify_state
    (client : Client)
    (n : Network) :
    (client.verify n).2 =
      (client.call .verify emptyDocument verifyShape.decode
        n).2 := by
  unfold verify
  exact Task.bind_state (fun _ _ => rfl) n

/- A client stays below the URL that its base URL is of. -/
theorem staysBelow
    (hNormal : u.IsNormal)
    (hBase : client.base = u.asBase) :
    StaysBelow u client where
  login := by
    intro user password n
    rw [login_state]
    exact sends_call hNormal hBase _ _ _ n
  identityLogin := by
    intro identity n
    rw [identityLogin_call_state]
    exact sends_call hNormal hBase _ _ _ n
  verify := by
    intro n
    rw [verify_state]
    exact sends_call hNormal hBase _ _ _ n
  workspaces := by
    intro user n
    rw [workspaces_state]
    exact sends_call hNormal hBase _ _ _ n
  users := by
    intro n
    rw [users_state]
    exact sends_call hNormal hBase _ _ _ n

/- The text of a base URL names this base URL. -/
theorem parseBase_text
    (hNormal : u.IsNormal) :
    parseBase u.asBase.text = .ok u.asBase := by
  unfold parseBase
  rw [Url.parse_text hNormal.asBase]
  dsimp only
  rw [Url.asBase_asBase]

theorem create_of_parseBase
    {roots : Http.Roots}
    {text : String}
    {base : Url}
    (hRoots : Trust.checkRoots roots = .ok ())
    (hBase : parseBase text = .ok base) :
    create roots text =
      .ok { roots, base, cookie := none } := by
  simp only [create, hRoots, hBase, bind, Except.bind]
  rfl

/-
  Whatever URL a client is created for, with or without a
  session it stays below this URL. The text of its base URL
  is accepted for another client, and gives the same one.
-/
theorem staysBelow_of_create
    {roots : Http.Roots}
    {text : String}
    (h : create roots text = .ok client) :
    ∃ u,
      Url.parse text = .ok u ∧
        (∀ cookie, StaysBelow u { client with cookie }) ∧
        ∀ roots',
          Trust.checkRoots roots' = .ok () →
            create roots' client.base.text =
              .ok { client with roots := roots' } := by
  rcases ok_of_create h with ⟨base, hParse, rfl⟩
  rcases ok_of_parseBase hParse with ⟨u, hText, rfl⟩
  have hNormal := Url.isNormal_of_parse hText
  refine ⟨u, hText, fun cookie => staysBelow hNormal rfl, ?_⟩
  intro roots' hRoots
  exact create_of_parseBase hRoots (parseBase_text hNormal)

/-
  A path without a slash at its end gets one, whatever
  slashes there are in the query behind it.
-/
theorem staysBelow_of_create_query :
    ∃ client u,
      create .system
            "https://example.com:8443/burrow%20x?tab=/#top" =
          .ok client ∧
        client.base.text =
          "https://example.com:8443/burrow%20x/?tab=/#top" ∧
        Url.parse
            "https://example.com:8443/burrow%20x?tab=/#top" =
          .ok u ∧
        StaysBelow u client ∧
        create .system client.base.text = .ok client := by
  have hCreate :
      create .system
          "https://example.com:8443/burrow%20x?tab=/#top" =
        .ok
          { roots := .system
            base :=
              { scheme := .https
                username := []
                password := []
                host := .domain "example.com".toList
                port := some 8443
                segments := ["burrow%20x".toList, []]
                query := some "tab=/".toList
                fragment := some "top".toList }
            cookie := none } := by
    rfl
  rcases staysBelow_of_create hCreate with
    ⟨u, hParse, hBelow, hAgain⟩
  exact
    ⟨_, u, hCreate, by decide, hParse, hBelow none,
      hAgain .system rfl⟩

end Client

end

end Dashboard
end WorkspaceClient
