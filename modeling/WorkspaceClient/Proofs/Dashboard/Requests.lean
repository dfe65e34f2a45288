import WorkspaceClient.Proofs.Dashboard

/-
  This file shows that a request itself tells what it is
  for: it fetches a file, or it calls one procedure of the
  Dashboard. Whatever the path of the base URL is, the path
  of the procedure is the end of the target.

  Key definitions include:
    * `Network.afterAll`
    * `Http.Request.isFetch`
    * `Http.Request.isCallOf`
    * `Http.Request.isListCall`

  Main declarations:
    * `Dashboard.Calls.isCallOf_iff`
    * `Trust.not_isCallOf_fetchRequest`
-/

namespace WorkspaceClient

------------------------------------------------------------
-- Several requests
------------------------------------------------------------

namespace Network

/- The network after several requests were sent. -/
def afterAll
    (n : Network)
    (requests : List Http.Request) : Network :=
  { n with sent := n.sent ++ requests }

@[simp] theorem afterAll_nil
    (n : Network) :
    n.afterAll [] = n := by
  rw [afterAll, List.append_nil]

theorem after_afterAll
    (n : Network)
    (requests : List Http.Request)
    (q : Http.Request) :
    (n.afterAll requests).after q =
      n.afterAll (requests ++ [q]) := by
  simp only [after, afterAll, List.append_assoc]

@[simp] theorem afterAll_afterAll
    (n : Network)
    (requests more : List Http.Request) :
    (n.afterAll requests).afterAll more =
      n.afterAll (requests ++ more) := by
  simp only [afterAll, List.append_assoc]

/- A place among requests with one more is the last, or old. -/
theorem eq_or_exists_of_concat
    {requests before after : List Http.Request}
    {q r : Http.Request}
    (h : requests ++ [q] = before ++ r :: after) :
    (requests = before ∧ q = r) ∨
      ∃ rest,
        requests = before ++ r :: rest ∧
          after = rest ++ [q] := by
  rcases List.eq_nil_or_concat after with
    rfl | ⟨rest, last, rfl⟩
  · rcases List.append_inj' h rfl with ⟨hInit, hLast⟩
    exact .inl ⟨hInit, List.singleton_inj.mp hLast⟩
  · rw [List.concat_eq_append, ← List.cons_append,
      ← List.append_assoc] at h
    rcases List.append_inj' h rfl with ⟨hInit, hLast⟩
    rw [List.singleton_inj] at hLast
    exact
      .inr ⟨rest, hInit, by rw [List.concat_eq_append, hLast]⟩

end Network

------------------------------------------------------------
-- What a request is for
------------------------------------------------------------

namespace Http.Request

/- Whether a request fetches a file. -/
def isFetch
    (q : Request) : Bool :=
  q.method == "GET"

/- Whether a request calls a procedure. -/
def isCallOf
    (q : Request)
    (procedure : Dashboard.Procedure) : Bool :=
  q.method == "POST"
    && ('/' :: procedure.path.toList).isSuffixOf
      q.target.toList

/- Whether a request lists workspaces or users. -/
def isListCall
    (q : Request) : Bool :=
  q.isCallOf .getWorkspaces || q.isCallOf .getUsers

end Http.Request

namespace Dashboard

/- All procedures. -/
def Procedure.all : List Procedure :=
  [.login, .serviceAccountLogin, .verify, .getWorkspaces,
    .getUsers]

theorem Procedure.mem_all
    (p : Procedure) :
    p ∈ all := by
  cases p <;> simp [all]

/- No procedure has a path that ends another one. -/
theorem eq_of_suffix
    {p p' : Procedure}
    (h :
      '/' :: p.path.toList <:+ '/' :: p'.path.toList) :
    p = p' := by
  -- decided at once, so that each path is read only once
  have hAll :
      ∀ p ∈ Procedure.all,
        ∀ p' ∈ Procedure.all,
          ('/' :: p.path.toList).isSuffixOf
              ('/' :: p'.path.toList) = true →
            p = p' := by
    decide +kernel
  exact
    hAll p p.mem_all p' p'.mem_all
      (List.isSuffixOf_iff_suffix.mpr h)

/- The path of a procedure is the end of its target. -/
theorem suffix_target
    (client : Client)
    (procedure : Procedure) :
    '/' :: procedure.path.toList <:+
      (client.procedureUrl procedure).target.toList := by
  have hPath :
      (Text.splitOn ['/'] procedure.path.toList).flatMap
          ('/' :: ·) =
        '/' :: procedure.path.toList := by
    cases procedure <;> rfl
  rw [Url.target, String.toList_ofList]
  unfold Client.procedureUrl Url.join Url.pathText Url.queryText
  rw [List.flatMap_append, hPath, List.append_nil]
  exact List.suffix_append _ _

section

variable {client : Client}
variable {procedure : Procedure}
variable {document : Json}
variable {q : Http.Request}

/- A request that calls a procedure calls no other one. -/
theorem Calls.isCallOf_iff
    (h : Calls client procedure document q)
    {other : Procedure} :
    q.isCallOf other = true ↔ other = procedure := by
  have hEnd := suffix_target client procedure
  rw [← h.target] at hEnd
  have hMethod : ("POST" == "POST") = true := rfl
  rw [Http.Request.isCallOf, h.method, hMethod, Bool.true_and,
    List.isSuffixOf_iff_suffix]
  constructor
  · intro hOther
    rcases List.suffix_or_suffix_of_suffix hOther hEnd with
      hInside | hInside
    · exact eq_of_suffix hInside
    · exact (eq_of_suffix hInside).symm
  · rintro rfl
    exact hEnd

theorem Calls.isListCall_iff
    (h : Calls client procedure document q) :
    q.isListCall = true ↔
      procedure = .getWorkspaces ∨ procedure = .getUsers := by
  rw [Http.Request.isListCall, Bool.or_eq_true,
    h.isCallOf_iff, h.isCallOf_iff, eq_comm,
    eq_comm (a := Procedure.getUsers)]

theorem Calls.not_isFetch
    (h : Calls client procedure document q) :
    q.isFetch = false := by
  rw [Http.Request.isFetch, h.method]
  rfl

end

end Dashboard

/- The fetch of an authority calls no procedure. -/
theorem Trust.not_isCallOf_fetchRequest
    (u : Url)
    (procedure : Dashboard.Procedure) :
    (fetchRequest u).isCallOf procedure = false := rfl

end WorkspaceClient
