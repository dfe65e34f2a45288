import WorkspaceClient.Backend
import WorkspaceClient.Proofs.Ending

/-
  This file shows which failures a step can end in. Whatever
  is made of an answer, its failure is no validation. Only
  steps that send nothing validate, and only the reading of
  filters fails because of a filter.

  Key definitions include:
    * `Failure.IsLate`
    * `Failure.IsNoFilter`

  Main declarations:
    * `Dashboard.late_readReply`
    * `Dashboard.Client.late_call`
    * `Backend.late_workspaces`
    * `Backend.late_users`
-/

namespace WorkspaceClient

------------------------------------------------------------
-- Kinds of failures
------------------------------------------------------------

namespace Failure

/- A failure that is no validation. -/
def IsLate
    (failure : Failure) : Prop :=
  failure.isValidation = false

/- A failure that is not that of a filter. -/
def IsNoFilter
    (failure : Failure) : Prop :=
  ∀ refusal, failure ≠ .filter refusal

theorem IsLate.not_isValidation
    {failure : Failure}
    (h : failure.IsLate) :
    failure.isValidation ≠ true :=
  Bool.eq_false_iff.mp h

theorem IsLate.isNoFilter
    {failure : Failure}
    (h : failure.IsLate) :
    failure.IsNoFilter := by
  rintro refusal rfl
  cases h

/- A failure that is read as an expired session stays late. -/
theorem IsLate.classify
    {failure : Failure}
    (h : failure.IsLate) :
    (classify failure).IsLate := by
  unfold Failure.classify
  split
  · split
    · rfl
    · split <;> rfl
  · exact h

end Failure

------------------------------------------------------------
-- Authorities
------------------------------------------------------------

namespace Trust

theorem late_certificates
    (bundle : Bytes) :
    FailsOnly Failure.IsLate (certificates bundle) := by
  unfold certificates
  split
  · exact .ok _
  · exact .error rfl

theorem late_checkRoots
    (roots : Http.Roots) :
    FailsOnly Failure.IsLate (checkRoots roots) := by
  cases roots with
  | system => exact .ok ()
  | extra bundle =>
      exact .bind (late_certificates bundle) fun _ => .ok ()
  | only bundle =>
      exact .bind (late_certificates bundle) fun _ => .ok ()

theorem late_response
    (context : String)
    (reply : Http.Reply) :
    FailsOnly Failure.IsLate (response context reply) := by
  cases reply with
  | refused => exact .error rfl
  | closed => exact .error rfl
  | answered r => exact .ok r

theorem late_send
    (q : Http.Request) :
    (Network.send q).FailsOnly Failure.IsLate :=
  fun _ => .ok _

theorem late_fetchCa
    (url : String) :
    (fetchCa url).FailsOnly Failure.IsLate := by
  unfold fetchCa
  split
  · exact .fail rfl
  · apply Task.FailsOnly.bind (late_send _)
    intro reply
    apply Task.FailsOnly.bind
      (.ofExcept (late_response _ reply))
    intro r
    split
    · exact .fail rfl
    · split
      · exact .fail rfl
      · next body _ =>
          exact
            .bind (.ofExcept (late_certificates body))
              fun _ => .pure body

end Trust

------------------------------------------------------------
-- Dashboard
------------------------------------------------------------

namespace Dashboard

open Failure (IsLate IsNoFilter)

theorem isLate_statusFailure
    (procedure : Procedure)
    (status : Nat)
    (body : String) :
    (statusFailure procedure status body).IsLate := by
  unfold statusFailure
  dsimp only
  split <;> rfl

/- Whatever a call is answered with, its failure is late. -/
theorem late_readReply
    {α : Type}
    (procedure : Procedure)
    (d : Json.Decoder α)
    (reply : Http.Reply) :
    FailsOnly IsLate (readReply procedure d reply) := by
  apply FailsOnly.bind (Trust.late_response _ reply)
  intro r
  unfold readResponse
  split
  · exact .error (isLate_statusFailure _ _ _)
  · split
    · exact .error rfl
    · split
      · exact .ok _
      · exact .error rfl

theorem late_ofCookies
    (procedure : Procedure)
    (cookies : List String)
    (user : String) :
    FailsOnly IsLate
      (LoginReply.ofCookies procedure cookies user) := by
  unfold LoginReply.ofCookies
  split
  · exact .ok _
  · exact .error rfl

namespace Client

section

variable (client : Client)

theorem late_call
    {α : Type}
    (procedure : Procedure)
    (document : Json)
    (d : Json.Decoder α) :
    (client.call procedure document d).FailsOnly IsLate := by
  unfold call
  split
  · exact .fail rfl
  · next q _ =>
      exact
        .bind (Trust.late_send q) fun reply =>
          .ofExcept (late_readReply procedure d reply)

theorem late_login
    (user password : String) :
    (client.login user password).FailsOnly IsLate :=
  .bind (client.late_call _ _ _) fun _ =>
    .ofExcept (late_ofCookies _ _ _)

theorem late_identityLogin
    (identity : String) :
    (client.identityLogin identity).FailsOnly IsLate := by
  apply Task.FailsOnly.bind (client.late_call _ _ _)
  rintro ⟨user, cookies⟩
  simp only
  split
  · exact .fail rfl
  · exact .ofExcept (late_ofCookies _ _ _)

theorem late_identityToken
    (fs : Files)
    (path : String) :
    (client.identityToken fs path).FailsOnly IsLate := by
  have hIdentity :
      FailsOnly IsLate (Credential.readIdentity fs path) := by
    unfold Credential.readIdentity
    split
    · exact .error rfl
    · dsimp only
      split
      · exact .error rfl
      · exact .ok _
  exact
    .bind (.ofExcept hIdentity) fun identity =>
      .bind (client.late_identityLogin identity) fun _ =>
        .pure _

theorem late_workspaces
    (user : String) :
    (client.workspaces user).FailsOnly IsLate :=
  .bind (client.late_call _ _ _) fun _ => .pure _

theorem late_users :
    client.users.FailsOnly IsLate :=
  .bind (client.late_call _ _ _) fun _ => .pure _

end

------------------------------------------------------------
-- Clients
------------------------------------------------------------

theorem noFilter_parseBase
    (text : String) :
    FailsOnly IsNoFilter (parseBase text) := by
  unfold parseBase
  split
  · exact .ok _
  · exact .error nofun

theorem noFilter_create
    (roots : Http.Roots)
    (text : String) :
    FailsOnly IsNoFilter (create roots text) :=
  .bind
    ((Trust.late_checkRoots roots).imp fun _ =>
      IsLate.isNoFilter)
    fun _ => .bind (noFilter_parseBase text) fun _ => .ok _

theorem noFilter_withToken
    (client : Client)
    (token : String) :
    FailsOnly IsNoFilter (client.withToken token) := by
  have hReplay :
      FailsOnly IsNoFilter (Credential.replay token) := by
    unfold Credential.replay
    split
    · exact .ok _
    · exact .error nofun
  exact .bind hReplay fun _ => .ok _

end Client
end Dashboard

------------------------------------------------------------
-- Clusters
------------------------------------------------------------

namespace Cluster

open Failure (IsLate IsNoFilter)

theorem isLate_failure
    (r : Refusal)
    (what : String) :
    (r.failure what).IsLate := by
  unfold Refusal.failure
  split
  · rfl
  · split <;> rfl

theorem late_readItems
    (what : String)
    (r : Http.Response) :
    FailsOnly IsLate (readItems what r) := by
  unfold readItems
  split
  · exact .error rfl
  · split
    · exact .error rfl
    · split
      · exact .error (isLate_failure _ _)
      · split
        · exact .ok _
        · exact .error rfl

theorem late_readReply
    (what : String)
    (reply : Http.Reply) :
    FailsOnly IsLate (readReply what reply) := by
  cases reply with
  | refused => exact .error rfl
  | closed => exact .error rfl
  | answered r => exact late_readItems what r

theorem late_decodeItem
    {α : Type}
    (shape : Json.Shape α)
    (item : Item) :
    FailsOnly IsLate (decodeItem shape item) := by
  unfold decodeItem
  split
  · exact .ok _
  · exact .error rfl

namespace Client

theorem late_items
    (c : Client)
    (path what : String) :
    (c.items path what).FailsOnly IsLate := by
  unfold items
  split
  · exact .fail rfl
  · next q _ =>
      exact
        .bind (Trust.late_send q) fun reply =>
          .ofExcept (late_readReply what reply)

theorem late_workspaces
    (c : Client)
    (user : String) :
    (c.workspaces user).FailsOnly IsLate :=
  .bind (c.late_items _ _) fun items =>
    .ofExcept
      (.mapM
        (fun item => .bind (late_decodeItem _ item) fun _ => .ok _)
        items)

theorem late_users
    (c : Client) :
    c.users.FailsOnly IsLate :=
  .bind (c.late_items _ _) fun items =>
    .ofExcept
      (.mapM
        (fun item => .bind (late_decodeItem _ item) fun _ => .ok _)
        items)

/- No client is refused because of a filter. -/
theorem noFilter_resolve
    (fs : Files)
    (home path context : Option String) :
    FailsOnly IsNoFilter (resolve fs home path context) := by
  have hText :
      ∀ path text,
        FailsOnly IsNoFilter (Kubeconfig.ofText path text) := by
    intro path text
    unfold Kubeconfig.ofText
    dsimp only
    split
    · exact .ok _
    · split
      · exact .error nofun
      · split
        · split
          · exact .ok _
          · exact .error nofun
        · exact .error nofun
  have hLoad :
      ∀ path, FailsOnly IsNoFilter (Kubeconfig.load fs path) := by
    intro path
    unfold Kubeconfig.load
    split
    · exact .error nofun
    · exact hText _ _
  unfold resolve
  split
  · apply FailsOnly.bind (hLoad _)
    intro k
    split
    · unfold ofAccess
      split
      · exact .ok _
      · exact .error nofun
    · exact .error nofun
  · exact .error nofun

end Client
end Cluster

------------------------------------------------------------
-- Backends
------------------------------------------------------------

namespace Backend

open Failure (IsLate)

/- Whatever a list call ends in, its failure is late. -/
theorem late_workspaces
    (b : Backend)
    (user : String) :
    (b.workspaces user).FailsOnly IsLate := by
  cases b with
  | direct client => exact client.late_workspaces user
  | facade client _ =>
      exact
        .mapFailure
          ((client.late_workspaces user).imp fun _ =>
            IsLate.classify)

theorem late_users
    (b : Backend) :
    b.users.FailsOnly IsLate := by
  cases b with
  | direct client => exact client.late_users
  | facade client _ =>
      exact
        .mapFailure
          (client.late_users.imp fun _ => IsLate.classify)

end Backend

end WorkspaceClient
