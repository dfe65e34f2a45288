import WorkspaceClient.Proofs.Cluster.Targets
import WorkspaceClient.Proofs.Command.Rows
import WorkspaceClient.Proofs.Route.Choice

/-
  This file shows which requests are sent when the
  workspaces of a user are listed with direct access to a
  cluster: at most one, which leads to the namespace of the
  user exactly if the name of the user is single.

  Key definitions include:
    * `Listing.Connects`
    * `Listing.ReachesOwn`
    * `Listing.ListsDirectly`

  Main declarations:
    * `Listing.network_of_direct`
    * `Listing.run_listsDirectly`
-/

namespace WorkspaceClient
namespace Listing

open Cluster (AsksFor IsSingle LeadsTo target? userNamespace
  workspacesPath)

------------------------------------------------------------
-- Direct lists
------------------------------------------------------------

/- The client of a cluster that the options choose. -/
def Connects
    (c : Connection)
    (home : Option String)
    (fs : Files)
    (client : Cluster.Client) : Prop :=
  Cluster.Client.resolve fs home c.kubeconfigPath c.context =
    .ok client

/-
  Between two worlds nothing was sent, or one request for
  the namespace of a user.
-/
def ReachesOwn
    (c : Connection)
    (home : Option String)
    (user : String)
    (w w' : World) : Prop :=
  w'.network = w.network ∨
    ∃ client q,
      Connects c home w.files client ∧
        w'.network = w.network.after q ∧
        LeadsTo client.base (userNamespace user) q.target

/-
  What a direct list of the workspaces of a user does. It
  changes no file. It sends one request or nothing, and it
  sends nothing exactly if a filter is malformed, there is
  no client or the target is not allowed.
-/
structure ListsDirectly
    (c : Connection)
    (home : Option String)
    (user : String)
    (expressions : List String)
    (w w' : World) : Prop where
  files : w'.files = w.files
  sent :
    w'.network = w.network ∨
      ∃ client q,
        Connects c home w.files client ∧
          w'.network = w.network.after q ∧
          AsksFor client user q
  silent :
    w'.network = w.network ↔
      ∀ filters client,
        parseFilters expressions = .ok filters →
        Connects c home w.files client →
          target? (workspacesPath user) = none
  own :
    ReachesOwn c home user w w' ↔
      w'.network = w.network ∨ IsSingle user

section

variable {c : Connection}
variable {home : Option String}
variable {user : String}
variable {expressions : List String}
variable {w w' : World}

/- Nothing is listed, for one of the reasons. -/
theorem listsDirectly_silent
    (hFiles : w'.files = w.files)
    (hNetwork : w'.network = w.network)
    (hReason :
      ∀ filters client,
        parseFilters expressions = .ok filters →
        Connects c home w.files client →
          target? (workspacesPath user) = none) :
    ListsDirectly c home user expressions w w' where
  files := hFiles
  sent := .inl hNetwork
  silent := ⟨fun _ => hReason, fun _ => hNetwork⟩
  own := ⟨fun _ => .inl hNetwork, fun _ => .inl hNetwork⟩

/- The request for the workspaces of a user is sent. -/
theorem listsDirectly_asked
    {filters : List Filter}
    {client : Cluster.Client}
    {q : Http.Request}
    (hFilters : parseFilters expressions = .ok filters)
    (hClient : Connects c home w.files client)
    (hRequest :
      client.request? (workspacesPath user) = some q)
    (hFiles : w'.files = w.files)
    (hNetwork : w'.network = w.network.after q) :
    ListsDirectly c home user expressions w w' := by
  have hAsks : AsksFor client user q :=
    Cluster.Client.asksFor_of_request?
      (Cluster.Client.notMem_base hClient) hRequest
  have hSent : w'.network ≠ w.network := by
    rw [hNetwork]
    exact w.network.after_ne q
  refine
    { files := hFiles
      sent := .inr ⟨client, q, hClient, hNetwork, hAsks⟩
      silent := ⟨fun hSame => absurd hSame hSent, ?_⟩
      own := ⟨?_, ?_⟩ }
  · intro hReason
    have hNone : client.request? (workspacesPath user) = none :=
      Cluster.Client.request?_eq_none_iff.mpr
        (hReason filters client hFilters hClient)
    rw [hRequest] at hNone
    cases hNone
  · rintro (hSame | ⟨_, _, hClient', hNetwork', hLeads⟩)
    · exact absurd hSame hSent
    · -- it is the same request of the same client
      cases hClient.symm.trans hClient'
      have hSame :=
        Network.after_inj.mp (hNetwork.symm.trans hNetwork')
      rw [← hSame] at hLeads
      exact .inr (hAsks.own.mp hLeads)
  · rintro (hSame | hSingle)
    · exact absurd hSame hSent
    · exact
        .inr ⟨client, q, hClient, hNetwork,
          hAsks.own.mpr hSingle⟩

/- The network after workspaces were listed by a cluster. -/
theorem network_of_direct
    (client : Cluster.Client)
    (hUser : user ≠ "")
    (filters : List Filter)
    (n : Network) :
    (workspaces (Backend.direct client).catalog (some user)
        filters n).2 =
      n.afterAll
        (client.request? (workspacesPath user)).toList := by
  have hGiven : Connection.given (some user) = some user := by
    simpa [Connection.given] using hUser
  have hOwner :
      owner (some user) (Backend.direct client).currentUser =
        .ok user := by
    rw [owner_known (by simp [hGiven]), hGiven]
    rfl
  rw [workspaces_owned hOwner, Task.bind_state fun _ _ => rfl]
  exact client.workspaces_state n user

/- Workspaces that a client lists, and their report. -/
theorem listsDirectly_online
    {filters : List Filter}
    {client : Cluster.Client}
    (hUser : user ≠ "")
    (hFilters : parseFilters expressions = .ok filters)
    (hClient : Connects c home w.files client) :
    let rows :=
      workspaces (Backend.direct client).catalog (some user)
        filters
    ListsDirectly c home user expressions w
      ((World.online rows >>= fun (rows, warnings) => do
        World.warnAll warnings
        return Workspace.report rows) w).2 := by
  intro rows
  have hFiles := files_of_online rows Workspace.report w
  have hNetwork :=
    (network_of_online rows Workspace.report w).trans
      (network_of_direct client hUser filters w.network)
  cases hRequest : client.request? (workspacesPath user) with
  | none =>
      rw [hRequest] at hNetwork
      have hTarget : target? (workspacesPath user) = none :=
        Cluster.Client.request?_eq_none_iff.mp hRequest
      exact
        listsDirectly_silent hFiles
          (hNetwork.trans w.network.afterAll_nil)
          fun _ _ _ _ => hTarget
  | some q =>
      rw [hRequest] at hNetwork
      exact
        listsDirectly_asked hFilters hClient hRequest hFiles
          hNetwork

/-
  How the workspaces of a user are listed directly, whatever
  the name of the user, the files and the answers are.
-/
theorem run_listsDirectly
    (hDirect : c.direct = true)
    (hUser : user ≠ "")
    (expressions : List String)
    (format : Format)
    (home : Option String)
    (input : Bytes)
    (w : World) :
    let run :=
      Invocation.run
        { format
          connection := c
          command := .listWorkspaces (some user) expressions }
        home input w
    ListsDirectly c home user expressions w run.2 := by
  intro run
  unfold run Invocation.run Invocation.runBy
  rw [Task.bind_state fun _ _ => rfl]
  simp only [Command.report]
  cases hFilters : parseFilters expressions with
  | error failure =>
      rw [Command.list_malformed _ _ _ _ _ hFilters]
      refine listsDirectly_silent rfl rfl ?_
      intro filters client hOk
      rw [hFilters] at hOk
      cases hOk
  | ok filters =>
      have hSelect :
          Route.selectBy SessionFile.save c home w = _ :=
        Route.selectBy_direct SessionFile.save hDirect
      rw [Command.list_eq _ _ _ _ _ hFilters]
      cases hClient :
          Cluster.Client.resolve w.files home c.kubeconfigPath
            c.context with
      | error failure =>
          rw [hClient] at hSelect
          rw [Task.bind_error hSelect]
          refine listsDirectly_silent rfl rfl ?_
          intro _ client _ hOk
          cases hClient.symm.trans hOk
      | ok client =>
          rw [hClient] at hSelect
          rw [Task.bind_ok hSelect, selectWorkspaces_eq hFilters]
          exact listsDirectly_online hUser hFilters hClient

end

/- A kubeconfig with one server, in one context. -/
def kubeconfigText : String :=
  "\x7b\"clusters\":[\x7b\"name\":\"k\",\"cluster\":"
    ++ "\x7b\"server\":\"https://k\"\x7d\x7d],"
    ++ "\"contexts\":[\x7b\"name\":\"c\",\"context\":"
    ++ "\x7b\"cluster\":\"k\"\x7d\x7d],"
    ++ "\"current-context\":\"c\"\x7d"

/- The options of a command that uses this kubeconfig. -/
def directOptions : Connection :=
  { Connection.usual with
    direct := true
    kubeconfig := some "/kc" }

/- A world with this kubeconfig, where nothing is answered. -/
def kubeconfigWorld : World where
  files :=
    Files.empty.put ["kc"]
      (.file 0o600 (Bytes.ofText kubeconfigText))
  network := Network.unreachable
  warnings := []

/- The list of a user whose name goes on behind another list. -/
def overlongList : Invocation where
  format := .table
  connection := directOptions
  command := .listWorkspaces (some "bob/workspaces?") []

/- It is the list of the other user that is asked for. -/
theorem run_listsDirectly_shared :
    directOptions.direct = true ∧
      "bob/workspaces?" ≠ "" ∧
      ∃ w' client q,
        w' = (overlongList.run none [] kubeconfigWorld).2 ∧
          ListsDirectly directOptions none "bob/workspaces?" []
            kubeconfigWorld w' ∧
          Connects directOptions none kubeconfigWorld.files
            client ∧
          w'.network = kubeconfigWorld.network.after q ∧
          q.target =
            "/apis/burrow.dev/v1alpha1/namespaces/"
              ++ "burrow-user-bob/workspaces?/workspaces?" ∧
          LeadsTo client.base (userNamespace "bob") q.target ∧
          ¬ LeadsTo client.base
            (userNamespace "bob/workspaces?") q.target := by
  have hTargets :
      (overlongList.run none []
          kubeconfigWorld).2.network.sent.map (·.target) =
        ["/apis/burrow.dev/v1alpha1/namespaces/"
          ++ "burrow-user-bob/workspaces?/workspaces?"] := by
    decide +kernel
  have hName : "bob/workspaces?" ≠ "" := by decide
  have hOwn : ¬ IsSingle "bob/workspaces?" := by decide
  have hLists :
      ListsDirectly directOptions none "bob/workspaces?" []
        kubeconfigWorld
        (overlongList.run none [] kubeconfigWorld).2 :=
    run_listsDirectly rfl hName [] .table none [] kubeconfigWorld
  refine ⟨rfl, hName, ?_⟩
  generalize (overlongList.run none [] kubeconfigWorld).2 = w'
    at hTargets hLists ⊢
  rcases hLists.sent with
    hNothing | ⟨client, q, hClient, hNetwork, hAsks⟩
  · rw [hNothing] at hTargets
    cases hTargets
  · rw [hNetwork] at hTargets
    exact
      ⟨w', client, q, rfl, hLists, hClient, hNetwork,
        (List.cons.inj hTargets).1,
        hAsks.shared "bob" '?' [] (by decide) (.inl rfl) rfl,
        mt hAsks.own.mp hOwn⟩

end Listing
end WorkspaceClient
