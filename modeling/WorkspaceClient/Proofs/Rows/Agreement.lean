import WorkspaceClient.Proofs.Backend
import WorkspaceClient.Proofs.Command.Listing
import WorkspaceClient.Proofs.Rows.Objects

/-
  This file shows that the two backends list the same rows:
  the API of the cluster, whose objects carry some facts, and
  the Dashboard, whose items carry the same facts. They only
  differ in the phase of a workspace that is known to be
  empty.

  Key definitions include:
    * `Cluster.IsList`
    * `Dashboard.IsAnswer`
    * `Backend.AnsweredAlike`
    * `Listing.ListsAlike`
    * `Backend.WorkspacesAgree`
    * `Backend.UsersAgree`

  Main declarations:
    * `Cluster.Client.rows_eq`
    * `Backend.facade_rows_eq`
    * `Listing.selectWorkspaces_rows`
    * `Listing.selectUsers_rows`
    * `Backend.rows_agree`
-/

namespace WorkspaceClient

variable {α β γ : Type}

------------------------------------------------------------
-- Tasks
------------------------------------------------------------

/- The result of two steps is that of the second one. -/
theorem Task.exists_bind_fst
    {σ : Type}
    {t : Task σ α}
    {n : σ}
    {a : α}
    (h : (t n).1 = .ok a)
    (next : α → Task σ β) :
    ∃ n', (t >>= next) n = next a n' := by
  rcases hStep : t n with ⟨failure | b, n'⟩
  · rw [hStep] at h
    cases h
  · rw [hStep] at h
    cases h
    exact ⟨n', Task.bind_ok hStep⟩

/- A step that fails is the last one. -/
theorem Task.bind_fst_error
    {σ : Type}
    {t : Task σ α}
    {n : σ}
    {failure : Failure}
    (h : (t n).1 = .error failure)
    (next : α → Task σ β) :
    ((t >>= next) n).1 = .error failure := by
  rcases hStep : t n with ⟨failure' | a, n'⟩
  · rw [hStep] at h
    cases h
    rw [Task.bind_error hStep]
  · rw [hStep] at h
    cases h

theorem Task.bind_pure_fst
    {σ : Type}
    {t : Task σ α}
    {n : σ}
    {a : α}
    (h : (t n).1 = .ok a)
    (f : α → β) :
    ((t >>= fun a => pure (f a)) n).1 = .ok (f a) := by
  rcases exists_bind_fst h fun a => pure (f a) with
    ⟨n', hBind⟩
  rw [hBind]
  rfl

/- The reply to a request delivers a body. -/
def Network.Delivers
    (n : Network)
    (q? : Option Http.Request)
    (body : Bytes) : Prop :=
  ∃ q, q? = some q ∧ (n.answer n.sent q).Delivers body

------------------------------------------------------------
-- Objects of the cluster
------------------------------------------------------------

namespace Cluster

/- A body is a list with an object for each of these facts. -/
def IsList
    (isObject : α → Json → Prop)
    (facts : List α)
    (body : Bytes) : Prop :=
  ∃ ms metadata items,
    Json.parse? body = some (.object ms) ∧
      (Json.object ms).depth ≤ maxDepth ∧
      metadataOf? listFields ms = some metadata ∧
      membersNamed "items" ms = [.array items] ∧
      List.Forall₂ isObject facts items

section

variable {isObject : α → Json → Prop}
variable {facts : List α}

theorem exists_mapM_item?
    {items : List Json}
    {isItem : α → Item → Prop}
    (hItem :
      ∀ f v, isObject f v →
        ∃ item, item? v = some item ∧ isItem f item)
    (hItems : List.Forall₂ isObject facts items) :
    ∃ read,
      items.mapM item? = some read ∧
        List.Forall₂ isItem facts read := by
  induction hItems with
  | nil => exact ⟨[], rfl, .nil⟩
  | cons hObject _ ih =>
      rcases hItem _ _ hObject with ⟨item, hFirst, hIs⟩
      rcases ih with ⟨read, hRest, hRead⟩
      refine ⟨item :: read, ?_, .cons hIs hRead⟩
      rw [List.mapM_cons, hFirst, hRest]
      rfl

theorem exists_readList?
    {body : Bytes}
    {isItem : α → Item → Prop}
    (hItem :
      ∀ f v, isObject f v →
        ∃ item, item? v = some item ∧ isItem f item)
    (hList : IsList isObject facts body) :
    ∃ read,
      readList? body = some read ∧
        List.Forall₂ isItem facts read := by
  rcases hList with
    ⟨ms, metadata, items, hParse, hDepth, hMetadata, hMembers,
      hItems⟩
  rcases exists_mapM_item? hItem hItems with
    ⟨read, hMap, hRead⟩
  refine ⟨read, ?_, hRead⟩
  unfold readList?
  rw [hParse]
  simp only [Option.bind_eq_bind, Option.bind_some]
  rw [if_neg (Nat.not_lt.mpr hDepth)]
  simp [hMetadata, hMembers, hMap]

/- What is read of a body that is delivered. -/
theorem Client.items_delivered
    {c : Client}
    {n : Network}
    {path : String}
    {body : Bytes}
    (hDelivers : n.Delivers (c.request? path) body)
    (what : String) :
    (c.items path what n).1 =
      match Bytes.toText? body, readList? body with
      | none, _ =>
          .error (troubled "UTF-8 Error" "invalid sequence")
      | some _, none =>
          .error (troubled "Error deserializing response"
            "not a list of objects")
      | some _, some items => .ok items := by
  rcases hDelivers with
    ⟨q, hRequest, r, hReply, hStatus, hCut, hBody⟩
  have hRefusal : isRefusal r.status = false := by
    have hBelow := hStatus.2
    simp only [isRefusal, Bool.and_eq_false_iff,
      decide_eq_false_iff_not]
    omega
  unfold Client.items
  rw [hRequest]
  simp only
  rw [Task.bind_ok (n.send_eq q), Task.ofExcept_eq, hReply]
  change readItems what r = _
  unfold readItems
  rw [Http.body?_eq_some_iff.mpr ⟨hCut, hBody⟩]
  simp only
  cases Bytes.toText? body with
  | none => rfl
  | some text =>
      simp only [hRefusal]
      cases readList? body <;> rfl

/-
  The rows of a list are read from its objects, if each of
  them is read as a row.
-/
theorem Client.rows_eq
    {c : Client}
    {n : Network}
    {path text : String}
    {shape : Json.Shape β}
    {row : β → String → γ}
    {rowOf : α → γ}
    (hReads :
      ∀ f v, isObject f v →
        ∃ name o,
          ReadsAs shape v name o ∧ row o name = rowOf f)
    (hDelivers :
      n.Delivers (c.request? path) (Bytes.ofText text))
    (hList : IsList isObject facts (Bytes.ofText text))
    (what : String) :
    ((c.items path what >>= fun items =>
      .ofExcept (items.mapM fun item => do
        let (name, o) ← decodeItem shape item
        return row o name)) n).1 =
      .ok (facts.map rowOf) := by
  let toRow (item : Item) : Except Failure γ := do
    let (name, o) ← decodeItem shape item
    return row o name
  have hItem :
      ∀ f v, isObject f v →
        ∃ item,
          item? v = some item ∧ toRow item = .ok (rowOf f) := by
    intro f v hObject
    rcases hReads f v hObject with
      ⟨name, o, ⟨item, hRead, hDecode⟩, hRow⟩
    refine ⟨item, hRead, ?_⟩
    simp only [toRow]
    rw [hDecode, ← hRow]
    rfl
  rcases exists_readList? hItem hList with
    ⟨items, hRead, hItems⟩
  have hRows : items.mapM toRow = .ok (facts.map rowOf) := by
    rw [Result.mapM_eq_ok_iff, List.forall₂_map_right_iff]
    exact hItems.flip
  have hDelivered := Client.items_delivered hDelivers what
  rw [Bytes.toText?_ofText, hRead] at hDelivered
  rcases Task.exists_bind_fst hDelivered
      fun items => .ofExcept (items.mapM toRow) with
    ⟨n', hBind⟩
  rw [hBind, Task.ofExcept_eq]
  exact hRows

end

end Cluster

------------------------------------------------------------
-- Items of the Dashboard
------------------------------------------------------------

/- A body is an answer with an item for each of these facts. -/
def Dashboard.IsAnswer
    (isItem : α → Json → Prop)
    (facts : List α)
    (body : Bytes) : Prop :=
  ∃ v items,
    Json.parse body = { value := v, closed := true } ∧
      v.Holds [("items", some (.array items))] ∧
      List.Forall₂ isItem facts items

namespace Backend

/- The rows of an answer are read from its items. -/
theorem facade_rows_eq
    {client : Dashboard.Client}
    {procedure : Dashboard.Procedure}
    {document : Json}
    {n : Network}
    {body : Bytes}
    {shape : Json.Shape β}
    {isItem : α → Json → Prop}
    {facts : List α}
    {rowOf : α → β}
    (hReads :
      ∀ f v, isItem f v →
        shape.decode .document v = .ok (rowOf f))
    (hDelivers :
      n.Delivers (client.request? procedure document) body)
    (hAnswer : Dashboard.IsAnswer isItem facts body) :
    (Task.mapFailure Failure.classify
      (client.call procedure document
          (Dashboard.itemsShape shape).decode
        >>= fun answer => pure answer.1) n).1 =
      .ok (facts.map rowOf) := by
  rcases hAnswer with ⟨v, items, hParse, hHolds, hItems⟩
  have hRows :
      Json.Decoder.list shape.decode .document
          (.array items) = .ok (facts.map rowOf) := by
    rw [Json.Decoder.list_eq_ok_iff,
      List.forall₂_map_right_iff]
    exact (hItems.imp hReads).flip
  have hBody :
      (Dashboard.itemsShape shape).decode.ofBytes body =
        .ok (facts.map rowOf) := by
    rw [Json.Decoder.ofBytes_closed hParse]
    refine Json.Shape.decode_holds
      (Json.Shape.isRegular_of_one rfl) rfl ?_ hHolds
    refine .filled rfl ?_ .done
    rw [Json.Field.of_read_eq_ok_iff]
    exact ⟨_, hRows, rfl⟩
  rcases hDelivers with ⟨q, hRequest, hReply⟩
  rw [call_eq_conclusion hRequest,
    conclusion_delivers procedure _ hReply, hBody]

end Backend

------------------------------------------------------------
-- Selections
------------------------------------------------------------

namespace Listing

variable (catalog : Catalog Network)
variable {n : Network}

/- Filters are applied to the rows of a catalog. -/
theorem selectWorkspaces_rows
    {user : Option String}
    {name : String}
    {rows : List Workspace}
    (hOwner : owner user catalog.currentUser = .ok name)
    (hRows : (catalog.workspaces name n).1 = .ok rows)
    (expressions : List String) :
    (selectWorkspaces catalog user expressions n).1 =
      (parseFilters expressions).map
        (Workspace.columns.filterAll rows) := by
  cases hParse : parseFilters expressions with
  | error failure =>
      unfold selectWorkspaces
      rw [hParse]
      rfl
  | ok filters =>
      rw [selectWorkspaces_eq hParse]
      unfold workspaces
      rw [hOwner]
      exact
        Task.bind_pure_fst hRows
          (Workspace.columns.filterAll · filters)

theorem selectUsers_rows
    {rows : List User}
    (hRows : (catalog.users n).1 = .ok rows)
    (expressions : List String) :
    (selectUsers catalog expressions n).1 =
      (parseFilters expressions).map
        (User.columns.filterAll rows) := by
  cases hParse : parseFilters expressions with
  | error failure =>
      unfold selectUsers
      rw [hParse]
      rfl
  | ok filters =>
      rw [selectUsers_eq hParse]
      exact
        Task.bind_pure_fst hRows
          (User.columns.filterAll · filters)

/- An owner that is known without a session is named. -/
theorem owner_of_unknown
    {user : Option String}
    {name : String}
    (h : owner user none = .ok name)
    (current : Option String) :
    owner user current = .ok name := by
  unfold owner at h ⊢
  cases hNamed : user.filter (!·.isEmpty) with
  | none =>
      rw [hNamed] at h
      cases h
  | some given =>
      rw [hNamed] at h
      exact h

/- What is printed of a list, and the warnings. -/
def printed
    (report : List α → Report)
    (format : Format)
    (result : Except Failure (List α × List Warning)) :
    Except Failure (String × List Warning) :=
  result.map fun r => ((report r.1).render format, r.2)

/-
  Two lists, each in its own network, end in the same rows
  and warnings or in the same failure. In both formats the
  same is printed.
-/
structure ListsAlike
    (report : List α → Report)
    (list list' : Task Network (List α × List Warning))
    (n n' : Network) : Prop where
  result : (list n).1 = (list' n').1
  print :
    ∀ format,
      printed report format (list n).1 =
        printed report format (list' n').1

theorem listsAlike_of
    {report : List α → Report}
    {list list' : Task Network (List α × List Warning)}
    {n n' : Network}
    (h : (list n).1 = (list' n').1) :
    ListsAlike report list list' n n' :=
  ⟨h, fun format => congrArg (printed report format) h⟩

end Listing

------------------------------------------------------------
-- Agreement
------------------------------------------------------------

namespace Backend

/-
  The cluster answers a request in its network with a list,
  and the Dashboard answers one in its own network with the
  same facts.
-/
structure AnsweredAlike
    (isObject isItem : α → Json → Prop)
    (facts : List α)
    (q? q'? : Option Http.Request)
    (n n' : Network) : Prop where
  direct :
    ∃ text,
      n.Delivers q? (Bytes.ofText text) ∧
        Cluster.IsList isObject facts (Bytes.ofText text)
  facade :
    ∃ body,
      n'.Delivers q'? body ∧
        Dashboard.IsAnswer isItem facts body

/-
  Two backends list the workspaces of an owner alike, but
  for a phase that is known to be empty.
-/
structure WorkspacesAgree
    (direct facade : Backend)
    (owner : String)
    (facts : List Workspace.Facts)
    (n n' : Network) : Prop where
  direct_rows :
    (direct.workspaces owner n).1 =
      .ok (facts.map (·.directRow))
  facade_rows :
    (facade.workspaces owner n').1 =
      .ok (facts.map (·.facadeRow))
  equal_iff :
    ∀ f ∈ facts,
      f.directRow = f.facadeRow ↔ f.phase ≠ some ""
  -- the exceptional case, in which no other field differs
  pending :
    ∀ f ∈ facts,
      f.phase = some "" →
        f.facadeRow.phase = "" ∧
          f.directRow =
            { f.facadeRow with phase := "Pending" }
  selected :
    (∀ f ∈ facts, f.phase ≠ some "") →
      ∀ user expressions,
        Listing.owner user direct.currentUser = .ok owner →
          Listing.ListsAlike Workspace.report
            (Listing.selectWorkspaces direct.catalog user
              expressions)
            (Listing.selectWorkspaces facade.catalog user
              expressions) n n'

/- Two backends list users alike. -/
structure UsersAgree
    (direct facade : Backend)
    (facts : List User.Facts)
    (n n' : Network) : Prop where
  direct_rows :
    (direct.users n).1 = .ok (facts.map (·.row))
  facade_rows :
    (facade.users n').1 = .ok (facts.map (·.row))
  selected :
    ∀ expressions,
      Listing.ListsAlike User.report
        (Listing.selectUsers direct.catalog expressions)
        (Listing.selectUsers facade.catalog expressions) n n'

section

variable {c : Cluster.Client}
variable {client : Dashboard.Client}
variable {n n' : Network}

theorem direct_workspaces
    {owner text : String}
    {facts : List Workspace.Facts}
    (hDelivers :
      n.Delivers (c.request? (Cluster.workspacesPath owner))
        (Bytes.ofText text))
    (hList :
      Cluster.IsList Workspace.Facts.IsInObject facts
        (Bytes.ofText text)) :
    ((direct c).workspaces owner n).1 =
      .ok (facts.map (·.directRow)) :=
  Cluster.Client.rows_eq
    (fun f _ hObject =>
      ⟨_, _, f.readsAs hObject, f.row_object⟩)
    hDelivers hList _

theorem facade_workspaces
    {owner : String}
    {facts : List Workspace.Facts}
    {body : Bytes}
    (session : String)
    (hDelivers :
      n.Delivers
        (client.request? .getWorkspaces
          (.ofMembers [("userName", .ofText owner)])) body)
    (hAnswer :
      Dashboard.IsAnswer Workspace.Facts.IsInItem facts body) :
    ((facade client session).workspaces owner n).1 =
      .ok (facts.map (·.facadeRow)) :=
  facade_rows_eq
    (fun f _ hItem => f.decode_item hItem .document)
    hDelivers hAnswer

theorem direct_users
    {facts : List User.Facts}
    {text : String}
    (hDelivers :
      n.Delivers (c.request? Cluster.usersPath)
        (Bytes.ofText text))
    (hList :
      Cluster.IsList User.Facts.IsInObject facts
        (Bytes.ofText text)) :
    ((direct c).users n).1 = .ok (facts.map (·.row)) :=
  Cluster.Client.rows_eq
    (fun f _ hObject =>
      ⟨_, _, f.readsAs hObject, f.row_object⟩)
    hDelivers hList _

theorem facade_users
    {facts : List User.Facts}
    {body : Bytes}
    (session : String)
    (hDelivers :
      n.Delivers
        (client.request? .getUsers Dashboard.emptyDocument)
        body)
    (hAnswer :
      Dashboard.IsAnswer User.Facts.IsInItem facts body) :
    ((facade client session).users n).1 =
      .ok (facts.map (·.row)) :=
  facade_rows_eq
    (fun f _ hItem => f.decode_item hItem .document)
    hDelivers hAnswer

theorem workspacesAgree_of
    {owner : String}
    {facts : List Workspace.Facts}
    (session : String)
    (h :
      AnsweredAlike Workspace.Facts.IsInObject
        Workspace.Facts.IsInItem facts
        (c.request? (Cluster.workspacesPath owner))
        (client.request? .getWorkspaces
          (.ofMembers [("userName", .ofText owner)])) n n') :
    WorkspacesAgree (direct c) (facade client session) owner
      facts n n' := by
  rcases h with
    ⟨⟨text, hDirect, hList⟩, body, hFacade, hAnswer⟩
  have hDirectRows := direct_workspaces hDirect hList
  have hFacadeRows :=
    facade_workspaces session hFacade hAnswer
  refine
    { direct_rows := hDirectRows
      facade_rows := hFacadeRows
      equal_iff := fun f _ => f.directRow_eq_iff
      pending := fun f _ => f.directRow_of_empty
      selected := ?_ }
  intro hPhases user expressions hOwner
  have hSame :
      facts.map (·.directRow) = facts.map (·.facadeRow) :=
    List.map_congr_left fun f hf =>
      f.directRow_eq_iff.mpr (hPhases f hf)
  rw [hSame] at hDirectRows
  apply Listing.listsAlike_of
  rw [Listing.selectWorkspaces_rows (direct c).catalog hOwner
      hDirectRows,
    Listing.selectWorkspaces_rows
      (facade client session).catalog
      (Listing.owner_of_unknown hOwner _) hFacadeRows]

theorem usersAgree_of
    {facts : List User.Facts}
    (session : String)
    (h :
      AnsweredAlike User.Facts.IsInObject User.Facts.IsInItem
        facts (c.request? Cluster.usersPath)
        (client.request? .getUsers Dashboard.emptyDocument)
        n n') :
    UsersAgree (direct c) (facade client session) facts
      n n' := by
  rcases h with
    ⟨⟨text, hDirect, hList⟩, body, hFacade, hAnswer⟩
  have hDirectRows := direct_users hDirect hList
  have hFacadeRows := facade_users session hFacade hAnswer
  refine ⟨hDirectRows, hFacadeRows, ?_⟩
  intro expressions
  apply Listing.listsAlike_of
  rw [Listing.selectUsers_rows (direct c).catalog hDirectRows,
    Listing.selectUsers_rows (facade client session).catalog
      hFacadeRows]

/-
  The two backends list the same rows if they are answered
  with the same facts.
-/
theorem rows_agree
    (c : Cluster.Client)
    (client : Dashboard.Client)
    (session : String)
    (n n' : Network) :
    (∀ owner facts,
      AnsweredAlike Workspace.Facts.IsInObject
        Workspace.Facts.IsInItem facts
        (c.request? (Cluster.workspacesPath owner))
        (client.request? .getWorkspaces
          (.ofMembers [("userName", .ofText owner)])) n n' →
      WorkspacesAgree (direct c) (facade client session) owner
        facts n n') ∧
      ∀ facts,
        AnsweredAlike User.Facts.IsInObject
          User.Facts.IsInItem facts
          (c.request? Cluster.usersPath)
          (client.request? .getUsers Dashboard.emptyDocument)
          n n' →
        UsersAgree (direct c) (facade client session) facts
          n n' :=
  ⟨fun _ _ => workspacesAgree_of session,
    fun _ => usersAgree_of session⟩

end

------------------------------------------------------------
-- An empty phase
------------------------------------------------------------

/- A document with a list. -/
def listOf
    (items : List Json) : Json :=
  .ofMembers [("items", .array items)]

/- A network in which every request is answered with it. -/
def answering
    (items : List Json) : Network where
  answer := fun _ _ =>
    .answered
      { status := 200
        headers := []
        body := Bytes.ofText (listOf items).pretty
        isCut := false }
  sent := []

theorem delivers_answering
    (items : List Json)
    {q? : Option Http.Request}
    (hSent : q?.isSome = true) :
    (answering items).Delivers q?
      (Bytes.ofText (listOf items).pretty) := by
  rcases Option.isSome_iff_exists.mp hSent with ⟨q, rfl⟩
  exact
    ⟨q, rfl, _, rfl, ⟨Nat.le_refl 200, by simp⟩, rfl, rfl⟩

/- Facts in two networks that carry them. -/
theorem answeredAlike_answering
    {isObject isItem : α → Json → Prop}
    {toObject toItem : α → Json}
    (facts : List α)
    (q? q'? : Option Http.Request)
    (hObject : ∀ f, isObject f (toObject f))
    (hItem : ∀ f, isItem f (toItem f))
    (hSent : q?.isSome = true)
    (hSent' : q'?.isSome = true)
    (hTextual :
      (listOf (facts.map toObject)).isTextual = true)
    (hTextual' :
      (listOf (facts.map toItem)).isTextual = true)
    (hReadable :
      (listOf (facts.map toObject)).isReadable = true)
    (hDepth :
      (listOf (facts.map toObject)).depth ≤ Cluster.maxDepth) :
    AnsweredAlike isObject isItem facts q? q'?
      (answering (facts.map toObject))
      (answering (facts.map toItem)) := by
  constructor
  · refine
      ⟨_, delivers_answering _ hSent, _, [],
        facts.map toObject, ?_, hDepth, rfl, rfl, ?_⟩
    · unfold Json.parse?
      rw [Json.parse_pretty _ hTextual]
      simp only [hReadable]
      rfl
    · rw [List.forall₂_map_right_iff, List.forall₂_same]
      exact fun f _ => hObject f
  · refine
      ⟨_, delivers_answering _ hSent', _, facts.map toItem,
        Json.parse_pretty _ hTextual', Json.holds_present _,
        ?_⟩
    rw [List.forall₂_map_right_iff, List.forall₂_same]
    exact fun f _ => hItem f

/- A cluster. -/
def someCluster : Cluster.Client :=
  { address :=
      { scheme := some "https"
        authority := "cluster".toList
        path := []
        query := none }
    authorization := none
    roots := .system }

/- A workspace with an empty phase, and its owner. -/
def unphased : Workspace.Facts :=
  { name := some "dev"
    owner := some "ann"
    template := none
    phase := some ""
    mainUrl := none
    urls :=
      some
        { entries :=
            [("api", "https://api"), ("web", "https://web")]
          ascending := by decide } }

def ann : User.Facts :=
  { name := some "ann"
    displayName := none
    roles := some ["admin"]
    addons := some ["gpu"] }

theorem rows_agree_unphased :
    WorkspacesAgree (direct someCluster)
        (facade someDashboard "ann") "ann" [unphased]
        (answering [unphased.toObject])
        (answering [unphased.toItem]) ∧
      UsersAgree (direct someCluster)
        (facade someDashboard "ann") [ann]
        (answering [ann.toObject])
        (answering [ann.toItem]) := by
  have hWorkspaces :=
    answeredAlike_answering [unphased]
      (someCluster.request? (Cluster.workspacesPath "ann"))
      (someDashboard.request? .getWorkspaces
        (.ofMembers [("userName", .ofText "ann")]))
      Workspace.Facts.isInObject_toObject
      Workspace.Facts.isInItem_toItem
      (by decide) rfl rfl rfl rfl (by decide)
  have hUsers :=
    answeredAlike_answering [ann]
      (someCluster.request? Cluster.usersPath)
      (someDashboard.request? .getUsers
        Dashboard.emptyDocument)
      User.Facts.isInObject_toObject
      User.Facts.isInItem_toItem
      (by decide) rfl rfl rfl rfl (by decide)
  exact
    ⟨(rows_agree someCluster someDashboard "ann" _ _).1 _ _
        hWorkspaces,
      (rows_agree someCluster someDashboard "ann" _ _).2 _
        hUsers⟩

end Backend
end WorkspaceClient
