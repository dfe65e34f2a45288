import WorkspaceClient.Proofs.Rows.Agreement
import WorkspaceClient.Proofs.Rows.Lists

/-
  This file shows that a list call lists all items of an
  answer, in their order, or fails: it lists them if every
  item can be read, and else the failure tells of the first
  item that cannot.

  Key definitions include:
    * `ListsAll`
    * `Dashboard.HoldsItems`
    * `Dashboard.ReadsAll`
    * `Cluster.IsMalformed`
    * `Cluster.ReadsAll`
    * `Backend.ListsItems`

  Main declarations:
    * `Dashboard.readsAll_of`
    * `Cluster.IsObject.exists_decode_iff`
    * `Cluster.readsAll_of`
    * `Backend.lists_all`
-/

namespace WorkspaceClient

open Json (Member)

variable {α β γ : Type}

/-
  A list call succeeds where every item is read as a row,
  and then these are its rows, in the order of the items.
-/
structure ListsAll
    (IsRow : Json → γ → Prop)
    (items : List Json)
    (result : Except Failure (List γ)) : Prop where
  ok :
    ∀ rows,
      result = .ok rows ↔ List.Forall₂ IsRow items rows
  complete :
    (∃ rows, result = .ok rows) ↔
      ∀ v ∈ items, ∃ row, IsRow v row

theorem listsAll_of
    {IsRow : Json → γ → Prop}
    {items : List Json}
    {result : Except Failure (List γ)}
    (hOk :
      ∀ rows,
        result = .ok rows ↔ List.Forall₂ IsRow items rows) :
    ListsAll IsRow items result where
  ok := hOk
  complete := by
    simp only [hOk]
    exact Result.exists_forall₂_iff

------------------------------------------------------------
-- Answers of the Dashboard
------------------------------------------------------------

namespace Dashboard

/- A value of an answer holds these items. -/
inductive HoldsItems
    (items : List Json) : Json → Prop where
  | named
      {ms : List Member}
      (hNamed : ∀ m ∈ ms, m.1.isSome = true)
      (hItems :
        Cluster.membersNamed "items" ms = [.array items]) :
      HoldsItems items (.object ms)
  | absent
      {ms : List Member}
      (hNamed : ∀ m ∈ ms, m.1.isSome = true)
      (hItems : Cluster.membersNamed "items" ms = [])
      (hEmpty : items = []) :
      HoldsItems items (.object ms)
  -- a record may also be the array of its fields
  | ordered : HoldsItems items (.array [.array items])
  | empty
      (hEmpty : items = []) :
      HoldsItems items (.array [])

/- A body is an answer with these items. -/
def Answers
    (items : List Json)
    (body : Bytes) : Prop :=
  ∃ v,
    Json.parse body = { value := v, closed := true } ∧
      HoldsItems items v

/-
  All items of an answer are listed, or the call fails with
  what is wrong with the first that is no row.
-/
structure ReadsAll
    (procedure : Procedure)
    (shape : Json.Shape γ)
    (items : List Json)
    (result : Except Failure (List γ)) : Prop extends
    ListsAll
      (fun v row => shape.decode .document v = .ok row) items
      result where
  failed :
    ¬ (∀ v ∈ items, ∃ row,
        shape.decode .document v = .ok row) →
      ∃ before v after fault,
        items = before ++ v :: after ∧
        (∀ w ∈ before, ∃ row,
          shape.decode .document w = .ok row) ∧
        shape.decode .document v = .error fault ∧
        result =
          .error (.protocol
            (procedure.path ++ ": " ++ fault.message))

section

variable {shape : Json.Shape γ}
variable {items : List Json}

/- The items of a value are what is read of it. -/
theorem decode_holds
    {v : Json}
    (hHolds : HoldsItems items v)
    (hIntact : v.isIntact = true) :
    (itemsShape shape).decode .document v =
      items.mapM (shape.decode .document) := by
  have hKnown :
      ∀ {ms : List Member},
        v = .object ms →
        (∀ m ∈ ms, m.1.isSome = true) →
          ∀ m ∈ ms,
            m.1.isSome = true ∧ m.2.isIntact = true := by
    rintro ms rfl hNamed m hm
    rw [Json.isIntact, Json.intactMembers_iff] at hIntact
    exact ⟨hNamed m hm, hIntact m hm⟩
  cases hHolds with
  | named hNamed hItems =>
      change (itemsShape shape).readMembers _ _ _ _ = _
      rw [Json.Shape.readMembers_single rfl
        (hKnown rfl hNamed) hItems]
      exact id_map _
  | absent hNamed hItems hEmpty =>
      subst hEmpty
      change (itemsShape shape).readMembers _ _ _ _ = _
      rw [Json.Shape.readMembers_absent rfl
        (hKnown rfl hNamed) hItems]
      rfl
  | ordered =>
      change
        ((fun rows => rows) <$>
            items.mapM (shape.decode .document)) >>=
            (fun rows => .ok rows) = _
      rw [id_map']
      exact bind_pure _
  | empty hEmpty =>
      subst hEmpty
      rfl

/- An item as a row, or the failure that names its fault. -/
def toRow
    (procedure : Procedure)
    (shape : Json.Shape γ)
    (v : Json) : Except Failure γ :=
  (shape.decode .document v).mapError fun fault =>
    .protocol (procedure.path ++ ": " ++ fault.message)

theorem toRow_eq_ok_iff
    {procedure : Procedure}
    {v : Json}
    {row : γ} :
    toRow procedure shape v = .ok row ↔
      shape.decode .document v = .ok row := by
  unfold toRow
  cases shape.decode .document v <;> simp [Except.mapError]

/- A call that is answered makes a row of every item. -/
theorem call_eq_mapM
    {client : Client}
    {procedure : Procedure}
    {document : Json}
    {n : Network}
    {body : Bytes}
    (hDelivers :
      n.Delivers (client.request? procedure document) body)
    (hAnswers : Answers items body) :
    (Task.mapFailure Failure.classify
      (client.call procedure document
          (itemsShape shape).decode
        >>= fun answer => pure answer.1) n).1 =
      items.mapM (toRow procedure shape) := by
  rcases hAnswers with ⟨v, hParse, hHolds⟩
  rcases Json.parse_eq_iff.mp hParse with ⟨rest, hSpells, _⟩
  rcases hDelivers with ⟨q, hRequest, hReply⟩
  rw [Backend.call_eq_conclusion hRequest,
    Backend.conclusion_delivers procedure _ hReply,
    Json.Decoder.ofBytes_closed hParse,
    decode_holds hHolds hSpells.isIntact]
  unfold toRow
  rw [← Result.mapM_mapError]
  cases items.mapM (shape.decode .document) <;> rfl

theorem readsAll_of
    {procedure : Procedure}
    {result : Except Failure (List γ)}
    (hResult :
      result = items.mapM (toRow procedure shape)) :
    ReadsAll procedure shape items result := by
  subst hResult
  have hOk :
      ∀ rows,
        items.mapM (toRow procedure shape) = .ok rows ↔
          List.Forall₂
            (fun v row => shape.decode .document v = .ok row)
            items rows := by
    intro rows
    simp only [Result.mapM_eq_ok_iff, toRow_eq_ok_iff]
  refine { listsAll_of hOk with failed := ?_ }
  intro hSome
  rcases Result.exists_first_of_not_ok hSome with
    ⟨before, v, after, fault, rfl, hBefore, hFault⟩
  refine
    ⟨before, v, after, fault, rfl, hBefore, hFault, ?_⟩
  refine Result.mapM_eq_error ?_ ?_
  · intro w hw
    rcases hBefore w hw with ⟨row, hRow⟩
    exact ⟨row, toRow_eq_ok_iff.mpr hRow⟩
  · unfold toRow
    rw [hFault]
    rfl

end

end Dashboard

------------------------------------------------------------
-- Objects of the cluster
------------------------------------------------------------

namespace Cluster

section

variable {items : List Json}
variable {shape : Json.Shape β}

/-
  The last member with the name of a field, which is the one
  that counts, is nothing that the field can be read from.
-/
def IsMalformed
    (shape : Json.Shape β)
    (v : Json) : Prop :=
  ∃ ms f w,
    v = .object ms ∧
    f ∈ shape.fields ∧
    (membersNamed f.name ms).getLast? = some w ∧
    ¬ f.Takes .tree w.sorted

/- An object is read unless a field of it is malformed. -/
theorem IsObject.exists_decode_iff
    (hDistinct : shape.names.Nodup)
    (hUniform : ∀ f ∈ shape.fields, f.IsUniform)
    {v : Json}
    {item : Item}
    (hObject : IsObject v item) :
    (∃ o, shape.decode .tree item.content = .ok o) ↔
      ¬ IsMalformed shape v := by
  have hRead := hObject.read
  cases v with
  | object ms =>
      rcases Option.bind_eq_some_iff.mp hRead with
        ⟨metadata, _, hItem⟩
      cases hItem
      have hKnown :
          ∀ m ∈ ms,
            m.1.isSome = true ∧ m.2.isIntact = true := by
        intro m hm
        have hReadable :=
          Json.readableMembers_iff.mp hObject.fits.1 m hm
        exact
          ⟨hReadable.1,
            Json.isIntact_of_isReadable _ hReadable.2⟩
      rw [exists_decode_sorted_iff hDistinct hUniform hKnown]
      constructor
      · rintro hTakes ⟨_, f, w, ⟨rfl⟩, hf, hLast, hNot⟩
        exact hNot (hTakes f hf w hLast)
      · intro hWell f hf w hLast
        by_contra hNot
        exact hWell ⟨ms, f, w, rfl, hf, hLast, hNot⟩
  | _ => simp [item?] at hRead

------------------------------------------------------------
-- Rows of objects
------------------------------------------------------------

variable {row : β → String → γ}

/- A value is an object, and this is its row. -/
def IsRow
    (shape : Json.Shape β)
    (row : β → String → γ)
    (v : Json)
    (r : γ) : Prop :=
  ∃ item o,
    IsObject v item ∧
    shape.decode .tree item.content = .ok o ∧
    row o item.name = r

/-
  All items of a list are shown, or the call fails. If all
  items are objects, the failure names the first that is
  malformed, and else the list was not read at all.
-/
structure ReadsAll
    (shape : Json.Shape β)
    (row : β → String → γ)
    (items : List Json)
    (result : Except Failure (List γ)) : Prop extends
    ListsAll (IsRow shape row) items result where
  decodes :
    ∀ v,
      (∃ r, IsRow shape row v r) ↔
        (∃ item, IsObject v item) ∧ ¬ IsMalformed shape v
  malformed :
    (∀ v ∈ items, ∃ item, IsObject v item) →
    (∃ v ∈ items, IsMalformed shape v) →
      ∃ before v after item fault,
        items = before ++ v :: after ∧
        (∀ w ∈ before, ¬ IsMalformed shape w) ∧
        IsMalformed shape v ∧
        IsObject v item ∧
        shape.decode .tree item.content = .error fault ∧
        result =
          .error (.protocol
            ("cluster API: object '" ++ item.name ++ "': "
              ++ fault.message))
  unread :
    ¬ (∀ v ∈ items, ∃ item, IsObject v item) →
      ∃ text, result = .error (.transport text)

/- The row of an object of a list, if it can be read. -/
def toRow
    (shape : Json.Shape β)
    (row : β → String → γ)
    (item : Item) : Except Failure γ := do
  let (name, o) ← decodeItem shape item
  return row o name

theorem toRow_eq
    (item : Item) :
    toRow shape row item =
      match shape.decode .tree item.content with
      | .ok o => .ok (row o item.name)
      | .error fault =>
          .error (.protocol
            ("cluster API: object '" ++ item.name ++ "': "
              ++ fault.message)) := by
  unfold toRow decodeItem
  cases shape.decode .tree item.content <;> rfl

theorem toRow_eq_ok_iff
    {item : Item}
    {r : γ} :
    toRow shape row item = .ok r ↔
      ∃ o,
        shape.decode .tree item.content = .ok o ∧
          row o item.name = r := by
  rw [toRow_eq]
  cases shape.decode .tree item.content <;> simp

theorem toRow_eq_error_iff
    {item : Item}
    {failure : Failure} :
    toRow shape row item = .error failure ↔
      ∃ fault,
        shape.decode .tree item.content = .error fault ∧
          failure =
            .protocol
              ("cluster API: object '" ++ item.name ++ "': "
                ++ fault.message) := by
  rw [toRow_eq]
  cases shape.decode .tree item.content <;> simp [eq_comm]

/- The row of a value, which has to be an object of a list. -/
def objectRow
    (shape : Json.Shape β)
    (row : β → String → γ)
    (v : Json) : Except Failure γ :=
  match item? v with
  | some item => toRow shape row item
  | none =>
      .error (troubled "Error deserializing response"
        "not a list of objects")

theorem IsObject.objectRow_eq
    {v : Json}
    {item : Item}
    (hObject : IsObject v item) :
    objectRow shape row v = toRow shape row item := by
  unfold objectRow
  rw [hObject.read]

theorem isRow_iff
    {v : Json}
    {r : γ} :
    IsRow shape row v r ↔
      (∃ item, IsObject v item) ∧
        objectRow shape row v = .ok r := by
  constructor
  · rintro ⟨item, o, hObject, hDecode, hRow⟩
    refine ⟨⟨item, hObject⟩, ?_⟩
    rw [hObject.objectRow_eq, toRow_eq_ok_iff]
    exact ⟨o, hDecode, hRow⟩
  · rintro ⟨⟨item, hObject⟩, hRow⟩
    rw [hObject.objectRow_eq, toRow_eq_ok_iff] at hRow
    rcases hRow with ⟨o, hDecode, hRow⟩
    exact ⟨item, o, hObject, hDecode, hRow⟩

theorem exists_isRow_iff
    (hDistinct : shape.names.Nodup)
    (hUniform : ∀ f ∈ shape.fields, f.IsUniform)
    (v : Json) :
    (∃ r, IsRow shape row v r) ↔
      (∃ item, IsObject v item) ∧ ¬ IsMalformed shape v := by
  constructor
  · rintro ⟨r, item, o, hObject, hDecode, _⟩
    exact
      ⟨⟨item, hObject⟩,
        (hObject.exists_decode_iff hDistinct hUniform).mp
          ⟨o, hDecode⟩⟩
  · rintro ⟨⟨item, hObject⟩, hWell⟩
    rcases (hObject.exists_decode_iff hDistinct hUniform).mpr
        hWell with
      ⟨o, hDecode⟩
    exact ⟨_, item, o, hObject, hDecode, rfl⟩

/- If all items are objects, a row is made of each. -/
structure MakesRows
    (shape : Json.Shape β)
    (row : β → String → γ)
    (items : List Json)
    (result : Except Failure (List γ)) : Prop where
  rows :
    (∀ v ∈ items, ∃ item, IsObject v item) →
      result = items.mapM (objectRow shape row)
  none :
    ¬ (∀ v ∈ items, ∃ item, IsObject v item) →
      ∃ text, result = .error (.transport text)

section

variable {result : Except Failure (List γ)}

theorem MakesRows.ok
    (hRows : MakesRows shape row items result)
    (rows : List γ) :
    result = .ok rows ↔
      List.Forall₂ (IsRow shape row) items rows := by
  have hEach :
      IsRow shape row = fun v r =>
        (∃ item, IsObject v item) ∧
          objectRow shape row v = .ok r := by
    funext v r
    exact propext isRow_iff
  rw [hEach, List.forall₂_and_left]
  by_cases hObjects : ∀ v ∈ items, ∃ item, IsObject v item
  · rw [hRows.rows hObjects, Result.mapM_eq_ok_iff]
    exact (and_iff_right hObjects).symm
  · rcases hRows.none hObjects with ⟨text, hResult⟩
    rw [hResult]
    simp [hObjects]

/- Of several malformed objects, the first is named. -/
theorem MakesRows.malformed
    (hDistinct : shape.names.Nodup)
    (hUniform : ∀ f ∈ shape.fields, f.IsUniform)
    (hRows : MakesRows shape row items result)
    (hObjects : ∀ v ∈ items, ∃ item, IsObject v item)
    (hSome : ∃ v ∈ items, IsMalformed shape v) :
    ∃ before v after item fault,
      items = before ++ v :: after ∧
      (∀ w ∈ before, ¬ IsMalformed shape w) ∧
      IsMalformed shape v ∧
      IsObject v item ∧
      shape.decode .tree item.content = .error fault ∧
      result =
        .error (.protocol
          ("cluster API: object '" ++ item.name ++ "': "
            ++ fault.message)) := by
  have hRow :
      ∀ v ∈ items,
        (∃ r, objectRow shape row v = .ok r) ↔
          ¬ IsMalformed shape v := by
    intro v hv
    have hDecodes :
        (∃ r, IsRow shape row v r) ↔ _ :=
      exists_isRow_iff hDistinct hUniform v
    simp only [isRow_iff, exists_and_left] at hDecodes
    simpa only [hObjects v hv, true_and] using hDecodes
  have hNot :
      ¬ ∀ v ∈ items, ∃ r, objectRow shape row v = .ok r := by
    rcases hSome with ⟨bad, hBad, hMalformed⟩
    intro hAll
    exact (hRow bad hBad).mp (hAll bad hBad) hMalformed
  rcases Result.exists_first_of_not_ok hNot with
    ⟨before, v, after, failure, rfl, hBefore, hFailure⟩
  rcases hObjects v (by simp) with ⟨item, hObject⟩
  have hFault := hFailure
  rw [hObject.objectRow_eq, toRow_eq_error_iff] at hFault
  rcases hFault with ⟨fault, hDecode, rfl⟩
  refine
    ⟨before, v, after, item, fault, rfl, ?_, ?_, hObject,
      hDecode, ?_⟩
  · intro w hw
    exact (hRow w (List.mem_append_left _ hw)).mp (hBefore w hw)
  · by_contra hWell
    rcases (hRow v (by simp)).mpr hWell with ⟨r, hOk⟩
    rw [hFailure] at hOk
    cases hOk
  · rw [hRows.rows hObjects]
    exact Result.mapM_eq_error hBefore hFailure

theorem readsAll_of
    (hDistinct : shape.names.Nodup)
    (hUniform : ∀ f ∈ shape.fields, f.IsUniform)
    (hRows : MakesRows shape row items result) :
    ReadsAll shape row items result :=
  { listsAll_of hRows.ok with
    decodes := exists_isRow_iff hDistinct hUniform
    malformed := hRows.malformed hDistinct hUniform
    unread := hRows.none }

end

theorem mapM_toRow_eq
    {read : List Item}
    (hRead : List.Forall₂ IsObject items read) :
    read.mapM (toRow shape row) =
      items.mapM (objectRow shape row) := by
  induction hRead with
  | nil => rfl
  | cons hObject _ ih =>
      rw [List.mapM_cons, List.mapM_cons, ih,
        hObject.objectRow_eq]

/- What is made of a body that is delivered. -/
theorem makesRows_of
    {c : Client}
    {n : Network}
    {path : String}
    {body : Bytes}
    (hDelivers : n.Delivers (c.request? path) body)
    (hAnswers : Answers items body)
    (what : String) :
    MakesRows shape row items
      ((c.items path what >>= fun items =>
        .ofExcept (items.mapM (toRow shape row))) n).1 := by
  have hItems := Client.items_delivered hDelivers what
  constructor
  · intro hObjects
    rcases Result.exists_forall₂_iff.mpr hObjects with
      ⟨read, hRead⟩
    have hList := (readList?_eq_some_iff hAnswers).mpr hRead
    have hText := toText?_ne_none_of_objects hAnswers hObjects
    rcases Option.ne_none_iff_exists'.mp hText with
      ⟨text, hText⟩
    rw [hText, hList] at hItems
    rcases Task.exists_bind_fst hItems
        fun items => .ofExcept
          (items.mapM (toRow shape row)) with
      ⟨n', hBind⟩
    rw [hBind, Task.ofExcept_eq, mapM_toRow_eq hRead]
  · intro hNone
    cases hText : Bytes.toText? body with
    | none =>
        rw [hText] at hItems
        exact ⟨_, Task.bind_fst_error hItems _⟩
    | some text =>
        cases hList : readList? body with
        | some read =>
            rw [readList?_eq_some_iff hAnswers] at hList
            exact
              absurd (Result.exists_forall₂_iff.mp ⟨_, hList⟩)
                hNone
        | none =>
            rw [hText, hList] at hItems
            exact ⟨_, Task.bind_fst_error hItems _⟩

end

end Cluster

------------------------------------------------------------
-- Both backends
------------------------------------------------------------

namespace Backend

/-
  In this network, each list call of both backends lists all
  items of the answer that is delivered to it, or fails.
-/
structure ListsItems
    (c : Cluster.Client)
    (client : Dashboard.Client)
    (session : String)
    (n : Network) : Prop where
  direct_workspaces :
    ∀ owner items body,
      n.Delivers (c.request? (Cluster.workspacesPath owner))
        body →
      Cluster.Answers items body →
        Cluster.ReadsAll Cluster.workspaceShape
          Cluster.WorkspaceObject.row items
          ((direct c).workspaces owner n).1
  direct_users :
    ∀ items body,
      n.Delivers (c.request? Cluster.usersPath) body →
      Cluster.Answers items body →
        Cluster.ReadsAll Cluster.userShape
          Cluster.UserObject.row items ((direct c).users n).1
  facade_workspaces :
    ∀ owner items body,
      n.Delivers
        (client.request? .getWorkspaces
          (.ofMembers [("userName", .ofText owner)])) body →
      Dashboard.Answers items body →
        Dashboard.ReadsAll .getWorkspaces Workspace.shape
          items ((facade client session).workspaces owner n).1
  facade_users :
    ∀ items body,
      n.Delivers
        (client.request? .getUsers Dashboard.emptyDocument)
        body →
      Dashboard.Answers items body →
        Dashboard.ReadsAll .getUsers User.shape items
          ((facade client session).users n).1

theorem uniform_workspaceShape :
    ∀ f ∈ Cluster.workspaceShape.fields, f.IsUniform := by
  simp only [Cluster.workspaceShape, List.forall_mem_cons]
  exact
    ⟨Json.Field.isUniform_of _ _ _,
      Json.Field.isUniform_of _ _ _, by simp⟩

theorem uniform_userShape :
    ∀ f ∈ Cluster.userShape.fields, f.IsUniform := by
  simp only [Cluster.userShape, List.forall_mem_cons]
  exact ⟨Json.Field.isUniform_of _ _ _, by simp⟩

/- No list is shown in part. -/
theorem lists_all
    (c : Cluster.Client)
    (client : Dashboard.Client)
    (session : String)
    (n : Network) :
    ListsItems c client session n where
  direct_workspaces := by
    intro owner items body hDelivers hAnswers
    exact
      Cluster.readsAll_of (by decide) uniform_workspaceShape
        (Cluster.makesRows_of hDelivers hAnswers _)
  direct_users := by
    intro items body hDelivers hAnswers
    exact
      Cluster.readsAll_of (by decide) uniform_userShape
        (Cluster.makesRows_of hDelivers hAnswers _)
  facade_workspaces := by
    intro owner items body hDelivers hAnswers
    exact
      Dashboard.readsAll_of
        (Dashboard.call_eq_mapM hDelivers hAnswers)
  facade_users := by
    intro items body hDelivers hAnswers
    exact
      Dashboard.readsAll_of
        (Dashboard.call_eq_mapM hDelivers hAnswers)

------------------------------------------------------------
-- An item without types
------------------------------------------------------------

section

variable {items : List Json}

/- A document with a list is an answer of both servers. -/
theorem cluster_answers_listOf
    (hTextual : (listOf items).isTextual = true) :
    Cluster.Answers items
      (Bytes.ofText (listOf items).pretty) := by
  refine
    ⟨_, Json.parse_pretty _ hTextual, ⟨_, rfl⟩, .inl rfl, ?_⟩
  intro m hm hOther
  have hItems := List.mem_singleton.mp hm
  exact absurd (congrArg Prod.fst hItems) hOther

theorem dashboard_answers_listOf
    (hTextual : (listOf items).isTextual = true) :
    Dashboard.Answers items
      (Bytes.ofText (listOf items).pretty) :=
  ⟨_, Json.parse_pretty _ hTextual, .named (by simp) rfl⟩

end

/- An item without facts. -/
def bare : Json :=
  .ofMembers
    [("metadata", .ofMembers [("name", .ofText "dev")])]

/- An item whose facts have the wrong type. -/
def untyped : Json :=
  .ofMembers
    [ ("metadata", .ofMembers [("name", .ofText "web")]),
      ("name", .null),
      ("spec", .null) ]

theorem isObject_untyped :
    ∀ v ∈ [bare, untyped], ∃ item, Cluster.IsObject v item := by
  rw [List.forall_mem_cons, List.forall_mem_singleton]
  exact
    ⟨⟨_, ⟨rfl, by decide⟩, rfl⟩, ⟨_, ⟨rfl, by decide⟩, rfl⟩⟩

theorem isMalformed_untyped
    {shape : Json.Shape α}
    {specShape : Json.Shape β}
    {set : α → β → α}
    (hField :
      .of "spec" specShape.decode set ∈ shape.fields) :
    Cluster.IsMalformed shape untyped := by
  refine ⟨_, _, .null, rfl, hField, rfl, ?_⟩
  intro hTakes
  rcases hTakes shape.initial with ⟨a, hRead⟩
  rcases Json.Field.of_read_eq_ok_iff.mp hRead with
    ⟨b, hDecode, _⟩
  cases hDecode

theorem not_isMalformed_bare
    {shape : Json.Shape α}
    (hNames : "metadata" ∉ shape.names) :
    ¬ Cluster.IsMalformed shape bare := by
  rintro ⟨ms, f, w, hBare, hf, hLast, _⟩
  cases hBare
  have hMem :=
    Cluster.mem_membersNamed_iff.mp (List.mem_of_getLast? hLast)
  have hName : some f.name = some "metadata" :=
    congrArg Prod.fst (List.mem_singleton.mp hMem)
  apply hNames
  rw [← Option.some.inj hName]
  exact List.mem_map_of_mem hf

/- What is wrong is only ever wrong with the second item. -/
theorem eq_untyped_of_first
    {before after : List Json}
    {v : Json}
    (hItems : [bare, untyped] = before ++ v :: after)
    (hOther : v ≠ bare) :
    v = untyped := by
  rcases before with _ | ⟨_, _ | ⟨_, _⟩⟩
  · cases hItems
    exact absurd rfl hOther
  · cases hItems
    rfl
  · simp at hItems

section

variable {result : Except Failure (List γ)}
variable {fault : Json.Fault}

/- A list call of the cluster tells of the second item. -/
theorem eq_error_of_cluster_readsAll
    {shape : Json.Shape α}
    {specShape : Json.Shape β}
    {set : α → β → α}
    {row : α → String → γ}
    {item : Cluster.Item}
    (hReads :
      Cluster.ReadsAll shape row [bare, untyped] result)
    (hField :
      .of "spec" specShape.decode set ∈ shape.fields)
    (hNames : "metadata" ∉ shape.names)
    (hItem : Cluster.item? untyped = some item)
    (hFault :
      shape.decode .tree item.content = .error fault) :
    result =
      .error (.protocol
        ("cluster API: object '" ++ item.name ++ "': "
          ++ fault.message)) := by
  rcases hReads.malformed isObject_untyped
      ⟨untyped, by simp, isMalformed_untyped hField⟩ with
    ⟨_, v, _, item', fault', hItems, -, hBad, hObject, hTold,
      hResult⟩
  have hFirst : v ≠ bare := by
    rintro rfl
    exact not_isMalformed_bare hNames hBad
  cases eq_untyped_of_first hItems hFirst
  have hSame : item' = item :=
    Option.some.inj (hObject.read.symm.trans hItem)
  subst hSame
  rw [hTold] at hFault
  cases hFault
  exact hResult

/- So does a list call of the Dashboard. -/
theorem eq_error_of_dashboard_readsAll
    {procedure : Dashboard.Procedure}
    {shape : Json.Shape γ}
    {row : γ}
    (hReads :
      Dashboard.ReadsAll procedure shape [bare, untyped]
        result)
    (hBare : shape.decode .document bare = .ok row)
    (hFault :
      shape.decode .document untyped = .error fault) :
    result =
      .error (.protocol
        (procedure.path ++ ": " ++ fault.message)) := by
  have hNot :
      ¬ ∀ v ∈ [bare, untyped], ∃ row,
        shape.decode .document v = .ok row := by
    intro hRows
    rcases hRows untyped (by simp) with ⟨row, hRow⟩
    rw [hFault] at hRow
    cases hRow
  rcases hReads.failed hNot with
    ⟨_, v, _, fault', hItems, -, hTold, hResult⟩
  have hFirst : v ≠ bare := by
    rintro rfl
    rw [hBare] at hTold
    cases hTold
  cases eq_untyped_of_first hItems hFirst
  rw [hTold] at hFault
  cases hFault
  exact hResult

end

/- The failures tell of the second item, and name it. -/
theorem lists_all_untyped :
    ((direct someCluster).workspaces "ann"
          (answering [bare, untyped])).1 =
        .error (.protocol
          ("cluster API: object 'web': invalid type: null, "
            ++ "expected struct WorkspaceSpec")) ∧
      ((direct someCluster).users
          (answering [bare, untyped])).1 =
        .error (.protocol
          ("cluster API: object 'web': invalid type: null, "
            ++ "expected struct UserSpec")) ∧
      ((facade someDashboard "ann").workspaces "ann"
          (answering [bare, untyped])).1 =
        .error (.protocol
          ("dashboard.v1alpha1.WorkspaceService/GetWorkspaces: "
            ++ "invalid type: null, expected a string")) ∧
      ((facade someDashboard "ann").users
          (answering [bare, untyped])).1 =
        .error (.protocol
          ("dashboard.v1alpha1.UserService/GetUsers: "
            ++ "invalid type: null, expected a string")) := by
  have hLists :=
    lists_all someCluster someDashboard "ann"
      (answering [bare, untyped])
  have hTextual :
      (listOf [bare, untyped]).isTextual = true := rfl
  have hList := cluster_answers_listOf hTextual
  have hAnswer := dashboard_answers_listOf hTextual
  exact
    ⟨eq_error_of_cluster_readsAll
        (hLists.direct_workspaces "ann" _ _
          (delivers_answering _ (by decide)) hList)
        List.mem_cons_self (by decide) rfl rfl,
      eq_error_of_cluster_readsAll
        (hLists.direct_users _ _
          (delivers_answering _ (by decide)) hList)
        List.mem_cons_self (by decide) rfl rfl,
      eq_error_of_dashboard_readsAll
        (hLists.facade_workspaces "ann" _ _
          (delivers_answering _ rfl) hAnswer)
        rfl rfl,
      eq_error_of_dashboard_readsAll
        (hLists.facade_users _ _
          (delivers_answering _ rfl) hAnswer)
        rfl rfl⟩

end Backend
end WorkspaceClient
