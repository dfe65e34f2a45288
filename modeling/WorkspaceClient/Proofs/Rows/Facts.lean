import WorkspaceClient.Cluster.Object
import WorkspaceClient.Proofs.Json.Sorting
import WorkspaceClient.Proofs.Output.Report

/-
  This file defines what can be known of a workspace and of
  a user, how an item of the Dashboard and an object of the
  cluster carry it, and which rows it stands for. An item is
  read as the row of what it carries.

  Key definitions include:
    * `UrlMap`
    * `UrlMap.IsIn`
    * `Cluster.Names`
    * `Workspace.Facts`
    * `Workspace.Facts.IsInItem`
    * `Workspace.Facts.IsInObject`
    * `Workspace.Facts.facadeRow`
    * `Workspace.Facts.directRow`
    * `User.Facts`
    * `User.Facts.IsInItem`
    * `User.Facts.IsInObject`
    * `User.Facts.row`

  Main declarations:
    * `UrlMap.sorted_of_isIn`
    * `Workspace.Facts.isInObject_toObject`
    * `Workspace.Facts.directRow_eq_iff`
    * `Workspace.Facts.decode_item`
    * `User.Facts.isInObject_toObject`
    * `User.Facts.decode_item`
-/

namespace WorkspaceClient

open Json (Holds HoldsIfPresent)

------------------------------------------------------------
-- URLs
------------------------------------------------------------

/- URLs under different names, in the order of the names. -/
structure UrlMap where
  entries : List (String × String)
  ascending : entries.Pairwise fun e e' => e.1 < e'.1

namespace UrlMap

/- The URLs, in the order of their names. -/
def urls
    (m : UrlMap) : List String :=
  m.entries.map (·.2)

/- The members of an object with these URLs. -/
def members
    (m : UrlMap) : List Json.Member :=
  m.entries.map fun e => (some e.1, .ofText e.2)

/- A value is an object with these URLs, in any order. -/
def IsIn
    (m : UrlMap)
    (v : Json) : Prop :=
  ∃ ms, v = .object ms ∧ ms.Perm m.members

theorem isSorted_members
    (m : UrlMap) :
    Json.IsSorted m.members := by
  unfold members
  constructor
  · rw [List.forall_mem_map]
    exact fun _ _ => rfl
  · rw [List.pairwise_map]
    exact m.ascending

/- The names ascend after the object was sorted. -/
theorem sorted_of_isIn
    {m : UrlMap}
    {v : Json}
    (hIn : m.IsIn v) :
    v.sorted = .object m.members := by
  rcases hIn with ⟨ms, rfl, hPerm⟩
  have hInside :
      m.members.map Json.Member.sorted = m.members := by
    unfold members
    rw [List.map_map]
    rfl
  have hSorted := hPerm.map Json.Member.sorted
  rw [hInside] at hSorted
  rw [Json.sorted_object,
    Json.collect_eq_of_perm m.isSorted_members hSorted]

theorem decode_members
    (m : UrlMap)
    (origin : Json.Origin) :
    Json.Decoder.values .string origin (.object m.members) =
      .ok m.entries := by
  unfold Json.Decoder.values members
  rw [Result.mapM_eq_ok_iff, List.forall₂_map_left_iff,
    List.forall₂_same]
  intro e _
  rfl

end UrlMap

------------------------------------------------------------
-- Metadata
------------------------------------------------------------

namespace Cluster

/- The metadata of an object gives it a name, or none. -/
def Names
    (v : Json)
    (name : Option String) : Prop :=
  ∃ ms metadata,
    v = .object ms ∧
      metadataOf? objectFields ms = some metadata ∧
      membersNamed "name" metadata =
        (name.map Json.ofText).toList

/- An object with a name, or with none, and other members. -/
def namedObject
    (name : Option String)
    (slots : List Json.Slot) : Json :=
  .object
    (Json.present slots
      ++ [(some "metadata",
        .object
          (Json.present [("name", name.map .ofText)]))])

theorem names_namedObject
    {name : Option String}
    {slots : List Json.Slot}
    (hOther :
      membersNamed "metadata" (Json.present slots) = []) :
    Names (namedObject name slots) name := by
  refine
    ⟨_, Json.present [("name", name.map .ofText)], rfl, ?_,
      ?_⟩
  · have hMembers :
        membersNamed "metadata"
            (Json.present slots
              ++ [(some "metadata",
                .object
                  (Json.present
                    [("name", name.map .ofText)]))]) =
          [.object
            (Json.present [("name", name.map .ofText)])] := by
      unfold membersNamed at hOther ⊢
      rw [List.filter_append, List.map_append, hOther]
      rfl
    unfold metadataOf?
    rw [hMembers]
    cases name <;> rfl
  · cases name <;> rfl

theorem holds_namedObject
    {name : Option String}
    {slots : List Json.Slot}
    (hOther : "metadata" ∉ slots.map Prod.fst) :
    (namedObject name slots).Holds slots := by
  refine ⟨_, rfl, _, .refl _, ?_⟩
  intro m hm
  rw [List.mem_singleton.mp hm]
  refine ⟨"metadata", rfl, hOther, ?_⟩
  cases name <;> rfl

/- An item of a list has its name and its sorted members. -/
theorem item?_of_names
    {v : Json}
    {name : Option String}
    (hNames : Names v name) :
    item? v =
      some { name := name.getD "", content := v.sorted } := by
  rcases hNames with ⟨ms, metadata, rfl, hMetadata, hName⟩
  have hText : metadataName metadata = name.getD "" := by
    rw [metadataName, hName]
    cases name <;> rfl
  unfold item?
  simp only
  rw [hMetadata, ← hText]
  rfl

end Cluster

------------------------------------------------------------
-- Workspaces
------------------------------------------------------------

namespace Workspace

/- What is known of a workspace, as far as it is known. -/
structure Facts where
  name : Option String
  owner : Option String
  template : Option String
  phase : Option String
  mainUrl : Option String
  urls : Option UrlMap

namespace Facts

variable (f : Facts)

/- The members of an item of the Dashboard. -/
def itemSlots : List Json.Slot :=
  [ ("name", f.name.map .ofText),
    ("ownerName", f.owner.map .ofText),
    ("template", f.template.map .ofText),
    ("phase", f.phase.map .ofText),
    ("mainUrl", f.mainUrl.map .ofText),
    ("urls", (f.urls.map UrlMap.urls).map .ofTexts) ]

/- An item of the Dashboard carries the facts. -/
def IsInItem
    (v : Json) : Prop :=
  v.Holds f.itemSlots

/- The members of the specification of an object. -/
def specSlots : List Json.Slot :=
  [ ("owner", f.owner.map .ofText),
    ("template", f.template.map .ofText) ]

/- The members of the status of an object. -/
def statusSlots
    (urls? : Option Json) : List Json.Slot :=
  [ ("phase", f.phase.map .ofText),
    ("mainUrl", f.mainUrl.map .ofText),
    ("urls", urls?) ]

/- An object of the cluster carries the facts. -/
def IsInObject
    (v : Json) : Prop :=
  ∃ spec? status? urls?,
    Cluster.Names v f.name ∧
      v.Holds [("spec", spec?), ("status", status?)] ∧
      HoldsIfPresent f.specSlots spec? ∧
      HoldsIfPresent (f.statusSlots urls?) status? ∧
      Option.Rel UrlMap.IsIn f.urls urls?

/- An item that carries the facts. -/
def toItem : Json :=
  .object (Json.present f.itemSlots)

/- An object that carries the facts. -/
def toObject : Json :=
  let urls? :=
    f.urls.map fun m => Json.object m.members
  let spec := Json.object (Json.present f.specSlots)
  let status :=
    Json.object (Json.present (f.statusSlots urls?))
  Cluster.namedObject f.name
    [("spec", some spec), ("status", some status)]

theorem isInItem_toItem :
    f.IsInItem f.toItem :=
  Json.holds_present f.itemSlots

theorem isInObject_toObject :
    f.IsInObject f.toObject := by
  refine
    ⟨_, _, _, Cluster.names_namedObject rfl,
      Cluster.holds_namedObject (by simp),
      Json.holds_present _, Json.holds_present _, ?_⟩
  cases f.urls with
  | none => exact .none
  | some m => exact .some ⟨_, rfl, .refl _⟩

/- The row of an item: an unknown phase is pending. -/
def facadeRow : Workspace :=
  { name := f.name.getD ""
    ownerName := f.owner.getD ""
    template := f.template.getD ""
    phase := f.phase.getD "Pending"
    mainUrl := f.mainUrl.getD ""
    urls := (f.urls.map UrlMap.urls).getD [] }

/- The row of an object: an empty phase is pending, too. -/
def directRow : Workspace :=
  { f.facadeRow with
    phase :=
      if f.phase = some "" then
        "Pending"
      else
        f.phase.getD "Pending" }

/- The rows differ in a phase that is known to be empty. -/
theorem directRow_of_empty
    (hEmpty : f.phase = some "") :
    f.facadeRow.phase = "" ∧
      f.directRow = { f.facadeRow with phase := "Pending" } := by
  unfold directRow facadeRow
  rw [hEmpty]
  exact ⟨rfl, rfl⟩

/- They only differ then. -/
theorem directRow_eq_iff :
    f.directRow = f.facadeRow ↔ f.phase ≠ some "" := by
  constructor
  · intro hEq hEmpty
    rcases f.directRow_of_empty hEmpty with ⟨hPhase, hRow⟩
    rw [← hEq, hRow] at hPhase
    exact absurd hPhase (by simp)
  · intro hPhase
    unfold directRow
    rw [if_neg hPhase]
    rfl

/- An item is read as the row of what it carries. -/
theorem decode_item
    {v : Json}
    (hItem : f.IsInItem v)
    (origin : Json.Origin) :
    shape.decode origin v = .ok f.facadeRow :=
  Json.Shape.decode_holds shape_isRegular rfl
    (shape_fills origin f.name f.owner f.template f.phase
      f.mainUrl (f.urls.map UrlMap.urls))
    hItem

end Facts
end Workspace

------------------------------------------------------------
-- Users
------------------------------------------------------------

namespace Cluster

/- A reference to a role by its name. -/
def IsRole
    (name : String)
    (v : Json) : Prop :=
  v.Holds [("name", some (.ofText name))]

/- A reference to an addon by the name of its template. -/
def IsAddon
    (name : String)
    (v : Json) : Prop :=
  ∃ ref,
    v.Holds [("template", some ref)] ∧
      ref.Holds [("name", some (.ofText name))]

/- An array has an item for each name. -/
def Lists
    {α : Type}
    (isItem : α → Json → Prop)
    (as : List α)
    (v : Json) : Prop :=
  ∃ items, v = .array items ∧ List.Forall₂ isItem as items

/- The references to a role and to an addon. -/
def roleObject
    (name : String) : Json :=
  .object (Json.present [("name", some (.ofText name))])

def addonObject
    (name : String) : Json :=
  .object
    (Json.present [("template", some (roleObject name))])

theorem isRole_roleObject
    (name : String) :
    IsRole name (roleObject name) :=
  Json.holds_present _

theorem isAddon_addonObject
    (name : String) :
    IsAddon name (addonObject name) :=
  ⟨_, Json.holds_present _, isRole_roleObject name⟩

theorem lists_map
    {α : Type}
    {isItem : α → Json → Prop}
    {toItem : α → Json}
    (h : ∀ a, isItem a (toItem a))
    {as : List α} :
    Lists isItem as (.array (as.map toItem)) := by
  refine ⟨_, rfl, ?_⟩
  rw [List.forall₂_map_right_iff, List.forall₂_same]
  exact fun a _ => h a

end Cluster

namespace User

/- What is known of a user, as far as it is known. -/
structure Facts where
  name : Option String
  displayName : Option String
  roles : Option (List String)
  addons : Option (List String)
  deriving DecidableEq, Repr

namespace Facts

variable (f : Facts)

/- The members of an item of the Dashboard. -/
def itemSlots : List Json.Slot :=
  [ ("name", f.name.map .ofText),
    ("displayName", f.displayName.map .ofText),
    ("roles", f.roles.map .ofTexts),
    ("addons", f.addons.map .ofTexts) ]

/- An item of the Dashboard carries the facts. -/
def IsInItem
    (v : Json) : Prop :=
  v.Holds f.itemSlots

/- The members of the specification of an object. -/
def specSlots
    (roles? addons? : Option Json) : List Json.Slot :=
  [ ("displayName", f.displayName.map .ofText),
    ("roles", roles?),
    ("addons", addons?) ]

/- An object of the cluster carries the facts. -/
def IsInObject
    (v : Json) : Prop :=
  ∃ spec? roles? addons?,
    Cluster.Names v f.name ∧
      v.Holds [("spec", spec?)] ∧
      HoldsIfPresent (f.specSlots roles? addons?) spec? ∧
      Option.Rel (Cluster.Lists Cluster.IsRole)
        f.roles roles? ∧
      Option.Rel (Cluster.Lists Cluster.IsAddon)
        f.addons addons?

/- An item that carries the facts. -/
def toItem : Json :=
  .object (Json.present f.itemSlots)

/- An object that carries the facts. -/
def toObject : Json :=
  let roles? :=
    f.roles.map fun names =>
      Json.array (names.map Cluster.roleObject)
  let addons? :=
    f.addons.map fun names =>
      Json.array (names.map Cluster.addonObject)
  let spec :=
    Json.object (Json.present (f.specSlots roles? addons?))
  Cluster.namedObject f.name [("spec", some spec)]

theorem isInItem_toItem :
    f.IsInItem f.toItem :=
  Json.holds_present f.itemSlots

theorem isInObject_toObject :
    f.IsInObject f.toObject := by
  refine
    ⟨_, _, _, Cluster.names_namedObject rfl,
      Cluster.holds_namedObject (by simp),
      Json.holds_present _, ?_, ?_⟩
  · cases f.roles with
    | none => exact .none
    | some names =>
        exact .some (Cluster.lists_map Cluster.isRole_roleObject)
  · cases f.addons with
    | none => exact .none
    | some names =>
        exact .some (Cluster.lists_map Cluster.isAddon_addonObject)

/- The row of an item, and of an object. -/
def row : User :=
  { name := f.name.getD ""
    displayName := f.displayName.getD ""
    roles := f.roles.getD []
    addons := f.addons.getD [] }

/- An item is read as the row of what it carries. -/
theorem decode_item
    {v : Json}
    (hItem : f.IsInItem v)
    (origin : Json.Origin) :
    shape.decode origin v = .ok f.row :=
  Json.Shape.decode_holds shape_isRegular rfl
    (shape_fills origin f.name f.displayName f.roles f.addons)
    hItem

end Facts
end User
end WorkspaceClient
