import WorkspaceClient.Proofs.Rows.Facts

/-
  This file shows that an object of the cluster is read as
  the row of what it carries, whatever the order of members,
  and whichever of them are absent.

  Key definitions include:
    * `Cluster.ReadsAs`

  Main declarations:
    * `Workspace.Facts.readsAs`
    * `User.Facts.readsAs`
-/

namespace WorkspaceClient

open Json (HoldsIfPresent)

------------------------------------------------------------
-- Shapes
------------------------------------------------------------

namespace Cluster

theorem workspaceSpecShape_isRegular :
    workspaceSpecShape.IsRegular := by
  refine ⟨by decide, ?_⟩
  simp only [Json.Shape.Commutes, workspaceSpecShape,
    List.pairwise_cons, List.forall_mem_cons,
    List.not_mem_nil, false_implies, implies_true,
    List.Pairwise.nil, and_true]
  exact Json.Field.commutes_of fun _ _ _ => rfl

theorem workspaceStatusShape_isRegular :
    workspaceStatusShape.IsRegular := by
  refine ⟨by decide, ?_⟩
  simp only [Json.Shape.Commutes, workspaceStatusShape,
    List.pairwise_cons, List.forall_mem_cons,
    List.not_mem_nil, false_implies, implies_true,
    List.Pairwise.nil, and_true]
  and_intros
  all_goals exact Json.Field.commutes_of fun _ _ _ => rfl

theorem workspaceShape_isRegular :
    workspaceShape.IsRegular := by
  refine ⟨by decide, ?_⟩
  simp only [Json.Shape.Commutes, workspaceShape,
    List.pairwise_cons, List.forall_mem_cons,
    List.not_mem_nil, false_implies, implies_true,
    List.Pairwise.nil, and_true]
  exact Json.Field.commutes_of fun _ _ _ => rfl

theorem userSpecShape_isRegular :
    userSpecShape.IsRegular := by
  refine ⟨by decide, ?_⟩
  simp only [Json.Shape.Commutes, userSpecShape,
    List.pairwise_cons, List.forall_mem_cons,
    List.not_mem_nil, false_implies, implies_true,
    List.Pairwise.nil, and_true]
  and_intros
  all_goals exact Json.Field.commutes_of fun _ _ _ => rfl

theorem userShape_isRegular :
    userShape.IsRegular :=
  Json.Shape.isRegular_of_one rfl

theorem nameRefShape_isRegular :
    nameRefShape.IsRegular :=
  Json.Shape.isRegular_of_one rfl

theorem addonRefShape_isRegular :
    addonRefShape.IsRegular :=
  Json.Shape.isRegular_of_one rfl

------------------------------------------------------------
-- Objects
------------------------------------------------------------

/- An object is read as a name and what it holds. -/
def ReadsAs
    {α : Type}
    (shape : Json.Shape α)
    (v : Json)
    (name : String)
    (a : α) : Prop :=
  ∃ item,
    item? v = some item ∧
      decodeItem shape item = .ok (name, a)

theorem readsAs_of
    {α : Type}
    {shape : Json.Shape α}
    {v : Json}
    {name : Option String}
    {a : α}
    (hNames : Names v name)
    (hContent : shape.decode .tree v.sorted = .ok a) :
    ReadsAs shape v (name.getD "") a := by
  refine ⟨_, item?_of_names hNames, ?_⟩
  rw [decodeItem, hContent]

end Cluster

------------------------------------------------------------
-- Workspaces
------------------------------------------------------------

namespace Workspace.Facts

variable (f : Facts)

/- The object that the facts are read as. -/
def object : Cluster.WorkspaceObject :=
  { spec :=
      { owner := f.owner.getD ""
        template := f.template.getD "" }
    status :=
      { phase := f.phase.getD ""
        mainUrl := f.mainUrl.getD ""
        urls := (f.urls.map UrlMap.entries).getD [] } }

theorem row_object :
    f.object.row (f.name.getD "") = f.directRow := by
  rcases f with ⟨name, owner, template, phase, mainUrl, urls⟩
  have hPhase :
      (if (phase.getD "").isEmpty then
          initial.phase
        else
          phase.getD "") =
        if phase = some "" then
          "Pending"
        else
          phase.getD "Pending" := by
    cases phase with
    | none => rfl
    | some s => simp [initial]
  have hUrls :
      ((urls.map UrlMap.entries).getD []).map (·.2) =
        (urls.map UrlMap.urls).getD [] := by
    cases urls <;> rfl
  unfold Cluster.WorkspaceObject.row directRow facadeRow object
  simp only [hPhase, hUrls]

theorem fills_spec
    (origin : Json.Origin) :
    Cluster.workspaceSpecShape.Fills origin
      Cluster.workspaceSpecShape.initial
      (f.specSlots.map Json.Slot.sorted) f.object.spec := by
  simp only [specSlots, List.map_cons, List.map_nil,
    Json.Slot.sorted, Json.map_sorted_ofText]
  refine .ofText "" rfl rfl ?_
  exact .ofText "" rfl rfl .done

theorem fills_status
    {urls? : Option Json}
    (hUrls : Option.Rel UrlMap.IsIn f.urls urls?)
    (origin : Json.Origin) :
    Cluster.workspaceStatusShape.Fills origin
      Cluster.workspaceStatusShape.initial
      ((f.statusSlots urls?).map Json.Slot.sorted)
      f.object.status := by
  simp only [statusSlots, List.map_cons, List.map_nil,
    Json.Slot.sorted, Json.map_sorted_ofText]
  refine .ofText "" rfl rfl ?_
  refine .ofText "" rfl rfl ?_
  refine .ofRel f.object.status.urls rfl hUrls ?_ ?_ .done
  · intro m v hMap hIn
    unfold object
    rw [hMap, UrlMap.sorted_of_isIn hIn]
    exact m.decode_members origin
  · intro hNone
    unfold object
    rw [hNone]
    rfl

/- An object is read as the row of what it carries. -/
theorem readsAs
    {v : Json}
    (hObject : f.IsInObject v) :
    Cluster.ReadsAs Cluster.workspaceShape v
      (f.name.getD "") f.object := by
  rcases hObject with
    ⟨spec?, status?, urls?, hNames, hHolds, hSpec, hStatus,
      hUrls⟩
  apply Cluster.readsAs_of hNames
  refine Json.Shape.decode_sorted
    Cluster.workspaceShape_isRegular rfl ?_ hHolds
  refine .nested rfl rfl
    Cluster.workspaceSpecShape_isRegular rfl
    (f.fills_spec .tree)
    (hSpec.sorted
      Cluster.workspaceSpecShape_isRegular.distinct) ?_
  exact .nested rfl rfl
    Cluster.workspaceStatusShape_isRegular rfl
    (f.fills_status hUrls .tree)
    (hStatus.sorted
      Cluster.workspaceStatusShape_isRegular.distinct) .done

end Workspace.Facts

------------------------------------------------------------
-- Users
------------------------------------------------------------

namespace Cluster

theorem decode_isRole
    {name : String}
    {v : Json}
    (hRole : IsRole name v) :
    nameRefShape.decode .tree v.sorted = .ok name := by
  refine Json.Shape.decode_sorted nameRefShape_isRegular rfl
    ?_ hRole
  exact .filled rfl rfl .done

theorem decode_isAddon
    {name : String}
    {v : Json}
    (hAddon : IsAddon name v) :
    addonRefShape.decode .tree v.sorted = .ok name := by
  rcases hAddon with ⟨ref, hTemplate, hName⟩
  refine Json.Shape.decode_sorted addonRefShape_isRegular rfl
    ?_ hTemplate
  refine .filled rfl ?_ .done
  rw [Json.Field.of_read_eq_ok_iff]
  exact ⟨name, decode_isRole hName, rfl⟩

/- The names of the items of an array are read. -/
theorem decode_lists
    {isItem : String → Json → Prop}
    {d : Json.Decoder String}
    {names : List String}
    {v : Json}
    (hItem :
      ∀ name v, isItem name v →
        d .tree v.sorted = .ok name)
    (hLists : Lists isItem names v) :
    Json.Decoder.list d .tree v.sorted = .ok names := by
  rcases hLists with ⟨items, rfl, hItems⟩
  exact Json.Decoder.list_sorted (hItems.imp hItem)

end Cluster

namespace User.Facts

variable (f : Facts)

/- The object that the facts are read as. -/
def object : Cluster.UserObject :=
  { spec :=
      { displayName := f.displayName.getD ""
        roles := f.roles.getD []
        addons := f.addons.getD [] } }

theorem row_object :
    f.object.row (f.name.getD "") = f.row := rfl

theorem fills_spec
    {roles? addons? : Option Json}
    (hRoles :
      Option.Rel (Cluster.Lists Cluster.IsRole)
        f.roles roles?)
    (hAddons :
      Option.Rel (Cluster.Lists Cluster.IsAddon)
        f.addons addons?) :
    Cluster.userSpecShape.Fills .tree
      Cluster.userSpecShape.initial
      ((f.specSlots roles? addons?).map Json.Slot.sorted)
      f.object.spec := by
  simp only [specSlots, List.map_cons, List.map_nil,
    Json.Slot.sorted, Json.map_sorted_ofText]
  refine .ofText "" rfl rfl ?_
  refine .ofRel (f.roles.getD []) rfl hRoles ?_ ?_ ?_
  · intro names v hNames hLists
    rw [hNames]
    exact Cluster.decode_lists
      (fun _ _ => Cluster.decode_isRole) hLists
  · intro hNone
    rw [hNone]
    rfl
  refine .ofRel (f.addons.getD []) rfl hAddons ?_ ?_ .done
  · intro names v hNames hLists
    rw [hNames]
    exact Cluster.decode_lists
      (fun _ _ => Cluster.decode_isAddon) hLists
  · intro hNone
    rw [hNone]
    rfl

/- An object is read as the row of what it carries. -/
theorem readsAs
    {v : Json}
    (hObject : f.IsInObject v) :
    Cluster.ReadsAs Cluster.userShape v
      (f.name.getD "") f.object := by
  rcases hObject with
    ⟨spec?, roles?, addons?, hNames, hHolds, hSpec, hRoles,
      hAddons⟩
  apply Cluster.readsAs_of hNames
  refine Json.Shape.decode_sorted
    Cluster.userShape_isRegular rfl ?_ hHolds
  exact .nested rfl rfl
    Cluster.userSpecShape_isRegular rfl
    (f.fills_spec hRoles hAddons)
    (hSpec.sorted
      Cluster.userSpecShape_isRegular.distinct) .done

end User.Facts
end WorkspaceClient
