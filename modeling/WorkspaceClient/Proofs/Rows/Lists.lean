import WorkspaceClient.Proofs.Json.Readable
import WorkspaceClient.Proofs.Result
import WorkspaceClient.Proofs.Rows.Members

/-
  This file says which bodies are lists of a cluster, and
  shows that such a list is read if every item of it is an
  object, and else not at all.

  Key definitions include:
    * `Cluster.Fits`
    * `Cluster.IsObject`
    * `Cluster.IsTyped`
    * `Cluster.HasMetadata`
    * `Cluster.HoldsItems`
    * `Cluster.Answers`

  Main declarations:
    * `Cluster.exists_metadataOf?_iff`
    * `Cluster.exists_isObject_iff`
    * `Cluster.HoldsItems.fits_iff`
    * `Cluster.readList?_eq_some_iff`
    * `Cluster.toText?_ne_none_of_objects`
-/

namespace WorkspaceClient
namespace Cluster

open Json (Member)

------------------------------------------------------------
-- Lists
------------------------------------------------------------

/-
  All of a value can be read, and no more than `bound` arrays
  and objects in it are nested.
-/
def Fits
    (bound : Nat)
    (v : Json) : Prop :=
  v.isReadable = true ∧ v.depth ≤ bound

/- A value can be read as an object of a list. -/
structure IsObject
    (v : Json)
    (item : Item) : Prop where
  fits : Fits (maxDepth - 2) v
  read : item? v = some item

theorem isObject_iff
    {v : Json}
    {item : Item} :
    IsObject v item ↔
      Fits (maxDepth - 2) v ∧ item? v = some item :=
  ⟨fun h => ⟨h.fits, h.read⟩, fun h => ⟨h.1, h.2⟩⟩

/- Each known member is null, or has its type. -/
def IsTyped
    (fields : List (String × Check))
    (ms : List Member) : Prop :=
  ∀ m ∈ ms, ∀ f ∈ fields,
    m.1 = some f.1 → m.2 = .null ∨ f.2 m.2 = true

/- There is no metadata, or it is all typed. -/
def HasMetadata
    (fields : List (String × Check))
    (ms : List Member) : Prop :=
  membersNamed "metadata" ms = [] ∨
    ∃ metadata,
      membersNamed "metadata" ms = [.object metadata] ∧
        IsTyped fields metadata

theorem orNull_iff
    {check : Check}
    {v : Json} :
    orNull check v = true ↔ v = .null ∨ check v = true := by
  cases v <;> simp [orNull]

theorem isRecordOf_iff
    {fields : List (String × Check)}
    {ms : List Member} :
    isRecordOf fields (.object ms) = true ↔
      IsTyped fields ms := by
  unfold isRecordOf IsTyped
  simp only [List.all_eq_true, Bool.or_eq_true, bne_iff_ne,
    orNull_iff, ← imp_iff_not_or]

theorem exists_metadataOf?_iff
    {fields : List (String × Check)}
    {ms : List Member} :
    (∃ metadata, metadataOf? fields ms = some metadata) ↔
      HasMetadata fields ms := by
  unfold metadataOf? HasMetadata
  rcases membersNamed "metadata" ms with _ | ⟨v, _ | ⟨_, _⟩⟩
  · simp
  · cases v with
    | object members =>
        simp [metadata?, isRecordOf_iff]
    | _ => simp [metadata?]
  · simp

/- Which values are objects of a list. -/
theorem exists_isObject_iff
    {v : Json} :
    (∃ item, IsObject v item) ↔
      Fits (maxDepth - 2) v ∧
        ∃ ms, v = .object ms ∧ HasMetadata objectFields ms := by
  have hItem :
      (∃ item, item? v = some item) ↔
        ∃ ms, v = .object ms ∧ HasMetadata objectFields ms := by
    cases v with
    | object ms =>
        simp only [Json.object.injEq, exists_eq_left',
          ← exists_metadataOf?_iff]
        rcases hMetadata : metadataOf? objectFields ms with
          _ | metadata
        all_goals simp [item?, hMetadata]
    | _ => simp [item?]
  simp only [isObject_iff]
  rw [exists_and_left, hItem]

/- The members of a list hold these items. -/
structure HoldsItems
    (items : List Json)
    (ms : List Member) : Prop where
  metadata :
    ∃ metadata, metadataOf? listFields ms = some metadata
  items :
    membersNamed "items" ms = [.array items] ∨
      (membersNamed "items" ms = [.null] ∧ items = [])
  others :
    ∀ m ∈ ms,
      m.1 ≠ some "items" →
        m.1.isSome = true ∧ Fits (maxDepth - 1) m.2

/- A body is a list with these items. -/
def Answers
    (items : List Json)
    (body : Bytes) : Prop :=
  ∃ ms,
    Json.parse body =
        { value := .object ms, closed := true } ∧
      HoldsItems items ms

section

variable {items : List Json}
variable {ms : List Member}

theorem fits_array_iff
    {bound : Nat} :
    Fits (bound + 1) (.array items) ↔
      ∀ v ∈ items, Fits bound v := by
  unfold Fits
  rw [Json.isReadable, Json.depth, Json.readableItems_iff,
    Nat.add_le_add_iff_right, Json.depthItems_le_iff]
  exact forall₂_and.symm

theorem fits_object_iff
    {bound : Nat} :
    Fits (bound + 1) (.object ms) ↔
      ∀ m ∈ ms, m.1.isSome = true ∧ Fits bound m.2 := by
  unfold Fits
  rw [Json.isReadable, Json.depth, Json.readableMembers_iff,
    Nat.add_le_add_iff_right, Json.depthMembers_le_iff]
  simp only [← and_assoc]
  exact forall₂_and.symm

/- Only the items decide whether a list can be read. -/
theorem HoldsItems.fits_iff
    (hHolds : HoldsItems items ms) :
    Fits maxDepth (.object ms) ↔
      ∀ v ∈ items, Fits (maxDepth - 2) v := by
  have hList :
      ∃ list,
        membersNamed "items" ms = [list] ∧
          (Fits (maxDepth - 1) list ↔
            ∀ v ∈ items, Fits (maxDepth - 2) v) := by
    rcases hHolds.items with hItems | ⟨hItems, rfl⟩
    · exact ⟨_, hItems, fits_array_iff⟩
    · refine ⟨_, hItems, ?_⟩
      exact iff_of_true ⟨rfl, Nat.zero_le _⟩ (by simp)
  rcases hList with ⟨list, hOnly, hFits⟩
  have hMem :
      ∀ v, (some "items", v) ∈ ms ↔ v = list := by
    intro v
    rw [← mem_membersNamed_iff, hOnly, List.mem_singleton]
  rw [← hFits]
  change Fits (maxDepth - 1 + 1) _ ↔ _
  rw [fits_object_iff]
  constructor
  · intro hEach
    exact (hEach _ ((hMem list).mpr rfl)).2
  · rintro hThis ⟨k, v⟩ hm
    by_cases hName : k = some "items"
    · subst hName
      rw [(hMem v).mp hm]
      exact ⟨rfl, hThis⟩
    · exact hHolds.others _ hm hName

theorem forall₂_isObject_iff
    {read : List Item} :
    List.Forall₂ IsObject items read ↔
      (∀ v ∈ items, Fits (maxDepth - 2) v) ∧
        items.mapM item? = some read := by
  have hObject :
      IsObject = fun v item =>
        Fits (maxDepth - 2) v ∧ item? v = some item := by
    funext v item
    exact propext isObject_iff
  rw [hObject, List.forall₂_and_left,
    Result.mapM_eq_some_iff]

/- A list is read as a whole, or not at all. -/
theorem readList?_eq
    {body : Bytes}
    (hParse :
      Json.parse body =
        { value := .object ms, closed := true })
    (hHolds : HoldsItems items ms) :
    (Fits maxDepth (.object ms) →
        readList? body = items.mapM item?) ∧
      (¬ Fits maxDepth (.object ms) →
        readList? body = none) := by
  have hDocument :
      Json.parse? body =
        if (Json.object ms).isReadable then
          some (.object ms)
        else
          none := by
    unfold Json.parse?
    rw [hParse]
    rfl
  unfold readList?
  rw [hDocument]
  constructor
  · rintro ⟨hReadable, hDepth⟩
    rcases hHolds.metadata with ⟨metadata, hMetadata⟩
    rw [if_pos hReadable]
    simp only [Option.bind_eq_bind, Option.bind_some]
    rw [if_neg (Nat.not_lt.mpr hDepth)]
    simp only [hMetadata, Option.bind_some]
    rcases hHolds.items with hItems | ⟨hItems, rfl⟩
    · rw [hItems]
    · rw [hItems]
      rfl
  · intro hNot
    by_cases hReadable : (Json.object ms).isReadable = true
    · have hDeep : maxDepth < (Json.object ms).depth :=
        Nat.lt_of_not_le fun hDepth => hNot ⟨hReadable, hDepth⟩
      rw [if_pos hReadable]
      simp only [Option.bind_eq_bind, Option.bind_some]
      rw [if_pos hDeep]
      rfl
    · rw [if_neg hReadable]
      rfl

/- A list is read where each of its items is an object. -/
theorem readList?_eq_some_iff
    {body : Bytes}
    {read : List Item}
    (hAnswers : Answers items body) :
    readList? body = some read ↔
      List.Forall₂ IsObject items read := by
  rcases hAnswers with ⟨ms, hParse, hHolds⟩
  have hRead := readList?_eq hParse hHolds
  rw [forall₂_isObject_iff, ← hHolds.fits_iff]
  by_cases hFits : Fits maxDepth (.object ms)
  · rw [hRead.1 hFits]
    exact (and_iff_right hFits).symm
  · rw [hRead.2 hFits]
    simp [hFits]

/- A list of objects is written as text. -/
theorem toText?_ne_none_of_objects
    {body : Bytes}
    (hAnswers : Answers items body)
    (hObjects : ∀ v ∈ items, ∃ item, IsObject v item) :
    Bytes.toText? body ≠ none := by
  rcases hAnswers with ⟨ms, hParse, hHolds⟩
  have hFits : Fits maxDepth (.object ms) :=
    hHolds.fits_iff.mpr fun v hv => by
      rcases hObjects v hv with ⟨item, hObject⟩
      exact hObject.fits
  exact
    Bytes.isText_iff.mp
      (Json.isText_of_parse hParse hFits.1)

end

end Cluster
end WorkspaceClient
