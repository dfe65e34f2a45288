import Mathlib.Data.List.Nodup
import Mathlib.Data.List.Perm.Subperm
import Mathlib.Data.String.Basic
import WorkspaceClient.Proofs.Json.Slots

/-
  This file shows what the sorting of members keeps: a
  member whose name is not repeated is kept, and no other
  member is made up. An object has the same members of known
  names after it was sorted.

  Key definitions include:
    * `Json.IsSorted`
    * `Json.collect`
    * `Json.Member.sorted`
    * `Json.Slot.sorted`

  Main declarations:
    * `Json.mem_insertMember_iff`
    * `Json.mem_collect_of_unique`
    * `Json.collect_eq_of_perm`
    * `Json.isIntact_sorted`
    * `Json.Holds.sorted`
    * `Json.Shape.decode_sorted`
    * `Json.Shape.Fills.ofRel`
    * `Json.Decoder.list_sorted`
-/

namespace WorkspaceClient
namespace Json

------------------------------------------------------------
-- Sorted members
------------------------------------------------------------

/- All members have names, which ascend. -/
structure IsSorted
    (ms : List Member) : Prop where
  named : ∀ m ∈ ms, m.1.isSome = true
  ascending :
    ms.Pairwise fun m m' => m.1.getD "" < m'.1.getD ""

theorem isSorted_nil :
    IsSorted [] :=
  ⟨fun _ h => absurd h List.not_mem_nil, .nil⟩

theorem isSorted_cons_iff
    {m : Member}
    {ms : List Member} :
    IsSorted (m :: ms) ↔
      m.1.isSome = true ∧
        (∀ m' ∈ ms, m.1.getD "" < m'.1.getD "") ∧
        IsSorted ms := by
  constructor
  · rintro ⟨hNamed, hAscending⟩
    rw [List.forall_mem_cons] at hNamed
    rw [List.pairwise_cons] at hAscending
    exact
      ⟨hNamed.1, hAscending.1, hNamed.2, hAscending.2⟩
  · rintro ⟨hName, hAbove, hNamed, hAscending⟩
    exact
      ⟨List.forall_mem_cons.mpr ⟨hName, hNamed⟩,
        .cons hAbove hAscending⟩

/- Sorted members have different names. -/
theorem IsSorted.nodup_names
    {ms : List Member}
    (hSorted : IsSorted ms) :
    (ms.map Prod.fst).Nodup := by
  rw [List.Nodup, List.pairwise_map]
  refine hSorted.ascending.imp ?_
  intro m m' hLess hName
  rw [hName] at hLess
  exact String.lt_irrefl _ hLess

/- A name above `k` is not `k`. -/
theorem ne_of_name_lt
    {k : String}
    {m : Member}
    (h : k < m.1.getD "") :
    m.1 ≠ some k := by
  intro hName
  rw [hName] at h
  exact String.lt_irrefl k h

------------------------------------------------------------
-- Insertion
------------------------------------------------------------

/-
  An inserted member replaces the one of its name, and the
  others stay.
-/
theorem mem_insertMember_iff
    {ms : List Member}
    (hSorted : IsSorted ms)
    {k : String}
    {v : Json}
    {m : Member} :
    m ∈ insertMember (some k) v ms ↔
      m = (some k, v) ∨ (m ∈ ms ∧ m.1 ≠ some k) := by
  induction ms with
  | nil => simp [insertMember]
  | cons m' ms ih =>
      rcases m' with ⟨k', v'⟩
      rcases isSorted_cons_iff.mp hSorted with
        ⟨hName, hAbove, hRest⟩
      rw [insertMember]
      split
      · next hEq =>
          rw [beq_iff_eq] at hEq
          subst hEq
          have hOther :
              ∀ m ∈ ms, m.1 ≠ some k :=
            fun m hm => ne_of_name_lt (hAbove m hm)
          simp only [List.mem_cons]
          constructor
          · rintro (rfl | hm)
            · exact .inl rfl
            · exact .inr ⟨.inr hm, hOther m hm⟩
          · rintro (rfl | ⟨rfl | hm, hNe⟩)
            · exact .inl rfl
            · exact absurd rfl hNe
            · exact .inr hm
      · next hNe =>
          rw [beq_iff_eq] at hNe
          split
          · next hLess =>
              have hOther :
                  ∀ m ∈ (k', v') :: ms, m.1 ≠ some k := by
                rw [List.forall_mem_cons]
                exact
                  ⟨ne_of_name_lt hLess, fun m hm =>
                    ne_of_name_lt
                      (String.lt_trans hLess (hAbove m hm))⟩
              rw [List.mem_cons]
              exact
                or_congr_right
                  ⟨fun hm => ⟨hm, hOther m hm⟩, And.left⟩
          · rw [List.mem_cons, ih hRest, List.mem_cons]
            constructor
            · rintro (rfl | rfl | ⟨hm, hOther⟩)
              · exact .inr ⟨.inl rfl, Ne.symm hNe⟩
              · exact .inl rfl
              · exact .inr ⟨.inr hm, hOther⟩
            · rintro (rfl | ⟨rfl | hm, hOther⟩)
              · exact .inr (.inl rfl)
              · exact .inl rfl
              · exact .inr (.inr ⟨hm, hOther⟩)

theorem IsSorted.insertMember
    {ms : List Member}
    (hSorted : IsSorted ms)
    (k : String)
    (v : Json) :
    IsSorted (insertMember (some k) v ms) := by
  induction ms with
  | nil =>
      exact isSorted_cons_iff.mpr
        ⟨rfl, fun _ h => absurd h List.not_mem_nil, hSorted⟩
  | cons m' ms ih =>
      rcases m' with ⟨k', v'⟩
      rcases isSorted_cons_iff.mp hSorted with
        ⟨hName, hAbove, hRest⟩
      rw [Json.insertMember]
      split
      · next hEq =>
          rw [beq_iff_eq] at hEq
          subst hEq
          exact isSorted_cons_iff.mpr ⟨rfl, hAbove, hRest⟩
      · next hNe =>
          rw [beq_iff_eq] at hNe
          split
          · next hLess =>
              refine isSorted_cons_iff.mpr ⟨rfl, ?_, hSorted⟩
              rw [List.forall_mem_cons]
              exact
                ⟨hLess, fun m hm =>
                  String.lt_trans hLess (hAbove m hm)⟩
          · next hNotLess =>
              have hGreater : k'.getD "" < k := by
                rcases Option.isSome_iff_exists.mp hName with
                  ⟨name, rfl⟩
                apply lt_of_le_of_ne (not_lt.mp hNotLess)
                rintro rfl
                exact hNe rfl
              refine isSorted_cons_iff.mpr
                ⟨hName, ?_, ih hRest⟩
              intro m hm
              rcases (mem_insertMember_iff hRest).mp hm with
                rfl | ⟨hm, _⟩
              · exact hGreater
              · exact hAbove m hm

------------------------------------------------------------
-- Collection
------------------------------------------------------------

/- Insert members one after another. -/
def collect
    (sorted ms : List Member) : List Member :=
  ms.foldl (fun ms (k, v) => insertMember k v ms) sorted

section

variable {sorted ms : List Member}
variable {m : Member}

theorem mem_of_mem_insertMember
    {k : Option String}
    {v : Json}
    (h : m ∈ insertMember k v ms) :
    m = (k, v) ∨ m ∈ ms := by
  induction ms with
  | nil => exact .inl (List.mem_singleton.mp h)
  | cons m' ms ih =>
      rcases m' with ⟨k', v'⟩
      rw [insertMember] at h
      split at h
      · rcases List.mem_cons.mp h with rfl | h
        · exact .inl rfl
        · exact .inr (List.mem_cons_of_mem _ h)
      · split at h
        · exact List.mem_cons.mp h
        · rcases List.mem_cons.mp h with rfl | h
          · exact .inr List.mem_cons_self
          · exact (ih h).imp_right (List.mem_cons_of_mem _)

/- No member is made up. -/
theorem mem_of_mem_collect
    (h : m ∈ collect sorted ms) :
    m ∈ sorted ∨ m ∈ ms := by
  induction ms generalizing sorted with
  | nil => exact .inl h
  | cons m' ms ih =>
      rcases ih h with h | h
      · rcases mem_of_mem_insertMember h with rfl | h
        · exact .inr List.mem_cons_self
        · exact .inl h
      · exact .inr (List.mem_cons_of_mem _ h)

theorem isSorted_collect
    (hSorted : IsSorted sorted)
    (hNamed : ∀ m ∈ ms, m.1.isSome = true) :
    IsSorted (collect sorted ms) := by
  induction ms generalizing sorted with
  | nil => exact hSorted
  | cons m' ms ih =>
      rcases m' with ⟨_ | k, v⟩
      · cases hNamed _ List.mem_cons_self
      · exact
          ih (hSorted.insertMember k v) fun m hm =>
            hNamed m (List.mem_cons_of_mem _ hm)

/- A member is kept unless another one has its name. -/
theorem mem_collect_of_unique
    (hSorted : IsSorted sorted)
    (hNamed : ∀ m ∈ ms, m.1.isSome = true)
    (hMem : m ∈ sorted ∨ m ∈ ms)
    (hUnique :
      ∀ m',
        m' ∈ sorted ∨ m' ∈ ms → m'.1 = m.1 → m' = m) :
    m ∈ collect sorted ms := by
  induction ms generalizing sorted with
  | nil => exact hMem.resolve_right List.not_mem_nil
  | cons m' ms ih =>
      rcases m' with ⟨_ | k, v⟩
      · cases hNamed _ List.mem_cons_self
      · have hInserted :
            ∀ m', m' ∈ insertMember (some k) v sorted ↔
              m' = (some k, v) ∨
                (m' ∈ sorted ∧ m'.1 ≠ some k) :=
          fun _ => mem_insertMember_iff hSorted
        refine ih (hSorted.insertMember k v) ?_ ?_ ?_
        · exact fun m hm =>
            hNamed m (List.mem_cons_of_mem _ hm)
        · rw [hInserted]
          by_cases hName : some k = m.1
          · have hSame :=
              hUnique (some k, v) (.inr List.mem_cons_self)
                hName
            exact .inl (.inl hSame.symm)
          · rcases hMem with hMem | hMem
            · exact .inl (.inr ⟨hMem, Ne.symm hName⟩)
            · rcases List.mem_cons.mp hMem with rfl | hMem
              · exact absurd rfl hName
              · exact .inr hMem
        · intro m' hm'
          apply hUnique
          rw [hInserted] at hm'
          rcases hm' with (rfl | ⟨hm', _⟩) | hm'
          · exact .inr List.mem_cons_self
          · exact .inl hm'
          · exact .inr (List.mem_cons_of_mem _ hm')

/- Members that were sorted before are found again. -/
theorem collect_eq_of_perm
    (hSorted : IsSorted ms)
    {ms' : List Member}
    (hPerm : ms'.Perm ms) :
    collect [] ms' = ms := by
  have hNamed : ∀ m ∈ ms', m.1.isSome = true :=
    fun m hm => hSorted.named m (hPerm.mem_iff.mp hm)
  have hCollected := isSorted_collect isSorted_nil hNamed
  have hSame : (collect [] ms').Perm ms := by
    rw [List.perm_ext_iff_of_nodup
      (List.Nodup.of_map _ hCollected.nodup_names)
      (List.Nodup.of_map _ hSorted.nodup_names)]
    intro m
    constructor
    · intro hm
      rcases mem_of_mem_collect hm with hm | hm
      · exact absurd hm List.not_mem_nil
      · exact hPerm.mem_iff.mp hm
    · intro hm
      refine mem_collect_of_unique isSorted_nil hNamed
        (.inr (hPerm.mem_iff.mpr hm)) ?_
      rintro m' (hm' | hm') hName
      · exact absurd hm' List.not_mem_nil
      · exact
          List.inj_on_of_nodup_map hSorted.nodup_names
            (hPerm.mem_iff.mp hm') hm hName
  apply hSame.eq_of_pairwise _ hCollected.ascending
    hSorted.ascending
  intro m m' _ _ hLess hGreater
  exact absurd hGreater (String.lt_asymm hLess)

end

------------------------------------------------------------
-- Intact values
------------------------------------------------------------

theorem intactItems_iff
    {vs : List Json} :
    intactItems vs = true ↔ ∀ v ∈ vs, v.isIntact = true := by
  induction vs with
  | nil => simp [intactItems]
  | cons v vs ih => simp [intactItems, ih]

theorem intactMembers_iff
    {ms : List Member} :
    intactMembers ms = true ↔
      ∀ m ∈ ms, m.2.isIntact = true := by
  induction ms with
  | nil => simp [intactMembers]
  | cons m ms ih => simp [intactMembers, ih]

/- A member, sorted inside. -/
def Member.sorted
    (m : Member) : Member :=
  (m.1, m.2.sorted)

theorem sortedItems_eq_map
    (vs : List Json) :
    sortedItems vs = vs.map Json.sorted := by
  induction vs with
  | nil => rfl
  | cons v vs ih => rw [sortedItems, ih, List.map_cons]

theorem sortedMembers_eq_map
    (ms : List Member) :
    sortedMembers ms = ms.map Member.sorted := by
  induction ms with
  | nil => rfl
  | cons m ms ih =>
      rw [sortedMembers, ih, List.map_cons, Member.sorted]

theorem sorted_array
    (vs : List Json) :
    (Json.array vs).sorted = .array (vs.map Json.sorted) := by
  rw [Json.sorted, sortedItems_eq_map]

theorem sorted_object
    (ms : List Member) :
    (Json.object ms).sorted =
      .object (collect [] (ms.map Member.sorted)) := by
  rw [Json.sorted, sortedMembers_eq_map, collect]

mutual

/- An intact value stays intact when it is sorted. -/
theorem isIntact_sorted :
    ∀ v, isIntact v = true → v.sorted.isIntact = true
  | .null, _ => rfl
  | .bool _, _ => rfl
  | .number _, _ => rfl
  | .text _, _ => rfl
  | .array vs, hIntact => by
      rw [Json.sorted, isIntact, intactItems_iff]
      exact intactItems_sorted vs hIntact
  | .object ms, hIntact => by
      rw [sorted_object, isIntact, intactMembers_iff]
      intro m hm
      rcases mem_of_mem_collect hm with hm | hm
      · exact absurd hm List.not_mem_nil
      · rw [← sortedMembers_eq_map] at hm
        exact intactMembers_sorted ms hIntact m hm

theorem intactItems_sorted :
    ∀ vs,
      intactItems vs = true →
        ∀ v ∈ sortedItems vs, v.isIntact = true
  | [], _ => fun _ h => absurd h List.not_mem_nil
  | v :: vs, hIntact => by
      rw [intactItems, Bool.and_eq_true] at hIntact
      rw [sortedItems, List.forall_mem_cons]
      exact
        ⟨isIntact_sorted v hIntact.1,
          intactItems_sorted vs hIntact.2⟩

theorem intactMembers_sorted :
    ∀ ms,
      intactMembers ms = true →
        ∀ m ∈ sortedMembers ms, m.2.isIntact = true
  | [], _ => fun _ h => absurd h List.not_mem_nil
  | (k, v) :: ms, hIntact => by
      rw [intactMembers, Bool.and_eq_true] at hIntact
      rw [sortedMembers, List.forall_mem_cons]
      exact
        ⟨isIntact_sorted v hIntact.1,
          intactMembers_sorted ms hIntact.2⟩

end

------------------------------------------------------------
-- Extended objects
------------------------------------------------------------

section

variable {names : List String}
variable {ms ms' : List Member}

/- Members of known names are sorted inside as they are. -/
theorem Extends.map_sorted
    (hExtends : Extends names ms ms') :
    Extends names (ms.map Member.sorted)
      (ms'.map Member.sorted) := by
  rcases hExtends with ⟨extra, hPerm, hForeign⟩
  refine ⟨extra.map Member.sorted, ?_, ?_⟩
  · rw [← List.map_append]
    exact hPerm.map _
  · rw [List.forall_mem_map]
    intro m hm
    rcases hForeign m hm with ⟨name, hName, hOther, hIntact⟩
    exact ⟨name, hName, hOther, isIntact_sorted _ hIntact⟩

/-
  Members of different, known names are kept when they are
  collected with others.
-/
theorem Extends.collect
    (hKnown : ∀ m ∈ ms, ∃ name ∈ names, m.1 = some name)
    (hDistinct : (ms.map Prod.fst).Nodup)
    (hExtends : Extends names ms ms') :
    Extends names ms (Json.collect [] ms') := by
  rcases hExtends with ⟨extra, hPerm, hForeign⟩
  have hMem :
      ∀ m, m ∈ ms' ↔ m ∈ ms ∨ m ∈ extra := by
    intro m
    rw [hPerm.mem_iff, List.mem_append]
  have hNamed : ∀ m ∈ ms', m.1.isSome = true := by
    intro m hm
    rcases (hMem m).mp hm with hm | hm
    · rcases hKnown m hm with ⟨name, _, hName⟩
      rw [hName]
      rfl
    · rcases hForeign m hm with ⟨name, hName, _⟩
      rw [hName]
      rfl
  have hKept : ∀ m ∈ ms, m ∈ Json.collect [] ms' := by
    intro m hm
    refine mem_collect_of_unique isSorted_nil hNamed
      (.inr ((hMem m).mpr (.inl hm))) ?_
    rintro m' (hm' | hm') hName
    · exact absurd hm' List.not_mem_nil
    · rcases (hMem m').mp hm' with hm' | hm'
      · exact
          List.inj_on_of_nodup_map hDistinct hm' hm hName
      · rcases hKnown m hm with ⟨name, hIn, hThis⟩
        rcases hForeign m' hm' with ⟨other, hOther, hOut, _⟩
        rw [hOther, hThis, Option.some.injEq] at hName
        exact absurd (hName ▸ hIn) hOut
  have hCollected := isSorted_collect isSorted_nil hNamed
  have hNodup : (Json.collect [] ms').Nodup :=
    List.Nodup.of_map _ hCollected.nodup_names
  rcases List.subperm_of_subset
      (List.Nodup.of_map _ hDistinct) hKept with
    ⟨part, hPart, hSublist⟩
  rcases hSublist.exists_perm_append with ⟨others, hAll⟩
  have hWhole := hAll.trans (hPart.append_right others)
  rw [hWhole.nodup_iff, List.nodup_append] at hNodup
  refine ⟨others, hWhole, ?_⟩
  intro m hm
  have hCollect : m ∈ Json.collect [] ms' :=
    hWhole.mem_iff.mpr (List.mem_append_right _ hm)
  rcases mem_of_mem_collect hCollect with hNil | hm'
  · exact absurd hNil List.not_mem_nil
  · rcases (hMem m).mp hm' with hOld | hNew
    · exact absurd rfl (hNodup.2.2 m hOld m hm)
    · exact hForeign m hNew

end

------------------------------------------------------------
-- Slots
------------------------------------------------------------

/- A slot, sorted inside. -/
def Slot.sorted
    (slot : Slot) : Slot :=
  (slot.1, slot.2.map Json.sorted)

section

variable {slots : List Slot}

theorem present_map_sorted :
    (present slots).map Member.sorted =
      present (slots.map Slot.sorted) := by
  induction slots with
  | nil => rfl
  | cons slot slots ih =>
      rcases slot with ⟨name, _ | v⟩
      · exact ih
      · exact congrArg ((some name, v.sorted) :: ·) ih

theorem map_fst_sorted :
    (slots.map Slot.sorted).map Prod.fst =
      slots.map Prod.fst := by
  rw [List.map_map]
  rfl

theorem names_present_sublist
    (slots : List Slot) :
    ((present slots).map Prod.fst).Sublist
      ((slots.map Prod.fst).map some) := by
  induction slots with
  | nil => exact .slnil
  | cons slot slots ih =>
      rcases slot with ⟨name, _ | v⟩
      · exact .cons _ ih
      · exact .cons_cons _ ih

/- An object has the same members after it was sorted. -/
theorem Holds.sorted
    {v : Json}
    (hDistinct : (slots.map Prod.fst).Nodup)
    (hHolds : v.Holds slots) :
    v.sorted.Holds (slots.map Slot.sorted) := by
  rcases hHolds with ⟨ms, rfl, hExtends⟩
  refine ⟨_, sorted_object ms, ?_⟩
  have hNames :=
    names_present_sublist (slots.map Slot.sorted)
  rw [map_fst_sorted] at hNames
  rw [map_fst_sorted, ← present_map_sorted]
  rw [← present_map_sorted] at hNames
  refine hExtends.map_sorted.collect ?_ ?_
  · intro m hm
    have hName := hNames.subset (List.mem_map_of_mem hm)
    rcases List.mem_map.mp hName with ⟨name, hIn, hEq⟩
    exact ⟨name, hIn, hEq.symm⟩
  · exact
      hNames.nodup
        (hDistinct.map fun _ _ h => Option.some.inj h)

theorem HoldsIfPresent.sorted
    {v? : Option Json}
    (hDistinct : (slots.map Prod.fst).Nodup)
    (hHolds : HoldsIfPresent slots v?) :
    HoldsIfPresent (slots.map Slot.sorted)
      (v?.map Json.sorted) := by
  cases v? with
  | none =>
      rw [Option.map_none, HoldsIfPresent, List.forall_mem_map]
      intro slot hSlot
      rw [Slot.sorted, hHolds slot hSlot]
      rfl
  | some v => exact Holds.sorted hDistinct hHolds

/- A record is read from an object after it was sorted. -/
theorem Shape.decode_sorted
    {α : Type}
    {shape : Shape α}
    {origin : Origin}
    {a : α}
    {v : Json}
    (hRegular : shape.IsRegular)
    (hNames : slots.map Prod.fst = shape.names)
    (hFills :
      Fills shape origin shape.initial
        (slots.map Slot.sorted) a)
    (hHolds : v.Holds slots) :
    shape.decode origin v.sorted = .ok a := by
  have hDistinct := hRegular.distinct
  rw [← hNames] at hDistinct
  rw [← map_fst_sorted] at hNames
  exact
    decode_holds hRegular hNames hFills
      (hHolds.sorted hDistinct)

/-
  A slot with something that is known, or with nothing, is
  read after it was sorted.
-/
theorem Shape.Fills.ofRel
    {α β γ : Type}
    {shape : Shape α}
    {origin : Origin}
    {name : String}
    {d : Decoder β}
    {set : α → β → α}
    {isIn : γ → Json → Prop}
    {known? : Option γ}
    {v? : Option Json}
    {a b : α}
    (x : β)
    (hField : shape.field? name = some (Field.of name d set))
    (hRel : Option.Rel isIn known? v?)
    (hSome :
      ∀ known v,
        known? = some known → isIn known v →
          d origin v.sorted = .ok x)
    (hNone : known? = none → set a x = a)
    (hRest : Fills shape origin (set a x) slots b) :
    Fills shape origin a
      ((name, v?.map Json.sorted) :: slots) b := by
  refine .of x hField ?_ ?_ hRest
  · intro v hv
    cases hRel with
    | none => cases hv
    | @some known w hIn =>
        cases hv
        exact hSome known w rfl hIn
  · intro hAbsent
    cases hRel with
    | none => exact hNone rfl
    | some => cases hAbsent

/- A list is read from an array after it was sorted. -/
theorem Decoder.list_sorted
    {α : Type}
    {d : Decoder α}
    {origin : Origin}
    {items : List Json}
    {as : List α}
    (h :
      List.Forall₂ (fun a v => d origin v.sorted = .ok a)
        as items) :
    Decoder.list d origin (Json.array items).sorted =
      .ok as := by
  rw [sorted_array, list_eq_ok_iff, List.forall₂_map_left_iff]
  exact h.flip

/- Texts are not changed when they are sorted inside. -/
theorem map_sorted_ofText
    (s? : Option String) :
    (s?.map ofText).map Json.sorted = s?.map ofText := by
  cases s? <;> rfl

end

end Json
end WorkspaceClient
