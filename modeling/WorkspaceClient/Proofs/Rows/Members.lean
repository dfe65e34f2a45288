import Mathlib.Data.List.Induction
import WorkspaceClient.Cluster.Object
import WorkspaceClient.Proofs.Json.Sorting

/-
  This file shows which members of an object decide whether
  a record can be read from it: those with the names of its
  fields. Where an object was sorted, these are the last
  members of the names.

  Key definitions include:
    * `Json.Field.Takes`
    * `Json.Field.IsUniform`

  Main declarations:
    * `Json.Shape.readMembers_absent`
    * `Json.Shape.readMembers_single`
    * `Json.Shape.readMembers_eq_ok_iff`
    * `Json.Shape.exists_readMembers_iff`
    * `Cluster.mem_collect_iff`
    * `Cluster.exists_decode_sorted_iff`
-/

namespace WorkspaceClient

open Json (Member)

variable {α β : Type}

------------------------------------------------------------
-- Members of a name
------------------------------------------------------------

namespace Cluster

theorem mem_membersNamed_iff
    {k : String}
    {ms : List Member}
    {v : Json} :
    v ∈ membersNamed k ms ↔ (some k, v) ∈ ms := by
  unfold membersNamed
  constructor
  · intro h
    rcases List.mem_map.mp h with ⟨⟨k', v'⟩, hMem, rfl⟩
    rw [List.mem_filter, beq_iff_eq] at hMem
    rcases hMem with ⟨hMem, rfl⟩
    exact hMem
  · intro h
    refine List.mem_map.mpr ⟨_, List.mem_filter.mpr ⟨h, ?_⟩, rfl⟩
    exact beq_self_eq_true _

theorem membersNamed_cons_self
    (k : String)
    (v : Json)
    (ms : List Member) :
    membersNamed k ((some k, v) :: ms) =
      v :: membersNamed k ms := by
  simp [membersNamed]

theorem membersNamed_cons_of_ne
    {k k' : String}
    {v : Json}
    {ms : List Member}
    (hOther : k' ≠ k) :
    membersNamed k ((some k', v) :: ms) =
      membersNamed k ms := by
  simp [membersNamed, hOther]

theorem membersNamed_concat
    (k : String)
    (ms : List Member)
    (m : Member) :
    membersNamed k (ms ++ [m]) =
      membersNamed k ms ++ if m.1 = some k then [m.2] else [] := by
  unfold membersNamed
  rw [List.filter_append, List.map_append]
  by_cases hName : m.1 = some k <;> simp [hName]

/- Members of one name keep their order when sorted inside. -/
theorem membersNamed_map_sorted
    (k : String)
    (ms : List Member) :
    membersNamed k (ms.map Member.sorted) =
      (membersNamed k ms).map Json.sorted := by
  unfold membersNamed
  rw [List.filter_map, List.map_map, List.map_map]
  rfl

/- Of members with one name, the last is kept. -/
theorem mem_collect_iff
    {ms : List Member}
    {k : String}
    {v : Json}
    (hNamed : ∀ m ∈ ms, m.1.isSome = true) :
    (some k, v) ∈ Json.collect [] ms ↔
      (membersNamed k ms).getLast? = some v := by
  induction ms using List.reverseRecOn with
  | nil => simp [Json.collect, membersNamed]
  | append_singleton ms m ih =>
      have hBefore : ∀ m ∈ ms, m.1.isSome = true :=
        fun m hm => hNamed m (List.mem_append_left _ hm)
      have hSorted :=
        Json.isSorted_collect Json.isSorted_nil hBefore
      rcases m with ⟨_ | k', v'⟩
      · have hNone := hNamed (none, v') (by simp)
        simp at hNone
      have hInsert :
          Json.collect [] (ms ++ [(some k', v')]) =
            Json.insertMember (some k') v'
              (Json.collect [] ms) := by
        unfold Json.collect
        rw [List.foldl_append]
        rfl
      rw [hInsert, Json.mem_insertMember_iff hSorted,
        membersNamed_concat, ih hBefore]
      by_cases hName : k = k'
      · simp [hName, eq_comm]
      · simp [hName, Ne.symm hName]

end Cluster

------------------------------------------------------------
-- Readable values
------------------------------------------------------------

namespace Json

theorem readableItems_iff
    {vs : List Json} :
    readableItems vs = true ↔ ∀ v ∈ vs, v.isReadable = true := by
  induction vs with
  | nil => simp [readableItems]
  | cons v vs ih => simp [readableItems, ih]

theorem readableMembers_iff
    {ms : List Member} :
    readableMembers ms = true ↔
      ∀ m ∈ ms,
        m.1.isSome = true ∧ m.2.isReadable = true := by
  induction ms with
  | nil => simp [readableMembers]
  | cons m ms ih =>
      rw [List.forall_mem_cons, ← ih, readableMembers,
        Bool.and_eq_true, Bool.and_eq_true]

theorem depthItems_le_iff
    {vs : List Json}
    {bound : Nat} :
    depthItems vs ≤ bound ↔ ∀ v ∈ vs, v.depth ≤ bound := by
  induction vs with
  | nil => simp [depthItems]
  | cons v vs ih =>
      rw [List.forall_mem_cons, ← ih, depthItems, Nat.max_le]

theorem depthMembers_le_iff
    {ms : List Member}
    {bound : Nat} :
    depthMembers ms ≤ bound ↔ ∀ m ∈ ms, m.2.depth ≤ bound := by
  induction ms with
  | nil => simp [depthMembers]
  | cons m ms ih =>
      rw [List.forall_mem_cons, ← ih, depthMembers, Nat.max_le]

mutual

/- What can be read is intact. -/
theorem isIntact_of_isReadable :
    ∀ v, isReadable v = true → v.isIntact = true
  | .null, _ => rfl
  | .bool _, _ => rfl
  | .number _, _ => rfl
  | .text _, _ => rfl
  | .array vs, hReadable => intactItems_of_readable vs hReadable
  | .object ms, hReadable =>
      intactMembers_of_readable ms hReadable

theorem intactItems_of_readable :
    ∀ vs, readableItems vs = true → intactItems vs = true
  | [], _ => rfl
  | v :: vs, hReadable => by
      rw [readableItems, Bool.and_eq_true] at hReadable
      rw [intactItems, isIntact_of_isReadable v hReadable.1,
        intactItems_of_readable vs hReadable.2]
      rfl

theorem intactMembers_of_readable :
    ∀ ms, readableMembers ms = true → intactMembers ms = true
  | [], _ => rfl
  | (k, v) :: ms, hReadable => by
      rw [readableMembers, Bool.and_eq_true,
        Bool.and_eq_true] at hReadable
      rw [intactMembers, isIntact_of_isReadable v hReadable.1.2,
        intactMembers_of_readable ms hReadable.2]
      rfl

end

------------------------------------------------------------
-- Fields
------------------------------------------------------------

/- A field can be read from a value. -/
def Field.Takes
    (f : Field α)
    (origin : Origin)
    (v : Json) : Prop :=
  ∀ a, ∃ b, f.read origin v a = .ok b

/-
  Whether a field can be read does not depend on what was
  read before.
-/
def Field.IsUniform
    (f : Field α) : Prop :=
  ∀ origin v a b,
    f.read origin v a = .ok b → f.Takes origin v

theorem Field.isUniform_of
    (name : String)
    (d : Decoder β)
    (set : α → β → α) :
    (Field.of name d set).IsUniform := by
  intro origin v a b hRead a'
  rcases Field.of_read_eq_ok_iff.mp hRead with ⟨x, hDecode, _⟩
  exact ⟨_, Field.of_read_eq_ok_iff.mpr ⟨x, hDecode, rfl⟩⟩

namespace Shape

variable {shape : Shape α}
variable {origin : Origin}
variable {ms : List Member}

theorem field?_eq_some_iff
    (hDistinct : shape.names.Nodup)
    {name : String}
    {f : Field α} :
    shape.field? name = some f ↔
      f ∈ shape.fields ∧ f.name = name := by
  constructor
  · intro hField
    refine ⟨List.mem_of_find?_eq_some hField, ?_⟩
    simpa using List.find?_some hField
  · rintro ⟨hMem, rfl⟩
    cases hFound : shape.field? f.name with
    | none =>
        rw [field?_eq_none_iff] at hFound
        exact absurd (List.mem_map_of_mem hMem) hFound
    | some g =>
        have hName : g.name = f.name := by
          simpa using List.find?_some hFound
        rw [List.inj_on_of_nodup_map hDistinct
          (List.mem_of_find?_eq_some hFound) hMem hName]

/- Members of other names are passed over. -/
theorem readMembers_foreign
    {seen : List String}
    {a : α}
    (hForeign : ∀ m ∈ ms, m.IsForeign shape.names) :
    shape.readMembers origin seen a ms = .ok a := by
  have hPassed :
      shape.readMembers origin seen a (ms ++ []) =
        shape.readMembers origin seen a [] :=
    readMembers_foreign_append hForeign
  rw [List.append_nil] at hPassed
  rw [hPassed]
  rfl

section

variable {f : Field α}
variable {a : α}

theorem isForeign_of_one
    (hFields : shape.fields = [f])
    {m : Member}
    (hKnown : m.1.isSome = true ∧ m.2.isIntact = true)
    (hOther : m.1 ≠ some f.name) :
    m.IsForeign shape.names := by
  rcases Option.isSome_iff_exists.mp hKnown.1 with
    ⟨name, hName⟩
  refine ⟨name, hName, ?_, hKnown.2⟩
  rw [names, hFields, List.map_singleton, List.mem_singleton]
  rintro rfl
  exact hOther hName

/- A field that is absent keeps its default. -/
theorem readMembers_absent
    (hFields : shape.fields = [f])
    (hKnown :
      ∀ m ∈ ms, m.1.isSome = true ∧ m.2.isIntact = true)
    (hAbsent : Cluster.membersNamed f.name ms = []) :
    shape.readMembers origin [] a ms = .ok a := by
  refine readMembers_foreign fun m hm => ?_
  refine isForeign_of_one hFields (hKnown m hm) ?_
  intro hName
  have hMem : m.2 ∈ Cluster.membersNamed f.name ms := by
    rw [Cluster.mem_membersNamed_iff, ← hName]
    exact hm
  rw [hAbsent] at hMem
  exact absurd hMem List.not_mem_nil

/- The only field of a record is read from its only member. -/
theorem readMembers_single
    (hFields : shape.fields = [f])
    (hKnown :
      ∀ m ∈ ms, m.1.isSome = true ∧ m.2.isIntact = true)
    {v : Json}
    (hSingle : Cluster.membersNamed f.name ms = [v]) :
    shape.readMembers origin [] a ms =
      f.read origin v a := by
  unfold Cluster.membersNamed at hSingle
  rw [List.map_eq_singleton_iff] at hSingle
  rcases hSingle with ⟨⟨k, _⟩, hFilter, rfl⟩
  rw [List.filter_eq_cons_iff] at hFilter
  rcases hFilter with
    ⟨before, after, rfl, hBefore, hName, hAfter⟩
  rw [List.filter_eq_nil_iff] at hAfter
  simp only [beq_iff_eq] at hBefore hName hAfter
  subst hName
  have hField : shape.field? f.name = some f := by
    simp [field?, hFields]
  have hPassed :
      ∀ m ∈ before ++ after,
        Member.IsForeign shape.names m := by
    intro m hm
    rcases List.mem_append.mp hm with hm | hm
    · exact
        isForeign_of_one hFields
          (hKnown m (List.mem_append_left _ hm))
          (hBefore m hm)
    · exact
        isForeign_of_one hFields
          (hKnown m
            (List.mem_append_right _
              (List.mem_cons_of_mem _ hm)))
          (hAfter m hm)
  rw [readMembers_foreign_append fun m hm =>
      hPassed m (List.mem_append_left _ hm),
    readMembers, hField]
  simp only
  rw [if_neg (by simp)]
  have hRest :
      ∀ a',
        shape.readMembers origin [f.name] a' after =
          .ok a' :=
    fun a' => readMembers_foreign fun m hm =>
      hPassed m (List.mem_append_right _ hm)
  simp only [hRest]
  exact bind_pure _

end

/- All members of an object that is read have a name. -/
theorem named_of_readMembers
    {seen : List String}
    {a b : α}
    (h : shape.readMembers origin seen a ms = .ok b) :
    ∀ m ∈ ms, m.1.isSome = true := by
  induction ms generalizing seen a with
  | nil => simp
  | cons m ms ih =>
      rcases readMembers_cons_eq_ok_iff.mp h with
        ⟨seen', a', hStep, hRest⟩
      rw [List.forall_mem_cons]
      refine ⟨?_, ih hRest⟩
      cases hStep <;> rfl

/- A field is not read again. -/
theorem membersNamed_of_seen
    {seen : List String}
    {a b : α}
    (h : shape.readMembers origin seen a ms = .ok b)
    {name : String}
    (hField : name ∈ shape.names)
    (hSeen : name ∈ seen) :
    Cluster.membersNamed name ms = [] := by
  induction ms generalizing seen a with
  | nil => rfl
  | cons m ms ih =>
      rcases readMembers_cons_eq_ok_iff.mp h with
        ⟨seen', a', hStep, hRest⟩
      cases hStep with
      | @passed other v hUnknown _ =>
          have hOther : other ≠ name := by
            rintro rfl
            exact field?_eq_none_iff.mp hUnknown hField
          rw [Cluster.membersNamed_cons_of_ne hOther]
          exact ih hRest hSeen
      | @taken other v _ _ _ hNew _ =>
          have hOther : other ≠ name := by
            rintro rfl
            exact hNew hSeen
          rw [Cluster.membersNamed_cons_of_ne hOther]
          exact ih hRest (List.mem_cons_of_mem _ hSeen)

/- The name of a field comes once at most. -/
theorem membersNamed_of_readMembers
    {seen : List String}
    {a b : α}
    (h : shape.readMembers origin seen a ms = .ok b)
    {name : String}
    (hField : name ∈ shape.names) :
    Cluster.membersNamed name ms = [] ∨
      ∃ v, Cluster.membersNamed name ms = [v] := by
  induction ms generalizing seen a with
  | nil => exact .inl rfl
  | cons m ms ih =>
      rcases readMembers_cons_eq_ok_iff.mp h with
        ⟨seen', a', hStep, hRest⟩
      cases hStep with
      | @passed other v hUnknown _ =>
          have hOther : other ≠ name := by
            rintro rfl
            exact field?_eq_none_iff.mp hUnknown hField
          rw [Cluster.membersNamed_cons_of_ne hOther]
          exact ih hRest
      | @taken other v _ _ _ _ _ =>
          by_cases hName : other = name
          · subst hName
            rw [Cluster.membersNamed_cons_self,
              membersNamed_of_seen hRest hField
                List.mem_cons_self]
            exact .inr ⟨v, rfl⟩
          · rw [Cluster.membersNamed_cons_of_ne hName]
            exact ih hRest

/-
  A record of one field is read from an object that has its
  name once or not at all.
-/
theorem readMembers_eq_ok_iff
    {f : Field α}
    {a b : α}
    (hFields : shape.fields = [f])
    (hIntact : ∀ m ∈ ms, m.2.isIntact = true) :
    shape.readMembers origin [] a ms = .ok b ↔
      (∀ m ∈ ms, m.1.isSome = true) ∧
        (Cluster.membersNamed f.name ms = [] ∧ b = a ∨
          ∃ v,
            Cluster.membersNamed f.name ms = [v] ∧
              f.read origin v a = .ok b) := by
  have hField : f.name ∈ shape.names := by
    rw [names, hFields]
    exact List.mem_singleton_self _
  have hKnown
      (hNamed : ∀ m ∈ ms, m.1.isSome = true) :
      ∀ m ∈ ms,
        m.1.isSome = true ∧ m.2.isIntact = true :=
    fun m hm => ⟨hNamed m hm, hIntact m hm⟩
  constructor
  · intro h
    have hNamed := named_of_readMembers h
    refine ⟨hNamed, ?_⟩
    rcases membersNamed_of_readMembers h hField with
      hAbsent | ⟨v, hSingle⟩
    · rw [readMembers_absent hFields (hKnown hNamed) hAbsent]
        at h
      cases h
      exact .inl ⟨hAbsent, rfl⟩
    · rw [readMembers_single hFields (hKnown hNamed) hSingle]
        at h
      exact .inr ⟨v, hSingle, h⟩
  · rintro ⟨hNamed, hMembers⟩
    rcases hMembers with ⟨hAbsent, rfl⟩ | ⟨v, hSingle, hRead⟩
    · exact
        readMembers_absent hFields (hKnown hNamed) hAbsent
    · rw [readMembers_single hFields (hKnown hNamed) hSingle]
      exact hRead

/-
  A record can be read where every member that has the name
  of a field can, if no name comes twice.
-/
theorem exists_readMembers_iff
    (hDistinct : shape.names.Nodup)
    (hUniform : ∀ f ∈ shape.fields, f.IsUniform)
    {seen : List String}
    {a : α}
    (hKnown :
      ∀ m ∈ ms, m.1.isSome = true ∧ m.2.isIntact = true)
    (hOnce : (ms.map Prod.fst).Nodup)
    (hNew : ∀ name ∈ seen, some name ∉ ms.map Prod.fst) :
    (∃ b, shape.readMembers origin seen a ms = .ok b) ↔
      ∀ f ∈ shape.fields, ∀ v,
        (some f.name, v) ∈ ms → f.Takes origin v := by
  induction ms generalizing seen a with
  | nil => simp [readMembers]
  | cons m ms ih =>
      rcases m with ⟨_ | name, v⟩
      · simp at hKnown
      rw [List.forall_mem_cons] at hKnown
      rw [List.map_cons, List.nodup_cons] at hOnce
      have hLater :
          ∀ other ∈ name :: seen,
            some other ∉ ms.map Prod.fst := by
        rw [List.forall_mem_cons]
        refine ⟨hOnce.1, fun other hSeen hMem => ?_⟩
        exact hNew other hSeen (List.mem_cons_of_mem _ hMem)
      have hUnseen : name ∉ seen := fun hSeen =>
        hNew name hSeen List.mem_cons_self
      have hRest :
          ∀ {seen' a'},
            seen' ⊆ name :: seen →
            ((∃ b,
              shape.readMembers origin seen' a' ms = .ok b) ↔
              ∀ f ∈ shape.fields, ∀ w,
                (some f.name, w) ∈ ms → f.Takes origin w) :=
        fun hSeen =>
          ih hKnown.2 hOnce.2
            (fun other h => hLater other (hSeen h))
      simp only [readMembers_cons_eq_ok_iff, List.mem_cons]
      constructor
      · rintro ⟨b, seen', a', hStep, hRead⟩ f hf w hw
        cases hStep with
        | passed hUnknown _ =>
            rcases hw with hw | hw
            · cases hw
              rw [field?_eq_none_iff] at hUnknown
              exact absurd (List.mem_map_of_mem hf) hUnknown
            · exact
                (hRest (List.subset_cons_self _ _)).mp
                  ⟨b, hRead⟩ f hf w hw
        | taken hField _ hTaken =>
            rcases hw with hw | hw
            · cases hw
              have hThis :=
                (field?_eq_some_iff hDistinct).mpr ⟨hf, rfl⟩
              rw [hThis] at hField
              cases hField
              exact hUniform f hf origin v a a' hTaken
            · exact
                (hRest (List.Subset.refl _)).mp ⟨b, hRead⟩ f
                  hf w hw
      · intro hTakes
        have hOthers :
            ∀ f ∈ shape.fields, ∀ w,
              (some f.name, w) ∈ ms → f.Takes origin w :=
          fun f hf w hw => hTakes f hf w (.inr hw)
        cases hField : shape.field? name with
        | none =>
            rcases (hRest (List.subset_cons_self _ _)).mpr
                hOthers with
              ⟨b, hRead⟩
            exact
              ⟨b, seen, a, .passed hField hKnown.1.2, hRead⟩
        | some f =>
            rcases (field?_eq_some_iff hDistinct).mp hField
              with ⟨hf, rfl⟩
            rcases hTakes f hf v (.inl rfl) a with
              ⟨a', hTaken⟩
            rcases (hRest (List.Subset.refl _)).mpr hOthers
              with ⟨b, hRead⟩
            exact
              ⟨b, _, a', .taken hField hUnseen hTaken, hRead⟩

end Shape
end Json

namespace Cluster

/-
  A record can be read from a sorted object where the last
  member of the name of each field can.
-/
theorem exists_decode_sorted_iff
    {shape : Json.Shape α}
    (hDistinct : shape.names.Nodup)
    (hUniform : ∀ f ∈ shape.fields, f.IsUniform)
    {origin : Json.Origin}
    {ms : List Member}
    (hKnown :
      ∀ m ∈ ms, m.1.isSome = true ∧ m.2.isIntact = true) :
    (∃ b,
      shape.decode origin (Json.object ms).sorted = .ok b) ↔
      ∀ f ∈ shape.fields, ∀ v,
        (membersNamed f.name ms).getLast? = some v →
          f.Takes origin v.sorted := by
  have hNamed :
      ∀ m ∈ ms.map Member.sorted, m.1.isSome = true := by
    rw [List.forall_mem_map]
    exact fun m hm => (hKnown m hm).1
  have hSorted :=
    Json.isSorted_collect Json.isSorted_nil hNamed
  have hIntact :
      ∀ m ∈ Json.collect [] (ms.map Member.sorted),
        m.1.isSome = true ∧ m.2.isIntact = true := by
    intro m hm
    refine ⟨hSorted.named m hm, ?_⟩
    rcases Json.mem_of_mem_collect hm with hm | hm
    · exact absurd hm List.not_mem_nil
    · rcases List.mem_map.mp hm with ⟨m', hMem, rfl⟩
      exact Json.isIntact_sorted _ (hKnown m' hMem).2
  rw [Json.sorted_object]
  unfold Json.Shape.decode
  rw [Json.Shape.exists_readMembers_iff hDistinct hUniform
    hIntact hSorted.nodup_names (by simp)]
  simp only [mem_collect_iff hNamed, membersNamed_map_sorted,
    List.getLast?_map, Option.map_eq_some_iff]
  constructor
  · intro h f hf v hLast
    exact h f hf _ ⟨v, hLast, rfl⟩
  · rintro h f hf _ ⟨v, hLast, rfl⟩
    exact h f hf v hLast

end Cluster
end WorkspaceClient
