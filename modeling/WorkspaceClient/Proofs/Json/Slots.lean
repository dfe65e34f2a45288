import WorkspaceClient.Proofs.Json.Records

/-
  This file shows which record is read from an object where
  some members may be absent. A field whose member is absent
  keeps its default, and a member that is present overrides
  it, whatever its value is.

  Key definitions include:
    * `Json.Slot`
    * `Json.present`
    * `Json.Holds`
    * `Json.HoldsIfPresent`
    * `Json.Shape.Fills`

  Main declarations:
    * `Json.Decoder.list_ofTexts`
    * `Json.Shape.Fills.of`
    * `Json.Shape.Fills.nested`
    * `Json.Shape.decode_present`
    * `Json.Shape.decode_holds`
-/

namespace WorkspaceClient
namespace Json

------------------------------------------------------------
-- Slots
------------------------------------------------------------

/- The name of a member, and its value unless it is absent. -/
abbrev Slot :=
  String × Option Json

/- The members that are not absent. -/
def present : List Slot → List Member
  | [] => []
  | (_, none) :: slots => present slots
  | (name, some v) :: slots => (some name, v) :: present slots

/-
  A value is an object that has these members. They stand in
  any order, among members of other names.
-/
def Holds
    (slots : List Slot)
    (v : Json) : Prop :=
  ∃ ms,
    v = .object ms ∧
      Extends (slots.map Prod.fst) (present slots) ms

theorem holds_present
    (slots : List Slot) :
    (Json.object (present slots)).Holds slots := by
  refine ⟨_, rfl, [], ?_, ?_⟩
  · rw [List.append_nil]
  · exact fun _ h => absurd h List.not_mem_nil

/-
  An object that has these members, which may be absent only
  if all of them are.
-/
def HoldsIfPresent
    (slots : List Slot) : Option Json → Prop
  | none => ∀ slot ∈ slots, slot.2 = none
  | some v => v.Holds slots

------------------------------------------------------------
-- Lists
------------------------------------------------------------

theorem Decoder.list_ofTexts
    (origin : Origin)
    (ss : List String) :
    Decoder.list .string origin (.ofTexts ss) = .ok ss := by
  unfold ofTexts
  rw [list_eq_ok_iff, List.forall₂_map_left_iff,
    List.forall₂_same]
  intro s _
  rfl

------------------------------------------------------------
-- Filling
------------------------------------------------------------

variable {α β : Type}

/- What a record becomes when slots are read into it. -/
inductive Shape.Fills
    (shape : Shape α)
    (origin : Origin) : α → List Slot → α → Prop where
  | done
      {a : α} :
      Fills shape origin a [] a
  | absent
      {name : String}
      {slots : List Slot}
      {a b : α}
      (hRest : Fills shape origin a slots b) :
      Fills shape origin a ((name, none) :: slots) b
  | filled
      {name : String}
      {v : Json}
      {f : Field α}
      {slots : List Slot}
      {a a' b : α}
      (hField : shape.field? name = some f)
      (hRead : f.read origin v a = .ok a')
      (hRest : Fills shape origin a' slots b) :
      Fills shape origin a ((name, some v) :: slots) b

namespace Shape

variable {shape : Shape α}
variable {origin : Origin}
variable {name : String}
variable {slots : List Slot}
variable {a b : α}

/-
  A slot sets its field to a value that is decoded or, if it
  is absent, to the value that stands there already.
-/
theorem Fills.of
    {d : Decoder β}
    {set : α → β → α}
    {v? : Option Json}
    (x : β)
    (hField : shape.field? name = some (Field.of name d set))
    (hPresent : ∀ v ∈ v?, d origin v = .ok x)
    (hAbsent : v? = none → set a x = a)
    (hRest : Fills shape origin (set a x) slots b) :
    Fills shape origin a ((name, v?) :: slots) b := by
  cases v? with
  | none =>
      rw [hAbsent rfl] at hRest
      exact .absent hRest
  | some v =>
      refine .filled hField ?_ hRest
      exact
        Field.of_read_eq_ok_iff.mpr ⟨x, hPresent v rfl, rfl⟩

/- A slot with a text, or with nothing. -/
theorem Fills.ofText
    {set : α → String → α}
    {s? : Option String}
    (default : String)
    (hField :
      shape.field? name = some (Field.of name .string set))
    (hDefault : set a default = a)
    (hRest :
      Fills shape origin (set a (s?.getD default)) slots b) :
    Fills shape origin a
      ((name, s?.map Json.ofText) :: slots) b := by
  refine .of (s?.getD default) hField ?_ ?_ hRest
  · intro v hv
    rcases Option.map_eq_some_iff.mp hv with ⟨s, rfl, rfl⟩
    rfl
  · intro hNone
    rw [Option.map_eq_none_iff.mp hNone]
    exact hDefault

/- A slot with a list of texts, or with nothing. -/
theorem Fills.ofTexts
    {set : α → List String → α}
    {ss? : Option (List String)}
    (hField :
      shape.field? name =
        some (Field.of name (.list .string) set))
    (hDefault : set a [] = a)
    (hRest :
      Fills shape origin (set a (ss?.getD [])) slots b) :
    Fills shape origin a
      ((name, ss?.map Json.ofTexts) :: slots) b := by
  refine .of (ss?.getD []) hField ?_ ?_ hRest
  · intro v hv
    rcases Option.map_eq_some_iff.mp hv with ⟨ss, rfl, rfl⟩
    exact Decoder.list_ofTexts origin ss
  · intro hNone
    rw [Option.map_eq_none_iff.mp hNone]
    exact hDefault

theorem Fills.readMembers
    {seen : List String}
    (hFills : Fills shape origin a slots b)
    (hDistinct : (slots.map Prod.fst).Nodup)
    (hNew : ∀ name ∈ slots.map Prod.fst, name ∉ seen) :
    shape.readMembers origin seen a (present slots) =
      .ok b := by
  induction hFills generalizing seen with
  | done => rfl
  | absent _ ih =>
      rw [List.map_cons, List.nodup_cons] at hDistinct
      exact
        ih hDistinct.2 fun name hName =>
          hNew name (List.mem_cons_of_mem _ hName)
  | filled hField hRead _ ih =>
      rw [List.map_cons, List.nodup_cons] at hDistinct
      rw [present, readMembers_cons_eq_ok_iff]
      refine
        ⟨_, _, .taken hField (hNew _ List.mem_cons_self) hRead,
          ih hDistinct.2 ?_⟩
      intro other hOther
      rw [List.mem_cons, not_or]
      constructor
      · rintro rfl
        exact hDistinct.1 hOther
      · exact hNew other (List.mem_cons_of_mem _ hOther)

/- Absent members leave a record as it is. -/
theorem Fills.eq_of_absent
    (hFills : Fills shape origin a slots b)
    (hAbsent : ∀ slot ∈ slots, slot.2 = none) :
    b = a := by
  induction hFills with
  | done => rfl
  | absent _ ih =>
      exact ih fun slot h =>
        hAbsent slot (List.mem_cons_of_mem _ h)
  | filled =>
      cases hAbsent _ List.mem_cons_self

/- A record is read from the members that are present. -/
theorem decode_present
    (hRegular : shape.IsRegular)
    (hNames : slots.map Prod.fst = shape.names)
    (hFills : Fills shape origin shape.initial slots a) :
    shape.decode origin (.object (present slots)) = .ok a := by
  have hDistinct := hRegular.distinct
  rw [← hNames] at hDistinct
  apply hFills.readMembers hDistinct
  intro name _
  exact List.not_mem_nil

/- It may be read from any object that has the members. -/
theorem decode_holds
    {v : Json}
    (hRegular : shape.IsRegular)
    (hNames : slots.map Prod.fst = shape.names)
    (hFills : Fills shape origin shape.initial slots a)
    (hHolds : v.Holds slots) :
    shape.decode origin v = .ok a := by
  rcases hHolds with ⟨ms, rfl, hExtends⟩
  rw [hNames] at hExtends
  rw [decode_extends_iff hRegular.commutes hExtends]
  exact decode_present hRegular hNames hFills

/- A slot with a record, or with nothing. -/
theorem Fills.nested
    {inner : Shape β}
    {set : α → β → α}
    {slots' : List Slot}
    {v? : Option Json}
    {x : β}
    (hField :
      shape.field? name =
        some (Field.of name inner.decode set))
    (hDefault : set a inner.initial = a)
    (hRegular : inner.IsRegular)
    (hNames : slots'.map Prod.fst = inner.names)
    (hFills : Fills inner origin inner.initial slots' x)
    (hHolds : HoldsIfPresent slots' v?)
    (hRest : Fills shape origin (set a x) slots b) :
    Fills shape origin a ((name, v?) :: slots) b := by
  refine .of x hField ?_ ?_ hRest
  · rintro v ⟨rfl⟩
    exact decode_holds hRegular hNames hFills hHolds
  · rintro rfl
    rw [hFills.eq_of_absent hHolds]
    exact hDefault

end Shape

end Json
end WorkspaceClient
