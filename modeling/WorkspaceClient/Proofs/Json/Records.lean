import Mathlib.Data.List.Pairwise
import WorkspaceClient.Json.Decode
import WorkspaceClient.Proofs.Result

/-
  This file shows that a record is read from the members of
  an object whatever their order, and whatever members of
  other names stand among them.

  Key definitions include:
    * `Json.Extends`
    * `Json.ObjectExtends`
    * `Json.Field.Commutes`
    * `Json.Shape.Commutes`
    * `Json.Shape.IsRegular`
    * `Json.Shape.Step`

  Main declarations:
    * `Json.Field.commutes_of`
    * `Json.Shape.Step.swap`
    * `Json.Shape.readMembers_perm`
    * `Json.Shape.decode_extends_iff`
    * `Json.Decoder.list_eq_ok_iff`
    * `Json.Decoder.ofBytes_closed`
    * `Json.Decoder.ofBytes_open`
-/

namespace WorkspaceClient
namespace Json

------------------------------------------------------------
-- Members
------------------------------------------------------------

/- A name, unless it cannot be decoded, with its value. -/
abbrev Member :=
  Option String × Json

/- A member that has none of these names. -/
def Member.IsForeign
    (names : List String)
    (m : Member) : Prop :=
  ∃ name,
    m.1 = some name ∧ name ∉ names ∧ m.2.isIntact = true

/-
  The members of an object were brought into another order,
  and members of other names were added.
-/
def Extends
    (names : List String)
    (ms ms' : List Member) : Prop :=
  ∃ extra,
    ms'.Perm (ms ++ extra) ∧
      ∀ m ∈ extra, Member.IsForeign names m

/- The same holds of the members of two objects. -/
def ObjectExtends
    (names : List String)
    (v v' : Json) : Prop :=
  ∃ ms ms',
    v = .object ms ∧ v' = .object ms' ∧ Extends names ms ms'

------------------------------------------------------------
-- Fields
------------------------------------------------------------

variable {α β γ : Type}

/- It does not matter which of two fields is read first. -/
def Field.Commutes
    (f g : Field α) : Prop :=
  ∀ origin v w a b,
    (∃ c,
      f.read origin v a = .ok c ∧
        g.read origin w c = .ok b) ↔
      ∃ c,
        g.read origin w a = .ok c ∧
          f.read origin v c = .ok b

instance : Std.Symm (Field.Commutes (α := α)) where
  symm _ _ h origin v w a b := (h origin w v a b).symm

theorem Field.of_read_eq_ok_iff
    {name : String}
    {d : Decoder β}
    {set : α → β → α}
    {origin : Origin}
    {v : Json}
    {a b : α} :
    (Field.of name d set).read origin v a = .ok b ↔
      ∃ x, d origin v = .ok x ∧ set a x = b := by
  change set a <$> d origin v = .ok b ↔ _
  cases d origin v <;> simp [Functor.map, Except.map]

/- Fields commute if setting them does. -/
theorem Field.commutes_of
    {name name' : String}
    {d : Decoder β}
    {d' : Decoder γ}
    {set : α → β → α}
    {set' : α → γ → α}
    (h : ∀ a x y, set' (set a x) y = set (set' a y) x) :
    (Field.of name d set).Commutes (Field.of name' d' set') := by
  intro origin v w a b
  simp only [Field.of_read_eq_ok_iff]
  constructor
  · rintro ⟨_, ⟨x, hFirst, rfl⟩, y, hSecond, rfl⟩
    exact ⟨_, ⟨y, hSecond, rfl⟩, x, hFirst, (h a x y).symm⟩
  · rintro ⟨_, ⟨y, hSecond, rfl⟩, x, hFirst, rfl⟩
    exact ⟨_, ⟨x, hFirst, rfl⟩, y, hSecond, h a x y⟩

namespace Shape

/- The names of all fields. -/
def names
    (shape : Shape α) : List String :=
  shape.fields.map fun f => f.name

/- The fields may be read in any order. -/
def Commutes
    (shape : Shape α) : Prop :=
  shape.fields.Pairwise Field.Commutes

/- The fields have different names, and commute. -/
structure IsRegular
    (shape : Shape α) : Prop where
  distinct : shape.names.Nodup
  commutes : shape.Commutes

section

variable {shape : Shape α}

theorem field?_eq_none_iff
    {name : String} :
    shape.field? name = none ↔ name ∉ shape.names := by
  unfold field? names
  simp

/- A record of one field has nothing to be confused. -/
theorem isRegular_of_one
    {f : Field α}
    (h : shape.fields = [f]) :
    shape.IsRegular := by
  constructor
  · rw [names, h]
    exact List.pairwise_singleton _ f.name
  · rw [Commutes, h]
    exact List.pairwise_singleton _ f

theorem Commutes.fields
    (h : shape.Commutes)
    {name name' : String}
    {f g : Field α}
    (hField : shape.field? name = some f)
    (hOther : shape.field? name' = some g)
    (hNe : name ≠ name') :
    f.Commutes g := by
  have hNames : f.name ≠ g.name := by
    have hThis := List.find?_some hField
    have hThat := List.find?_some hOther
    simp only [beq_iff_eq] at hThis hThat
    rwa [hThis, hThat]
  apply List.Pairwise.forall h
  · exact List.mem_of_find?_eq_some hField
  · exact List.mem_of_find?_eq_some hOther
  · rintro rfl
    exact hNames rfl

------------------------------------------------------------
-- Steps
------------------------------------------------------------

/-
  What becomes of a record when one member is read: nothing
  if the name is unknown, else its field is set for the
  first time.
-/
inductive Step
    (shape : Shape α)
    (origin : Origin)
    (seen : List String)
    (a : α) : Member → List String → α → Prop where
  | passed
      {name : String}
      {v : Json}
      (hUnknown : shape.field? name = none)
      (hIntact : v.isIntact = true) :
      Step shape origin seen a (some name, v) seen a
  | taken
      {name : String}
      {v : Json}
      {f : Field α}
      {a' : α}
      (hField : shape.field? name = some f)
      (hNew : name ∉ seen)
      (hRead : f.read origin v a = .ok a') :
      Step shape origin seen a (some name, v) (name :: seen) a'

variable {origin : Origin}
variable {seen : List String}
variable {a b : α}

theorem readMembers_cons_eq_ok_iff
    {m : Member}
    {ms : List Member} :
    shape.readMembers origin seen a (m :: ms) = .ok b ↔
      ∃ seen' a',
        Step shape origin seen a m seen' a' ∧
          shape.readMembers origin seen' a' ms = .ok b := by
  rcases m with ⟨name?, v⟩
  constructor
  · intro h
    cases name? with
    | none => cases h
    | some name =>
        rw [readMembers] at h
        split at h
        · next hUnknown =>
            split at h
            · next hIntact =>
                exact ⟨seen, a, .passed hUnknown hIntact, h⟩
            · cases h
        · next f hField =>
            split at h
            · cases h
            · next hNew =>
                rcases Result.ok_of_bind h with
                  ⟨a', hRead, hRest⟩
                rw [List.contains_iff_mem] at hNew
                exact
                  ⟨_, a', .taken hField hNew hRead, hRest⟩
  · rintro ⟨seen', a', hStep, hRest⟩
    cases hStep with
    | passed hUnknown hIntact =>
        rw [readMembers, hUnknown]
        simp only
        rw [if_pos hIntact, hRest]
    | taken hField hNew hRead =>
        rw [← List.contains_iff_mem] at hNew
        rw [readMembers, hField]
        simp only
        rw [if_neg hNew, hRead]
        exact hRest

/-
  Two steps can be taken the other way round: a name that is
  read second is not the one that was read first.
-/
theorem Step.swap
    (hCommutes : shape.Commutes)
    {seen₁ seen₂ : List String}
    {a₁ a₂ : α}
    {m m' : Member}
    (hFirst : Step shape origin seen a m seen₁ a₁)
    (hSecond : Step shape origin seen₁ a₁ m' seen₂ a₂) :
    ∃ seen₁' seen₂' a₁',
      Step shape origin seen a m' seen₁' a₁' ∧
        Step shape origin seen₁' a₁' m seen₂' a₂ ∧
        ∀ name, name ∈ seen₂ ↔ name ∈ seen₂' := by
  cases hFirst with
  | passed hUnknown hIntact =>
      exact
        ⟨seen₂, seen₂, a₂, hSecond,
          .passed hUnknown hIntact, fun _ => Iff.rfl⟩
  | @taken name v f _ hField hNew hRead =>
      cases hSecond with
      | passed hUnknown hIntact =>
          exact
            ⟨seen, name :: seen, a, .passed hUnknown hIntact,
              .taken hField hNew hRead, fun _ => Iff.rfl⟩
      | @taken name' w g _ hOther hNew' hRead' =>
          rw [List.mem_cons, not_or] at hNew'
          have hFields :=
            hCommutes.fields hField hOther (Ne.symm hNew'.1)
          rcases (hFields origin v w a a₂).mp
              ⟨a₁, hRead, hRead'⟩ with
            ⟨c, hBefore, hAfter⟩
          have hStill : name ∉ name' :: seen := by
            rw [List.mem_cons, not_or]
            exact ⟨Ne.symm hNew'.1, hNew⟩
          refine
            ⟨name' :: seen, name :: name' :: seen, c,
              .taken hOther hNew'.2 hBefore,
              .taken hField hStill hAfter, ?_⟩
          intro other
          simp only [List.mem_cons]
          exact or_left_comm

------------------------------------------------------------
-- Members in any order
------------------------------------------------------------

/- Only which names were seen matters, not their order. -/
theorem readMembers_seen
    {ms : List Member}
    {seen' : List String}
    (hSame : ∀ name, name ∈ seen ↔ name ∈ seen') :
    shape.readMembers origin seen a ms =
      shape.readMembers origin seen' a ms := by
  induction ms generalizing seen seen' a with
  | nil => rfl
  | cons m ms ih =>
      rcases m with ⟨_ | name, v⟩
      · rfl
      · have hContains :
            seen.contains name = seen'.contains name := by
          rw [Bool.eq_iff_iff, List.contains_iff_mem,
            List.contains_iff_mem]
          exact hSame name
        have hTaken :
            ∀ other,
              other ∈ name :: seen ↔
                other ∈ name :: seen' := by
          intro other
          rw [List.mem_cons, List.mem_cons, hSame other]
        rw [readMembers, readMembers, hContains, ih hSame]
        simp only [ih hTaken]

theorem readMembers_swap
    (hCommutes : shape.Commutes)
    {m m' : Member}
    {ms : List Member}
    (h :
      shape.readMembers origin seen a (m :: m' :: ms) =
        .ok b) :
    shape.readMembers origin seen a (m' :: m :: ms) =
      .ok b := by
  rcases readMembers_cons_eq_ok_iff.mp h with
    ⟨seen₁, a₁, hFirst, h⟩
  rcases readMembers_cons_eq_ok_iff.mp h with
    ⟨seen₂, a₂, hSecond, hRest⟩
  rcases Step.swap hCommutes hFirst hSecond with
    ⟨seen₁', seen₂', a₁', hFirst', hSecond', hSame⟩
  rw [readMembers_seen hSame] at hRest
  rw [readMembers_cons_eq_ok_iff]
  refine ⟨seen₁', a₁', hFirst', ?_⟩
  rw [readMembers_cons_eq_ok_iff]
  exact ⟨seen₂', a₂, hSecond', hRest⟩

/- The members of an object may come in any order. -/
theorem readMembers_perm
    (hCommutes : shape.Commutes)
    {ms ms' : List Member}
    (hPerm : ms.Perm ms') :
    shape.readMembers origin seen a ms = .ok b ↔
      shape.readMembers origin seen a ms' = .ok b := by
  induction hPerm generalizing seen a with
  | nil => exact Iff.rfl
  | cons m _ ih =>
      simp only [readMembers_cons_eq_ok_iff, ih]
  | swap m m' ms =>
      exact
        ⟨readMembers_swap hCommutes,
          readMembers_swap hCommutes⟩
  | trans _ _ ih ih' => exact ih.trans ih'

/- Members of other names are passed over. -/
theorem readMembers_foreign_append
    {extra ms : List Member}
    (hForeign : ∀ m ∈ extra, m.IsForeign shape.names) :
    shape.readMembers origin seen a (extra ++ ms) =
      shape.readMembers origin seen a ms := by
  induction extra with
  | nil => rfl
  | cons m extra ih =>
      rcases m with ⟨name?, v⟩
      rcases hForeign _ List.mem_cons_self with
        ⟨name, rfl, hName, hIntact⟩
      rw [List.cons_append, readMembers,
        field?_eq_none_iff.mpr hName]
      simp only
      rw [if_pos hIntact]
      exact ih fun m hm => hForeign m (List.mem_cons_of_mem _ hm)

/-
  A record is read the same from an object whose members
  were brought into another order and were added to.
-/
theorem decode_extends_iff
    (hCommutes : shape.Commutes)
    {ms ms' : List Member}
    (hExtends : Extends shape.names ms ms') :
    shape.decode origin (.object ms') = .ok a ↔
      shape.decode origin (.object ms) = .ok a := by
  rcases hExtends with ⟨extra, hPerm, hForeign⟩
  unfold decode
  rw [readMembers_perm hCommutes
      (hPerm.trans List.perm_append_comm),
    readMembers_foreign_append hForeign]

theorem decode_objectExtends_iff
    (hCommutes : shape.Commutes)
    {v v' : Json}
    (hExtends : ObjectExtends shape.names v v') :
    shape.decode origin v' = .ok a ↔
      shape.decode origin v = .ok a := by
  rcases hExtends with ⟨ms, ms', rfl, rfl, hExtends⟩
  exact decode_extends_iff hCommutes hExtends

end

end Shape

------------------------------------------------------------
-- Lists
------------------------------------------------------------

/- A list is read if each item is. -/
theorem Decoder.list_eq_ok_iff
    {d : Decoder α}
    {origin : Origin}
    {items : List Json}
    {as : List α} :
    Decoder.list d origin (.array items) = .ok as ↔
      List.Forall₂ (fun v a => d origin v = .ok a) items as :=
  Result.mapM_eq_ok_iff

/- A list is read the same if each item is extended. -/
theorem Shape.list_eq_ok_of_extends
    {shape : Shape α}
    {origin : Origin}
    {items items' : List Json}
    {as : List α}
    (hCommutes : shape.Commutes)
    (hItems :
      List.Forall₂ (ObjectExtends shape.names) items items')
    (h : Decoder.list shape.decode origin (.array items) =
      .ok as) :
    Decoder.list shape.decode origin (.array items') =
      .ok as := by
  rw [Decoder.list_eq_ok_iff] at h ⊢
  induction hItems generalizing as with
  | nil => exact h
  | cons hItem _ ih =>
      cases h with
      | cons hFirst hRest =>
          rw [← decode_objectExtends_iff hCommutes hItem]
            at hFirst
          exact .cons hFirst (ih hRest)

------------------------------------------------------------
-- Documents
------------------------------------------------------------

/- A closed document is read as its value. -/
theorem Decoder.ofBytes_closed
    {d : Decoder α}
    {bs : Bytes}
    {v : Json}
    (hDocument : parse bs = { value := v, closed := true }) :
    d.ofBytes bs = d .document v := by
  unfold ofBytes
  rw [hDocument]
  simp only
  cases d .document v <;> rfl

/- A document that is not closed is never read. -/
theorem Decoder.ofBytes_open
    {bs : Bytes}
    (d : Decoder α)
    (hOpen : (parse bs).closed = false) :
    ∃ fault, d.ofBytes bs = .error fault := by
  unfold ofBytes
  simp only [hOpen]
  cases d .document (parse bs).value with
  | error fault => exact ⟨fault, rfl⟩
  | ok a => exact ⟨.malformed, rfl⟩

end Json
end WorkspaceClient
