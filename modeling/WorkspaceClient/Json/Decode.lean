import WorkspaceClient.Json.Parser
import WorkspaceClient.Text.Quoted

/-
  This file defines the decoding of JSON values into values
  of other types.

  A decoder walks through a value in the order of the text,
  so the first fault of the text is the one reported. A
  record is read from an object, by the names of its fields,
  or from an array, by their order. Fields that are absent
  keep their defaults.

  Key definitions include:
    * `Json.Fault`
    * `Json.Fault.message`
    * `Json.Origin`
    * `Json.Decoder`
    * `Json.Field`
    * `Json.Shape`
    * `Json.Shape.decode`
    * `Json.Decoder.ofBytes`
-/

namespace WorkspaceClient
namespace Json

------------------------------------------------------------
-- Faults
------------------------------------------------------------

/- The reasons why a value does not decode. -/
inductive Fault where
  | wrongType (found expected : String)
  | duplicateField (name : String)
  | surplusItems (count : Nat)
  | malformed
  deriving DecidableEq, Repr

/- The text of a fault. -/
def Fault.message : Fault → String
  | wrongType found expected =>
      "invalid type: " ++ found ++ ", expected " ++ expected
  | duplicateField name =>
      "duplicate field " ++ "\x60" ++ name ++ "\x60"
  | surplusItems count =>
      "invalid length " ++ toString count
        ++ ", expected fewer elements in array"
  | malformed =>
      "invalid JSON"

/- A text between grave accents. -/
def marked
    (s : String) : String :=
  "\x60" ++ s ++ "\x60"

/-
  How a message names a value that was found in place of
  another one, if the value can be read at all.
-/
def found? : Json → Option String
  | null => some "null"
  | bool b => some ("boolean " ++ marked (toString b))
  | number n =>
      match n.value with
      | .natural k =>
          some ("integer " ++ marked (toString k))
      | .negative k =>
          some ("integer " ++ marked ("-" ++ toString k))
      | .float x =>
          some ("floating point "
            ++ marked (Decimal.positional x))
      | .outOfRange => none
  | text s => s.map fun s => "string " ++ Text.quoted s
  | array _ => some "sequence"
  | object _ => some "map"
  | broken => none

/- The fault of a value of the wrong type. -/
def mismatch
    (v : Json)
    (expected : String) : Fault :=
  match found? v with
  | some found => .wrongType found expected
  | none => .malformed

------------------------------------------------------------
-- Decoders
------------------------------------------------------------

/-
  Whether a value is decoded while its text is read, or from
  a tree that has been read before.
-/
inductive Origin where
  | document
  | tree
  deriving DecidableEq, Repr

/- A way to read values of a type. -/
abbrev Decoder (α : Type) :=
  Origin → Json → Except Fault α

namespace Decoder

variable {α : Type}

/- Read a text. -/
def string : Decoder String
  | _, .text (some s) => .ok s
  | _, v => .error (mismatch v "a string")

/- Read a truth value. -/
def bool : Decoder Bool
  | _, .bool b => .ok b
  | _, v => .error (mismatch v "a boolean")

/- Read a whole number below `bound`. -/
def natBelow
    (bound : Nat) : Decoder Nat
  | _, v =>
      match v with
      | .number n =>
          match n.value with
          | .natural k =>
              if k < bound then
                .ok k
              else
                .error .malformed
          | _ => .error (mismatch v "a whole number")
      | _ => .error (mismatch v "a whole number")

/- Read a value that may be null. -/
def optional
    (d : Decoder α) : Decoder (Option α)
  | _, .null => .ok none
  | origin, v => some <$> d origin v

/- Read every item of an array. -/
def list
    (d : Decoder α) : Decoder (List α)
  | origin, .array items => items.mapM (d origin)
  | _, v => .error (mismatch v "a sequence")

/- Read every value of an object, in the order of members. -/
def values
    (d : Decoder α) : Decoder (List (String × α))
  | origin, .object members =>
      members.mapM fun (k, v) =>
        match k with
        | some k => (k, ·) <$> d origin v
        | none => .error .malformed
  | _, v => .error (mismatch v "a map")

end Decoder

------------------------------------------------------------
-- Records
------------------------------------------------------------

/- A named field of a record, and how it is read and set. -/
structure Field (α : Type) where
  name : String
  read : Origin → Json → α → Except Fault α

/- The field that a decoder reads. -/
def Field.of
    {α β : Type}
    (name : String)
    (d : Decoder β)
    (set : α → β → α) : Field α :=
  { name
    read := fun origin v a => set a <$> d origin v }

/-
  A kind of record: its name, its fields in order, and the
  record that all fields keep by default.
-/
structure Shape (α : Type) where
  title : String
  fields : List (Field α)
  initial : α

namespace Shape

variable {α : Type}

/- The field of a name. -/
def field?
    (shape : Shape α)
    (name : String) : Option (Field α) :=
  shape.fields.find? fun f => f.name == name

/-
  Read the members of an object one after another. A member
  of an unknown name is passed over.
-/
def readMembers
    (shape : Shape α)
    (origin : Origin)
    (seen : List String)
    (a : α) :
    List (Option String × Json) → Except Fault α
  | [] => .ok a
  | (none, _) :: _ => .error .malformed
  | (some name, v) :: rest =>
      match shape.field? name with
      | none =>
          if v.isIntact then
            readMembers shape origin seen a rest
          else
            .error .malformed
      | some f =>
          if seen.contains name then
            .error (.duplicateField name)
          else do
            let a ← f.read origin v a
            readMembers shape origin (name :: seen) a rest

/-
  Read the items of an array into the fields in their order.
  The number `count` is the length of the whole array.
-/
def readItems
    (origin : Origin)
    (count : Nat) :
    List (Field α) → α → List Json → Except Fault α
  | _, a, [] => .ok a
  | [], _, _ :: _ =>
      match origin with
      | .document => .error .malformed
      | .tree => .error (.surplusItems count)
  | f :: fs, a, v :: vs => do
      let a ← f.read origin v a
      readItems origin count fs a vs

/- Read a record. -/
def decode
    (shape : Shape α) : Decoder α
  | origin, .object members =>
      shape.readMembers origin [] shape.initial members
  | origin, .array items =>
      readItems origin items.length shape.fields
        shape.initial items
  | _, v => .error (mismatch v ("struct " ++ shape.title))

end Shape

------------------------------------------------------------
-- Documents
------------------------------------------------------------

/- Read a document that holds one value and nothing else. -/
def Decoder.ofBytes
    {α : Type}
    (d : Decoder α)
    (bs : Bytes) : Except Fault α := do
  let document := parse bs
  let a ← d .document document.value
  if document.closed then
    return a
  else
    throw .malformed

end Json
end WorkspaceClient
