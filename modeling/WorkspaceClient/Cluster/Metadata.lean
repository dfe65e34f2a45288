import WorkspaceClient.Json.Basic
import WorkspaceClient.Timestamp

/-
  This file defines which values are the metadata of an
  object of the cluster, and of a list of objects: those
  whose members have the types that go with their names.

  A member of any other name may be anything. A name may
  come more than once, but no value of it may be of another
  type, and the last one counts.

  Key definitions include:
    * `Cluster.Check`
    * `Cluster.isRecordOf`
    * `Cluster.objectFields`
    * `Cluster.listFields`
    * `Cluster.metadataOf?`
    * `Cluster.metadataName`
-/

namespace WorkspaceClient
namespace Cluster

------------------------------------------------------------
-- Types
------------------------------------------------------------

/- Whether a value has a type. -/
abbrev Check :=
  Json → Bool

/- A text. -/
def isText : Check
  | .text (some _) => true
  | _ => false

/- A truth value. -/
def isFlag : Check
  | .bool _ => true
  | _ => false

/- A whole number of 64 bits, one of them for the sign. -/
def isInteger : Check
  | .number n =>
      match n.value with
      | .natural k => k < Json.Numeral.maxNegative
      | .negative _ => true
      | _ => false
  | _ => false

/- A text that writes a moment. -/
def isTime : Check
  | .text (some s) => Timestamp.isMoment s
  | _ => false

/- Several values of one type. -/
def isListOf
    (check : Check) : Check
  | .array items => items.all check
  | _ => false

/- Values of one type under any names. -/
def isMapOf
    (check : Check) : Check
  | .object members => members.all fun m => check m.2
  | _ => false

/- A value of a type, or nothing in its place. -/
def orNull
    (check : Check) : Check
  | .null => true
  | v => check v

/- Values under names that each have a type, or nothing. -/
def isRecordOf
    (fields : List (String × Check)) : Check
  | .object members =>
      members.all fun m =>
        fields.all fun f => m.1 != some f.1 || orNull f.2 m.2
  | _ => false

------------------------------------------------------------
-- Fields
------------------------------------------------------------

/- Who manages some of the fields of an object. -/
def managerFields : List (String × Check) :=
  [ ("apiVersion", isText),
    ("fieldsType", isText),
    ("manager", isText),
    ("operation", isText),
    ("subresource", isText),
    ("time", isTime) ]

/- What an object belongs to. -/
def ownerFields : List (String × Check) :=
  [ ("apiVersion", isText),
    ("blockOwnerDeletion", isFlag),
    ("controller", isFlag),
    ("kind", isText),
    ("name", isText),
    ("uid", isText) ]

/- The metadata of an object. -/
def objectFields : List (String × Check) :=
  [ ("annotations", isMapOf isText),
    ("creationTimestamp", isTime),
    ("deletionGracePeriodSeconds", isInteger),
    ("deletionTimestamp", isTime),
    ("finalizers", isListOf isText),
    ("generateName", isText),
    ("generation", isInteger),
    ("labels", isMapOf isText),
    ("managedFields", isListOf (isRecordOf managerFields)),
    ("name", isText),
    ("namespace", isText),
    ("ownerReferences", isListOf (isRecordOf ownerFields)),
    ("resourceVersion", isText),
    ("selfLink", isText),
    ("uid", isText) ]

/- The metadata of a list. -/
def listFields : List (String × Check) :=
  [ ("continue", isText),
    ("remainingItemCount", isInteger),
    ("resourceVersion", isText),
    ("selfLink", isText) ]

------------------------------------------------------------
-- Metadata
------------------------------------------------------------

/- The values of all members of a name. -/
def membersNamed
    (name : String)
    (members : List (Option String × Json)) : List Json :=
  (members.filter fun m => m.1 == some name).map (·.2)

/- The members of metadata, if they have the right types. -/
def metadata?
    (fields : List (String × Check)) :
    Json → Option (List (Option String × Json))
  | .object members =>
      if isRecordOf fields (.object members) then
        some members
      else
        none
  | _ => none

/- The metadata among these members, which may be missing. -/
def metadataOf?
    (fields : List (String × Check))
    (members : List (Option String × Json)) :
    Option (List (Option String × Json)) :=
  match membersNamed "metadata" members with
  | [] => some []
  | [v] => metadata? fields v
  | _ => none

/- The name in metadata, which may be missing. -/
def metadataName
    (members : List (Option String × Json)) : String :=
  match (membersNamed "name" members).getLast? with
  | some (.text (some s)) => s
  | _ => ""

end Cluster
end WorkspaceClient
