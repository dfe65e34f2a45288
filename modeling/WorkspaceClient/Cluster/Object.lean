import WorkspaceClient.Cluster.Metadata
import WorkspaceClient.Failure
import WorkspaceClient.User
import WorkspaceClient.Workspace

/-
  This file defines the objects in which a cluster keeps
  workspaces and users, and the rows they stand for.

  Key definitions include:
    * `Cluster.WorkspaceObject`
    * `Cluster.WorkspaceObject.row`
    * `Cluster.UserObject`
    * `Cluster.UserObject.row`
    * `Cluster.Item`
    * `Cluster.readList?`
    * `Cluster.decodeItem`
-/

namespace WorkspaceClient
namespace Cluster

------------------------------------------------------------
-- Workspaces
------------------------------------------------------------

/- What is wanted of a workspace. -/
structure WorkspaceSpec where
  owner : String
  template : String
  deriving DecidableEq, Repr

/- What is known of a workspace. -/
structure WorkspaceStatus where
  phase : String
  mainUrl : String
  urls : List (String × String)
  deriving DecidableEq, Repr

/- A workspace as the cluster keeps it. -/
structure WorkspaceObject where
  spec : WorkspaceSpec
  status : WorkspaceStatus
  deriving DecidableEq, Repr

/- How the specification of a workspace is read. -/
def workspaceSpecShape : Json.Shape WorkspaceSpec where
  title := "WorkspaceSpec"
  initial := { owner := "", template := "" }
  fields :=
    [ .of "owner" .string fun a s => { a with owner := s },
      .of "template" .string fun a s =>
        { a with template := s } ]

/- How the status of a workspace is read. -/
def workspaceStatusShape : Json.Shape WorkspaceStatus where
  title := "WorkspaceStatus"
  initial := { phase := "", mainUrl := "", urls := [] }
  fields :=
    [ .of "phase" .string fun a s => { a with phase := s },
      .of "mainUrl" .string fun a s =>
        { a with mainUrl := s },
      .of "urls" (.values .string) fun a us =>
        { a with urls := us } ]

/- How a workspace is read. -/
def workspaceShape : Json.Shape WorkspaceObject where
  title := "WorkspaceObject"
  initial :=
    { spec := workspaceSpecShape.initial
      status := workspaceStatusShape.initial }
  fields :=
    [ .of "spec" workspaceSpecShape.decode fun a s =>
        { a with spec := s },
      .of "status" workspaceStatusShape.decode fun a s =>
        { a with status := s } ]

/-
  The row of a workspace. The URLs stand in the order of
  their names, and a workspace without a phase is pending.
-/
def WorkspaceObject.row
    (o : WorkspaceObject)
    (name : String) : Workspace :=
  { name
    ownerName := o.spec.owner
    template := o.spec.template
    phase :=
      if o.status.phase.isEmpty then
        Workspace.initial.phase
      else
        o.status.phase
    mainUrl := o.status.mainUrl
    urls := o.status.urls.map (·.2) }

------------------------------------------------------------
-- Users
------------------------------------------------------------

/- What is wanted of a user. -/
structure UserSpec where
  displayName : String
  roles : List String
  addons : List String
  deriving DecidableEq, Repr

/- A user as the cluster keeps it. -/
structure UserObject where
  spec : UserSpec
  deriving DecidableEq, Repr

/- How a reference by name is read. -/
def nameRefShape : Json.Shape String where
  title := "NameRef"
  initial := ""
  fields := [.of "name" .string fun _ s => s]

/- How a reference to an addon is read. -/
def addonRefShape : Json.Shape String where
  title := "AddonRef"
  initial := ""
  fields := [.of "template" nameRefShape.decode fun _ s => s]

/- How the specification of a user is read. -/
def userSpecShape : Json.Shape UserSpec where
  title := "UserSpec"
  initial := { displayName := "", roles := [], addons := [] }
  fields :=
    [ .of "displayName" .string fun a s =>
        { a with displayName := s },
      .of "roles" (.list nameRefShape.decode) fun a ss =>
        { a with roles := ss },
      .of "addons" (.list addonRefShape.decode) fun a ss =>
        { a with addons := ss } ]

/- How a user is read. -/
def userShape : Json.Shape UserObject where
  title := "UserObject"
  initial := { spec := userSpecShape.initial }
  fields :=
    [ .of "spec" userSpecShape.decode fun a s =>
        { a with spec := s } ]

/- The row of a user. -/
def UserObject.row
    (o : UserObject)
    (name : String) : User :=
  { name
    displayName := o.spec.displayName
    roles := o.spec.roles
    addons := o.spec.addons }

------------------------------------------------------------
-- Lists
------------------------------------------------------------

/- An object of a list: its name, and the object itself. -/
structure Item where
  name : String
  content : Json
  deriving Repr

/- The object that a value is, with its members sorted. -/
def item? : Json → Option Item
  | .object members => do
      let metadata ← metadataOf? objectFields members
      return {
        name := metadataName metadata
        content := (Json.object members).sorted }
  | _ => none

/- The greatest depth of a list that is read. -/
def maxDepth : Nat :=
  127

/- The objects of a list document. -/
def readList?
    (body : Bytes) : Option (List Item) := do
  let document ← Json.parse? body
  if maxDepth < document.depth then
    none
  match document with
  | .object members => do
      let _ ← metadataOf? listFields members
      match membersNamed "items" members with
      | [.null] => return []
      | [.array items] => items.mapM item?
      | _ => none
  | _ => none

/- What an object of a list holds. -/
def decodeItem
    {α : Type}
    (shape : Json.Shape α)
    (item : Item) : Except Failure (String × α) :=
  match shape.decode .tree item.content with
  | .ok a => .ok (item.name, a)
  | .error fault =>
      .error (.protocol
        ("cluster API: object '" ++ item.name ++ "': "
          ++ fault.message))

end Cluster
end WorkspaceClient
