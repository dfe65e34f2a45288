import WorkspaceClient.Filter
import WorkspaceClient.Json.Decode

/-
  This file defines users, the rows of the user list.

  Key definitions include:
    * `User`
    * `User.columns`
    * `User.shape`
    * `User.toJson`
-/

namespace WorkspaceClient

------------------------------------------------------------
-- Rows
------------------------------------------------------------

/- A user of the platform, with granted roles and addons. -/
structure User where
  name : String
  displayName : String
  roles : List String
  addons : List String
  deriving DecidableEq, Repr

namespace User

/- A user of which nothing is known. -/
def initial : User :=
  { name := ""
    displayName := ""
    roles := []
    addons := [] }

/- The columns that filters can name. -/
def columns : Columns User where
  names := ["name", "displayname", "role", "addon"]
  values := fun u key =>
    if key = "name" then
      [u.name]
    else if key = "displayname" then
      [u.displayName]
    else if key = "role" then
      u.roles
    else if key = "addon" then
      u.addons
    else
      []

------------------------------------------------------------
-- JSON
------------------------------------------------------------

/- How a user is read from JSON. -/
def shape : Json.Shape User where
  title := "User"
  initial := initial
  fields :=
    [ .of "name" .string fun u s => { u with name := s },
      .of "displayName" .string fun u s =>
        { u with displayName := s },
      .of "roles" (.list .string) fun u ss =>
        { u with roles := ss },
      .of "addons" (.list .string) fun u ss =>
        { u with addons := ss } ]

/- The JSON value of a user. -/
def toJson
    (u : User) : Json :=
  .ofMembers
    [ ("name", .ofText u.name),
      ("displayName", .ofText u.displayName),
      ("roles", .ofTexts u.roles),
      ("addons", .ofTexts u.addons) ]

end User
end WorkspaceClient
