import WorkspaceClient.Output.Report
import WorkspaceClient.Session
import WorkspaceClient.User
import WorkspaceClient.Workspace

/-
  This file defines the tables of workspaces, of users and
  of the cached session.

  Cells are separated by two blanks. A cell is filled up
  with blanks to the width of its column, and a text that is
  too long is cut and ends in three dots.

  Key definitions include:
    * `Table.fill`
    * `Table.cut`
    * `Workspace.row`
    * `Workspace.report`
    * `User.row`
    * `User.report`
    * `SessionView`
    * `SessionView.report`
-/

namespace WorkspaceClient
namespace Table

------------------------------------------------------------
-- Cells
------------------------------------------------------------

/- Fill a text up with blanks to a width. -/
def fill
    (width : Nat)
    (s : String) : String :=
  s ++ String.ofList (List.replicate (width - s.length) ' ')

/-
  Cut a text that is longer than a width. Three dots tell of
  the cut unless they would take up the whole width.
-/
def cut
    (width : Nat)
    (s : String) : String :=
  if s.length ≤ width then
    s
  else if 3 < width then
    String.ofList (s.toList.take (width - 3)) ++ "..."
  else
    String.ofList (s.toList.take width)

/- Cells with two blanks between them. -/
def line
    (cells : List String) : String :=
  Text.join "  " cells

/- The line below the labels of a table. -/
def rule : String :=
  String.ofList (List.replicate 96 '─')

end Table

------------------------------------------------------------
-- Workspaces
------------------------------------------------------------

namespace Workspace

/- The labels of the workspace table. -/
def labels : String :=
  Table.line
    [Table.fill 24 "NAME", Table.fill 16 "USER",
      Table.fill 20 "TEMPLATE", Table.fill 10 "PHASE", "URL"]

/- The URL that the table shows. -/
def shownUrl
    (w : Workspace) : String :=
  w.allUrls.headD ""

/- The row of a workspace. -/
def row
    (w : Workspace) : String :=
  Table.line
    [Table.fill 24 (Table.cut 24 w.name),
      Table.fill 16 (Table.cut 16 w.ownerName),
      Table.fill 20 (Table.cut 20 w.template),
      Table.fill 10 w.phase,
      w.shownUrl]

/- The lines of the workspace table. -/
def tableLines
    (ws : List Workspace) : List String :=
  if ws.isEmpty then
    ["No workspaces found"]
  else
    [labels, Table.rule] ++ ws.map row
      ++ ["", s!"Total: {ws.length} workspace(s)"]

/- The report of a list of workspaces. -/
def report
    (ws : List Workspace) : Report :=
  { json := .array (ws.map toJson)
    lines := tableLines ws }

end Workspace

------------------------------------------------------------
-- Users
------------------------------------------------------------

namespace User

/- The labels of the user table. -/
def labels : String :=
  Table.line
    [Table.fill 20 "NAME", Table.fill 24 "DISPLAY NAME",
      Table.fill 30 "ROLES", "ADDONS"]

/- The row of a user. -/
def row
    (u : User) : String :=
  Table.line
    [Table.fill 20 (Table.cut 20 u.name),
      Table.fill 24 (Table.cut 24 u.displayName),
      Table.fill 30 (Table.cut 30 (Text.join "," u.roles)),
      Text.join "," u.addons]

/- The lines of the user table. -/
def tableLines
    (us : List User) : List String :=
  if us.isEmpty then
    ["No users found"]
  else
    [labels, Table.rule] ++ us.map row
      ++ ["", s!"Total: {us.length} user(s)"]

/- The report of a list of users. -/
def report
    (us : List User) : Report :=
  { json := .array (us.map toJson)
    lines := tableLines us }

end User

------------------------------------------------------------
-- Sessions
------------------------------------------------------------

/- What is shown of a cached session, without its secrets. -/
structure SessionView where
  path : String
  endpoint : String
  user : String
  isPlatform : Bool
  token : String
  hasCa : Bool
  deriving DecidableEq, Repr

namespace SessionView

/- The view of the session in the file at a path. -/
def ofSession
    (path : String)
    (s : Session) : SessionView :=
  { path
    endpoint := s.endpoint
    user := s.user
    isPlatform := s.isPlatform
    token := Session.redact s.token
    hasCa := !s.ca.isEmpty }

/- A value, or a remark that there is none. -/
def orNone
    (s : String) : String :=
  if s.isEmpty then "<none>" else s

/- The report of a view. -/
def report
    (v : SessionView) : Report :=
  { json := .ofMembers
      [ ("path", .ofText v.path),
        ("endpoint", .ofText v.endpoint),
        ("user", .ofText v.user),
        ("usePlatformIdentity", .bool v.isPlatform),
        ("token", .ofText v.token),
        ("hasCaCert", .bool v.hasCa) ]
    lines :=
      [ "Session",
        String.ofList (List.replicate 34 '═'),
        "Config File:      " ++ v.path,
        "Endpoint:         " ++ orNone v.endpoint,
        "User:             " ++ orNone v.user,
        "Token:            " ++ orNone v.token,
        "Identity:         "
          ++ (if v.isPlatform then "platform" else "human"),
        "CA Certificate:   "
          ++ (if v.hasCa then "cached" else "none") ] }

end SessionView
end WorkspaceClient
