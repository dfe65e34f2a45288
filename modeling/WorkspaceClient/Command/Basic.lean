import WorkspaceClient.Command.Listing
import WorkspaceClient.Command.Login

/-
  This file defines the commands and running them.

  Malformed filters are refused before anything else is
  looked at. The list itself reads its filters again.

  Key definitions include:
    * `Command`
    * `Command.path`
    * `Invocation`
    * `Command.list`
    * `Command.report`
    * `Invocation.runBy`
    * `Invocation.run`
-/

namespace WorkspaceClient

------------------------------------------------------------
-- Commands
------------------------------------------------------------

/- What is to be done. -/
inductive Command where
  | login (arguments : Login.Arguments)
  | listWorkspaces
      (user : Option String)
      (filters : List String)
  | listUsers (filters : List String)
  | viewConfig
  deriving DecidableEq, Repr

/- The names that select a command. -/
def Command.path : Command → List String
  | login _ => ["login"]
  | listWorkspaces _ _ => ["workspace", "list"]
  | listUsers _ => ["user", "list"]
  | viewConfig => ["config", "view"]

/- A command with the options that all commands have. -/
structure Invocation where
  format : Format
  connection : Connection
  command : Command
  deriving DecidableEq, Repr

------------------------------------------------------------
-- Running
------------------------------------------------------------

/- The view of the session in the session file. -/
def viewConfig
    (path : String)
    (fs : Files) : Except SessionFile.Fault Report := do
  let session ← SessionFile.load path fs
  return (SessionView.ofSession path session).report

namespace Command

/-
  List rows for a report. Malformed expressions are refused
  before the backend is chosen that the rows come from. A
  session that has changed is kept in some way.
-/
def list
    {α : Type}
    (keeper : SessionFile.Keeper)
    (c : Connection)
    (home : Option String)
    (expressions : List String)
    (rows : Backend → Task Network (List α × List Warning))
    (report : List α → Report) : Task World Report := do
  .ofExcept (Listing.checkFilters expressions)
  let backend ← Route.selectBy keeper c home
  let (rows, warnings) ← World.online (rows backend)
  World.warnAll warnings
  return report rows

/-
  Run a command for its report. A session that has changed
  is kept in some way.
-/
def report
    (keeper : SessionFile.Keeper)
    (c : Connection)
    (home : Option String)
    (input : Bytes) : Command → Task World Report
  | login arguments =>
      Login.runBy keeper c home arguments input
  | listWorkspaces user expressions =>
      list keeper c home expressions
        (fun backend =>
          Listing.selectWorkspaces backend.catalog user
            expressions)
        Workspace.report
  | listUsers expressions =>
      list keeper c home expressions
        (fun backend =>
          Listing.selectUsers backend.catalog expressions)
        User.report
  | .viewConfig => do
      let path ← .ofExcept (c.storePath home)
      let w ← Task.get
      match WorkspaceClient.viewConfig path w.files with
      | .ok report => return report
      | .error fault => .fail (.sessionFile fault)

end Command

/-
  Run an invocation for its output. A session that has
  changed is kept in some way.
-/
def Invocation.runBy
    (keeper : SessionFile.Keeper)
    (i : Invocation)
    (home : Option String)
    (input : Bytes) : Task World String := do
  let report ←
    i.command.report keeper i.connection home input
  return report.render i.format

/- Run an invocation for its output, and save the session. -/
def Invocation.run
    (i : Invocation)
    (home : Option String)
    (input : Bytes) : Task World String :=
  i.runBy SessionFile.save home input

end WorkspaceClient
