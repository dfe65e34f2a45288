import WorkspaceClient.CommandLine.Parameter

/-
  This file defines the tree of the commands, and the line
  that tells how a command is used.

  Key definitions include:
    * `Level`
    * `Level.names`
    * `Level.children`
    * `Level.parameters`
    * `Level.child?`
    * `usageOf`
-/

namespace WorkspaceClient
namespace CommandLine

------------------------------------------------------------
-- Levels
------------------------------------------------------------

/- The program, its groups of commands, and its commands. -/
inductive Level where
  | root
  | login
  | workspace
  | workspaceList
  | user
  | userList
  | config
  | configView
  deriving DecidableEq, Repr

namespace Level

/- The name of a level and the other names it answers to. -/
def names : Level → String × List String
  | root => ("burrow", [])
  | login => ("login", [])
  | workspace => ("workspace", ["ws"])
  | workspaceList => ("list", ["ls"])
  | user => ("user", [])
  | userList => ("list", ["ls"])
  | config => ("config", [])
  | configView => ("view", [])

/- The levels below a level. -/
def children : Level → List Level
  | root => [login, workspace, user, config]
  | workspace => [workspaceList]
  | user => [userList]
  | config => [configView]
  | _ => []

/- Whether a level only groups others. -/
def isGroup
    (l : Level) : Bool :=
  !l.children.isEmpty

/- The parameters that every level has. -/
def sharedParameters : List Parameter :=
  [.format, .direct, .dashboardUrl, .config, .kubeconfig,
    .context, .ns, .port, .bootstrapUrl, .identityFile, .help]

/- The parameters that only one level has. -/
def ownParameters : Level → List Parameter
  | root => [.version]
  | login => [.user, .fromInput, .password, .caFile]
  | workspaceList => [.owner, .filter]
  | userList => [.filter]
  | _ => []

/- All parameters of a level. -/
def parameters
    (l : Level) : List Parameter :=
  l.ownParameters ++ sharedParameters

/- The parameter of a level with a long name. -/
def long?
    (l : Level)
    (name : String) : Option Parameter :=
  l.parameters.find? fun p => p.long? == some name

/- The parameter of a level with a letter. -/
def short?
    (l : Level)
    (letter : Char) : Option Parameter :=
  l.parameters.find? fun p => p.short? == some letter

/- Whether a level answers to a name. -/
def answersTo
    (l : Level)
    (name : String) : Bool :=
  name == l.names.1 || l.names.2.contains name

/- The level below a level that answers to a name. -/
def child?
    (l : Level)
    (name : String) : Option Level :=
  l.children.find? fun c => c.answersTo name

end Level

/- The name of the command that explains the others. -/
def helpName : String :=
  "help"

------------------------------------------------------------
-- Usage
------------------------------------------------------------

/- What follows the name of a level in its usage. -/
def Level.usageTail
    (l : Level) : String :=
  match l with
  | .login => " [OPTIONS] <USER>"
  | _ => if l.isGroup then " [OPTIONS] <COMMAND>" else " [OPTIONS]"

/- The start of every usage. -/
def usageHead
    (walked : List String) : String :=
  "Usage: " ++ Text.join " " walked

/-
  The usage of the explanation of a level. Below it, levels
  answer to their first names only.
-/
def usageOfHelp
    (walked : List String)
    (l : Level) : List String → String
  | [] =>
      usageHead walked
        ++ if l.isGroup then " [COMMAND]" else ""
  | name :: rest =>
      match l.children.find? fun c => c.names.1 == name with
      | some c => usageOfHelp (walked ++ [name]) c rest
      | none =>
          usageHead walked
            ++ if l.isGroup then " [COMMAND]" else ""

/- The usage of the explanation among a group's commands. -/
def usageOfHelpIn
    (walked : List String)
    (l : Level)
    (path : List String) : String :=
  match path with
  | name :: _ =>
      if name = helpName then
        usageHead (walked ++ [helpName])
      else
        usageOfHelp walked l path
  | [] => usageOfHelp walked l []

/- The usage of the level that a path leads to from another. -/
def usageFrom
    (walked : List String)
    (l : Level) : List String → String
  | [] => usageHead walked ++ l.usageTail
  | name :: rest =>
      match l.child? name with
      | some c => usageFrom (walked ++ [c.names.1]) c rest
      | none =>
          if l.isGroup ∧ name = helpName then
            usageOfHelpIn (walked ++ [helpName]) l rest
          else
            usageHead walked ++ l.usageTail

/-
  The usage of the command at a path. A name that nothing
  answers to ends the path.
-/
def usageOf
    (path : List String) : String :=
  usageFrom [Level.root.names.1] .root path

end CommandLine
end WorkspaceClient
