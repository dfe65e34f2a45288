import WorkspaceClient.Command.Basic
import WorkspaceClient.CommandLine.Reading

/-
  This file defines the invocation that the words of a
  command line and the environment ask for.

  A parameter that several levels have is taken from the
  lowest level whose words give it, else from the
  environment.

  Key definitions include:
    * `Settings`
    * `Settings.ofReadings`
    * `Settings.connection`
    * `Settings.command?`
    * `parse`
-/

namespace WorkspaceClient
namespace CommandLine

------------------------------------------------------------
-- Settings
------------------------------------------------------------

/- The values of every parameter, and the level reached. -/
structure Settings where
  values : Parameter → List (Option String)
  level : Level

namespace Settings

/- The values of a parameter in the lowest level with it. -/
def givenValues
    (readings : List Reading)
    (p : Parameter) : List (Option String) :=
  match readings.reverse.find? fun r => r.has p with
  | some r =>
      (r.given.filter fun g => g.1 == p).map fun g => g.2
  | none => []

/- The settings that readings and the environment make. -/
def ofReadings
    (environment : String → Option String)
    (readings : List Reading) : Settings :=
  { values := fun p =>
      match givenValues readings p with
      | [] =>
          ((Reading.fromEnvironment environment p).map
            some).toList
      | values => values
    level := (readings.getLast?.map Reading.level).getD .root }

/- The value of a parameter. -/
def value?
    (s : Settings)
    (p : Parameter) : Option String :=
  (s.values p).head?.join

/- Whether a switch is given. -/
def isOn
    (s : Settings)
    (p : Parameter) : Bool :=
  !(s.values p).isEmpty

------------------------------------------------------------
-- Invocations
------------------------------------------------------------

/- The format of the output. -/
def format
    (s : Settings) : Format :=
  ((s.value? .format).bind Format.ofName?).getD .table

/- The options of all commands. -/
def connection
    (s : Settings) : Connection :=
  { direct := s.isOn .direct
    dashboardUrl := s.value? .dashboardUrl
    config := s.value? .config
    kubeconfig := s.value? .kubeconfig
    context := s.value? .context
    ns := (s.value? .ns).getD Connection.usual.ns
    port :=
      ((s.value? .port).bind portOfText?).getD
        Connection.usual.port
    bootstrapUrl := s.value? .bootstrapUrl
    identityFile := s.value? .identityFile }

/- The arguments of a login. -/
def loginArguments
    (s : Settings) : Login.Arguments :=
  { user := (s.value? .user).getD ""
    fromInput := s.isOn .fromInput
    password := s.value? .password
    caFile := s.value? .caFile }

/- The filters, in order. -/
def filters
    (s : Settings) : List String :=
  (s.values .filter).reduceOption

/- The command of the level that was reached. -/
def command?
    (s : Settings) : Option Command :=
  match s.level with
  | .login => some (.login s.loginArguments)
  | .workspaceList =>
      some (.listWorkspaces (s.value? .owner) s.filters)
  | .userList => some (.listUsers s.filters)
  | .configView => some .viewConfig
  | _ => none

end Settings

------------------------------------------------------------
-- Parsing
------------------------------------------------------------

/- The invocation that the words of a command line ask for. -/
def parse
    (environment : String → Option String)
    (words : List String) : Except Misuse Invocation := do
  let settings := Settings.ofReadings environment
    (← readWords environment words)
  match settings.command? with
  | none => throw .missingCommand
  | some command =>
      return {
        format := settings.format
        connection := settings.connection
        command }

end CommandLine
end WorkspaceClient
