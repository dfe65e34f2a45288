import WorkspaceClient.CommandLine.Basic

/-
  This file defines the program as a whole: what the words
  of a command line do to the world, and what is printed.

  Key definitions include:
    * `Outcome`
    * `Outcome.ofMisuse`
    * `Outcome.ofResult`
    * `Warning.line`
    * `Program.run`
-/

namespace WorkspaceClient

------------------------------------------------------------
-- Outcomes
------------------------------------------------------------

/- The exit status, and what is printed on the two outputs. -/
structure Outcome where
  status : Nat
  output : String
  errors : String
  deriving DecidableEq, Repr

namespace Outcome

/- The outcome of words that are not run as a command. -/
def ofMisuse : CommandLine.Misuse → Outcome
  | .version =>
      { status := CommandLine.Misuse.version.status
        output := CommandLine.Misuse.versionText
        errors := "" }
  | .help =>
      { status := CommandLine.Misuse.help.status
        output := CommandLine.usageOf [] ++ "\n"
        errors := "" }
  | misuse =>
      { status := misuse.status
        output := ""
        errors := CommandLine.usageOf [] ++ "\n" }

/-
  The text of a failure of the command at a path. How the
  command is used is told if nothing has been sent.
-/
def failureText
    (path : List String)
    (failure : Failure) : String :=
  "Error: " ++ failure.message ++ "\n"
    ++ if failure.isValidation then
        "\n" ++ CommandLine.usageOf path ++ "\n"
      else
        ""

/- The outcome of the command at a path. -/
def ofResult
    (path : List String) : Except Failure String → Outcome
  | .ok output => { status := 0, output, errors := "" }
  | .error failure =>
      { status := 1
        output := ""
        errors := failureText path failure }

end Outcome

------------------------------------------------------------
-- Warnings
------------------------------------------------------------

/- A warning as a line. -/
def Warning.line
    (w : Warning) : String :=
  "WARN " ++ w.source ++ ": " ++ w.message
    ++ String.join
      (w.fields.map fun f => " " ++ f.1 ++ "=" ++ f.2)
    ++ "\n"

/- The levels of detail at which warnings are printed. -/
def Warning.levels : List String :=
  ["warn", "info", "debug", "trace", "2", "3", "4", "5"]

/- Whether warnings are printed at a level of detail. -/
def Warning.isPrinted : Option String → Bool
  | none => true
  | some level => levels.contains (Filter.lowerText level)

------------------------------------------------------------
-- Programs
------------------------------------------------------------

namespace Program

/- The lines of the warnings that a run adds to a world. -/
def warningLines
    (environment : String → Option String)
    (before after : World) : String :=
  if Warning.isPrinted (environment "RUST_LOG") then
    String.join
      ((after.warnings.drop before.warnings.length).map
        Warning.line)
  else
    ""

/- Run the words of a command line in a world. -/
def run
    (environment : String → Option String)
    (words : List String)
    (input : Bytes)
    (world : World) : Outcome × World :=
  match CommandLine.parse environment words with
  | .error misuse => (.ofMisuse misuse, world)
  | .ok invocation =>
      let (result, after) :=
        invocation.run (environment "HOME") input world
      let outcome :=
        Outcome.ofResult invocation.command.path result
      ({ outcome with
          errors :=
            warningLines environment world after
              ++ outcome.errors },
        after)

end Program
end WorkspaceClient
