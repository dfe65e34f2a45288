import WorkspaceClient.Output.Report

/-
  This file defines the parameters of the command line: what
  they are called, which variables of the environment stand
  in for them, and which values they take.

  Key definitions include:
    * `Parameter`
    * `Parameter.long?`
    * `Parameter.variableName?`
    * `Parameter.Kind`
    * `Misuse`
    * `Parameter.check`
    * `portOfText?`
-/

namespace WorkspaceClient
namespace CommandLine

------------------------------------------------------------
-- Parameters
------------------------------------------------------------

/- The parameters of all commands. -/
inductive Parameter where
  | format
  | direct
  | dashboardUrl
  | config
  | kubeconfig
  | context
  | ns
  | port
  | bootstrapUrl
  | identityFile
  | user
  | fromInput
  | password
  | caFile
  | owner
  | filter
  | help
  | version
  deriving DecidableEq, Repr

namespace Parameter

/- The long name. A parameter without one has a position. -/
def long? : Parameter → Option String
  | format => some "format"
  | direct => some "direct"
  | dashboardUrl => some "dashboard-url"
  | config => some "config"
  | kubeconfig => some "kubeconfig"
  | context => some "context"
  | ns => some "namespace"
  | port => some "dashboard-port"
  | bootstrapUrl => some "bootstrap-url"
  | identityFile => some "identity-token-file"
  | user => none
  | fromInput => some "password-stdin"
  | password => some "password"
  | caFile => some "ca-cert"
  | owner => some "user"
  | filter => some "filter"
  | help => some "help"
  | version => some "version"

/- The letter that stands for the long name. -/
def short? : Parameter → Option Char
  | format => some 'f'
  | owner => some 'u'
  | help => some 'h'
  | version => some 'V'
  | _ => none

/- The variable that gives the value if no word does. -/
def variableName? : Parameter → Option String
  | dashboardUrl => some "BURROW_DASHBOARD_URL"
  | config => some "BURROW_CONFIG"
  | kubeconfig => some "KUBECONFIG"
  | context => some "BURROW_KUBE_CONTEXT"
  | ns => some "BURROW_NAMESPACE"
  | port => some "BURROW_DASHBOARD_PORT"
  | bootstrapUrl => some "BURROW_BOOTSTRAP_URL"
  | identityFile => some "BURROW_IDENTITY_TOKEN_FILE"
  | password => some "BURROW_PASSWORD"
  | _ => none

/- Whether a parameter may be given several times. -/
def mayRepeat : Parameter → Bool
  | filter => true
  | _ => false

------------------------------------------------------------
-- Kinds
------------------------------------------------------------

/-
  A switch takes no value; the others take a text, a text
  that is not empty, the name of a format, or a port.
-/
inductive Kind where
  | switch
  | text
  | path
  | format
  | port
  deriving DecidableEq, Repr

/- What a parameter takes. -/
def kind : Parameter → Kind
  | direct => .switch
  | fromInput => .switch
  | help => .switch
  | version => .switch
  | format => .format
  | port => .port
  | config => .path
  | identityFile => .path
  | caFile => .path
  | _ => .text

/- Whether a parameter takes a value. -/
def takesValue
    (p : Parameter) : Bool :=
  p.kind != .switch

end Parameter

------------------------------------------------------------
-- Misuse
------------------------------------------------------------

/-
  The ways in which words are not run as a command. Two of
  them ask for a text on purpose.
-/
inductive Misuse where
  | help
  | version
  | helpForMissingCommand
  | missingCommand
  | missingArgument
  | unknownCommand
  | unknownArgument
  | invalidValue
  | outOfRange
  | givenTwice
  | unexpectedValue
  deriving DecidableEq, Repr

namespace Misuse

/- The exit status that reports a misuse. -/
def status : Misuse → Nat
  | help => 0
  | version => 0
  | _ => 2

/- The name and the version of the program. -/
def versionText : String :=
  "burrow 0.1.0\n"

end Misuse

------------------------------------------------------------
-- Values
------------------------------------------------------------

/- The number that a nonempty list of digits writes. -/
def naturalOfDigits?
    (digits : List Char) : Option Nat :=
  if !digits.isEmpty && digits.all Char.isDigit then
    some (Text.digitsToNat digits)
  else
    none

/- The number in a text with an optional sign. -/
def signedOfText? : List Char → Option Int
  | '-' :: digits =>
      (naturalOfDigits? digits).map fun n => -(n : Int)
  | '+' :: digits =>
      (naturalOfDigits? digits).map fun n => (n : Int)
  | digits =>
      (naturalOfDigits? digits).map fun n => (n : Int)

/- The port that a text names. -/
def portOfText?
    (s : String) : Option Nat :=
  match signedOfText? s.toList with
  | some n =>
      if 0 ≤ n ∧ n < 65536 then some n.toNat else none
  | none => none

/- Whether a text is a value of a parameter. -/
def Parameter.check
    (p : Parameter)
    (value : String) : Except Misuse Unit :=
  match p.kind with
  | .path =>
      if value.isEmpty then .error .invalidValue else .ok ()
  | .format =>
      if (Format.ofName? value).isSome then
        .ok ()
      else
        .error .invalidValue
  | .port =>
      if (portOfText? value).isSome then
        .ok ()
      else
        .error .outOfRange
  | _ => .ok ()

end CommandLine
end WorkspaceClient
