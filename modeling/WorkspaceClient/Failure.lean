import WorkspaceClient.Filter
import WorkspaceClient.SessionFile

/-
  This file defines the failures of a command, the text of a
  failure with several causes, and the reading of a failed
  call as an expired session.

  Key definitions include:
    * `Failure`
    * `Failure.message`
    * `Failure.isValidation`
    * `Failure.chainText`
    * `Failure.ofChain`
    * `Failure.classify`
-/

namespace WorkspaceClient

------------------------------------------------------------
-- Failures
------------------------------------------------------------

/-
  The ways in which a command fails.

  A `validation` failure is one of the input. It is meant to
  be found before anything is sent. A `transport` failure is
  one of the connection or an answer with an unexpected
  status, an `auth` failure a refusal of the credentials,
  and a `protocol` failure an answer that cannot be read.
  The others concern the session file, the filters, and the
  writing of the output.
-/
inductive Failure where
  | validation (text : String)
  | transport (text : String)
  | auth (text : String)
  | sessionExpired
  | notFound (text : String)
  | protocol (text : String)
  | sessionFile (fault : SessionFile.Fault)
  | filter (refusal : Filter.Refusal)
  | format (text : String)
  | output (text : String)
  deriving DecidableEq, Repr

namespace Failure

/- The text of a failure. -/
def message : Failure → String
  | validation text => text
  | transport text => "transport error: " ++ text
  | auth text => "authentication failed: " ++ text
  | sessionExpired =>
      "session has been expired: please login again"
  | notFound text => "not found: " ++ text
  | protocol text => "protocol error: " ++ text
  | sessionFile fault =>
      "configuration error: " ++ fault.message
  | filter refusal => refusal.message
  | format text => "format error: " ++ text
  | output text => "IO error: " ++ text

/- Whether a failure is one of the input or of a filter. -/
def isValidation : Failure → Bool
  | validation _ => true
  | filter _ => true
  | _ => false

------------------------------------------------------------
-- Causes
------------------------------------------------------------

/-
  Add a cause to a text, unless the text mentions it already.
-/
def addCause
    (text cause : String) : String :=
  if Text.contains text cause then
    text
  else
    text ++ ": " ++ cause

/-
  The text of a failure with its causes, the outermost one
  first.
-/
def chainText
    (outermost : String)
    (causes : List String) : String :=
  causes.foldl addCause outermost

/- The failure of a connection, with what was attempted. -/
def ofChain
    (context outermost : String)
    (causes : List String) : Failure :=
  .transport (context ++ ": " ++ chainText outermost causes)

------------------------------------------------------------
-- Expired sessions
------------------------------------------------------------

/- The status of a call that was redirected to the login. -/
def redirectMarker : String :=
  "302 Found"

/- The hint that every other failed connection carries. -/
def sessionHint : String :=
  "session might have expired"

/-
  Read a failed call. A redirected call means that the
  session has expired; any other failed connection may mean
  it.
-/
def classify : Failure → Failure
  | transport text =>
      if Text.contains text redirectMarker then
        sessionExpired
      else if Text.contains text sessionHint then
        transport text
      else
        transport (text ++ " (" ++ sessionHint ++ ")")
  | failure => failure

end Failure
end WorkspaceClient
