import WorkspaceClient.Text.Search

/-
  This file defines the warnings that a command may give
  beside its answer.

  Key definitions include:
    * `Warning`
    * `Warning.message`
    * `Warning.fields`
    * `Warning.source`
-/

namespace WorkspaceClient

------------------------------------------------------------
-- Warnings
------------------------------------------------------------

/-
  A filter names a column that the rows do not have, a
  cached CA certificate cannot be read, or the server
  refused a cached session.
-/
inductive Warning where
  | unknownFilterKey (filter : String) (known : List String)
  | unreadableCa (error : String)
  | sessionRejected (error : String)
  deriving DecidableEq, Repr

namespace Warning

/- The sentence of a warning. -/
def message : Warning → String
  | unknownFilterKey _ _ =>
      "unknown filter key, ignoring"
  | unreadableCa _ =>
      "cached CA is unreadable, bootstrapping again"
  | sessionRejected _ =>
      "session rejected, re-authenticating"

/- The details of a warning, with their names. -/
def fields : Warning → List (String × String)
  | unknownFilterKey filter known =>
      [("filter", filter), ("known", Text.join "," known)]
  | unreadableCa error =>
      [("error", error)]
  | sessionRejected error =>
      [("error", error)]

/- The part of the program that gives a warning. -/
def source : Warning → String
  | unknownFilterKey _ _ => "burrow_filter"
  | unreadableCa _ => "burrow_cli::reauth"
  | sessionRejected _ => "burrow_cli::reauth"

end Warning
end WorkspaceClient
