import WorkspaceClient.Failure

/-
  This file defines what a command reports, the two formats
  a report is written in, and writing into a limited space.

  Key definitions include:
    * `Format`
    * `Report`
    * `Report.render`
    * `Report.deliver`
    * `Report.ofMessage`
-/

namespace WorkspaceClient

------------------------------------------------------------
-- Reports
------------------------------------------------------------

/- A report is written as a table or as JSON. -/
inductive Format where
  | table
  | json
  deriving DecidableEq, Repr

/- The name of a format. -/
def Format.name : Format → String
  | table => "table"
  | json => "json"

/- The format of a name. -/
def Format.ofName?
    (name : String) : Option Format :=
  if name = "table" then
    some .table
  else if name = "json" then
    some .json
  else
    none

/- A report as JSON and as the lines of a table. -/
structure Report where
  json : Json
  lines : List String
  deriving Repr

namespace Report

/- Lines of text, each ended by a line feed. -/
def joinLines
    (lines : List String) : String :=
  String.join (lines.map fun line => line ++ "\n")

/- The text of a report. -/
def render
    (report : Report) : Format → String
  | .table => joinLines report.lines
  | .json => report.json.pretty ++ "\n"

/- The report that an action succeeded. -/
def ofMessage
    (message : String) : Report :=
  { json := .ofMembers [("message", .ofText message)]
    lines := ["✓ " ++ message] }

------------------------------------------------------------
-- Delivery
------------------------------------------------------------

/- Why a writer refuses more bytes. -/
def writerFull : String :=
  "writer full"

/-
  Write a report into a space of `limit` bytes: the bytes
  that were written, and the failure if not all were.

  A JSON document that is cut is one that could not be
  formatted; a cut line is one that could not be written.
-/
def deliver
    (report : Report)
    (format : Format)
    (limit : Nat) : Bytes × Except Failure Unit :=
  let bytes := Bytes.ofText (report.render format)
  if bytes.length ≤ limit then
    (bytes, .ok ())
  else if format = .json ∧ limit + 1 < bytes.length then
    (bytes.take limit,
      .error (.format
        ("JSON serialization failed: " ++ writerFull)))
  else
    (bytes.take limit, .error (.output writerFull))

end Report
end WorkspaceClient
