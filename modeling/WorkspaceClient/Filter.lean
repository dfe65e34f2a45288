import WorkspaceClient.Glob.Translation
import WorkspaceClient.Text.Blank
import WorkspaceClient.Text.Search
import WorkspaceClient.Warning

/-
  This file defines filter expressions over the columns of a
  list, their reading from text, and their application.

  A filter keeps the rows of which some value of a column
  matches a glob, or those of which none does.

  Key definitions include:
    * `Filter.Operator`
    * `Filter`
    * `Filter.text`
    * `Filter.Fault`
    * `Filter.Refusal`
    * `Filter.parse`
    * `Filter.parseAll`
    * `Filter.accepts`
    * `Columns`
    * `Columns.filter`
    * `Columns.filterAll`
-/

namespace WorkspaceClient

------------------------------------------------------------
-- Expressions
------------------------------------------------------------

/-
  Whether a filter asks for some matching value or for none.
-/
inductive Filter.Operator where
  | equal
  | notEqual
  deriving DecidableEq, Repr

/- The operator as it is written. -/
def Filter.Operator.text : Filter.Operator → String
  | equal => "=="
  | notEqual => "!="

/-
  A column name in lower case, an operator, and the glob for
  the values of the column.
-/
structure Filter where
  key : String
  operator : Filter.Operator
  pattern : Glob
  deriving DecidableEq, Repr

namespace Filter

/- The filter as it is written. -/
def text
    (f : Filter) : String :=
  f.key ++ f.operator.text ++ f.pattern.source

------------------------------------------------------------
-- Refusals
------------------------------------------------------------

/- What is wrong with a filter expression. -/
inductive Fault where
  | noOperator
  | bothOperators
  | repeatedOperator (operator : Operator)
  | emptyKey
  | badPattern (fault : Glob.Fault)
  deriving DecidableEq, Repr

/- The text of a fault. -/
def Fault.message : Fault → String
  | noOperator =>
      "expected KEY==VALUE or KEY!=VALUE"
  | bothOperators =>
      "only one operator is allowed"
  | repeatedOperator operator =>
      "operator '" ++ operator.text
        ++ "' may appear only once"
  | emptyKey =>
      "key is empty"
  | badPattern fault =>
      fault.message

/- A refused expression and what is wrong with it. -/
structure Refusal where
  expression : String
  fault : Fault
  deriving DecidableEq, Repr

/- The text of a refusal. -/
def Refusal.message
    (r : Refusal) : String :=
  "invalid filter '" ++ r.expression ++ "': "
    ++ r.fault.message

------------------------------------------------------------
-- Reading
------------------------------------------------------------

/- The only operator that an expression contains. -/
def findOperator
    (expression : String) : Except Fault Operator :=
  match Text.contains expression Operator.equal.text,
      Text.contains expression Operator.notEqual.text with
  | true, false => .ok .equal
  | false, true => .ok .notEqual
  | false, false => .error .noOperator
  | true, true => .error .bothOperators

/- The texts on the two sides of an operator. -/
def sides
    (operator : Operator)
    (expression : String) :
    Except Fault (String × String) :=
  match Text.splitOn operator.text.toList
      expression.toList with
  | [key, value] =>
      .ok (String.ofList key, String.ofList value)
  | _ => .error (.repeatedOperator operator)

/- A character in lower case, if it is an ASCII letter. -/
def lowerText
    (s : String) : String :=
  String.ofList (s.toList.map Char.toLower)

/-
  Read an expression, without its own text in the fault.
-/
def read
    (expression : String) : Except Fault Filter := do
  let operator ← findOperator expression
  let (key, value) ← sides operator expression
  let key := Text.trim key
  if key.isEmpty then
    throw .emptyKey
  match Glob.compile (Text.trim value) with
  | .ok pattern =>
      return { key := lowerText key, operator, pattern }
  | .error fault => throw (.badPattern fault)

/- Read an expression. -/
def parse
    (expression : String) : Except Refusal Filter :=
  match read expression with
  | .ok f => .ok f
  | .error fault => .error { expression, fault }

/-
  Read several expressions. The first malformed one decides
  the refusal of all.
-/
def parseAll
    (expressions : List String) :
    Except Refusal (List Filter) :=
  expressions.mapM parse

------------------------------------------------------------
-- Application
------------------------------------------------------------

/- Whether a filter accepts a row with these values. -/
def accepts
    (f : Filter)
    (values : List String) : Bool :=
  match f.operator with
  | .equal => values.any f.pattern.isMatch
  | .notEqual => !values.any f.pattern.isMatch

end Filter

------------------------------------------------------------
-- Columns
------------------------------------------------------------

/-
  The named columns of a kind of row. A column may have any
  number of values in a row.
-/
structure Columns (α : Type) where
  names : List String
  values : α → String → List String

namespace Columns

variable {α : Type}

/-
  Whether a filter names one of the columns. The case of
  ASCII letters does not matter.
-/
def knows
    (columns : Columns α)
    (f : Filter) : Bool :=
  columns.names.any fun name =>
    Filter.lowerText name == Filter.lowerText f.key

/-
  The rows that a filter keeps. A filter on an unknown
  column keeps all rows and gives a warning.
-/
def filter
    (columns : Columns α)
    (rows : List α)
    (f : Filter) : List α × List Warning :=
  if columns.knows f then
    (rows.filter fun row =>
      f.accepts (columns.values row f.key), [])
  else
    (rows, [.unknownFilterKey f.text columns.names])

/- The rows that all filters keep, applied in order. -/
def filterAll
    (columns : Columns α)
    (rows : List α) : List Filter → List α × List Warning
  | [] => (rows, [])
  | f :: fs =>
      let (kept, warnings) := columns.filter rows f
      let (final, later) := columns.filterAll kept fs
      (final, warnings ++ later)

end Columns
end WorkspaceClient
