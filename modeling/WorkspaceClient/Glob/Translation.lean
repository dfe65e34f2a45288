import WorkspaceClient.Glob.Pattern
import WorkspaceClient.Regex.Expression

/-
  This file defines the translation of globs into regular
  expressions, and the matching of a whole text by the
  expression.

  Characters with a meaning in an expression are written
  with a backslash. The dashes of ranges are written as they
  are.

  Key definitions include:
    * `Glob.Piece.written`
    * `Glob.translate`
    * `Glob`
    * `Glob.compile`
    * `Glob.isMatch`
-/

namespace WorkspaceClient
namespace Glob

------------------------------------------------------------
-- Writing
------------------------------------------------------------

/- A character outside of classes. -/
def writtenChar
    (c : Char) : List Char :=
  if Regex.isMeta c then ['\\', c] else [c]

/- The characters that are escaped inside a class. -/
def classMetaChars : List Char :=
  ['\\', '[', ']', '^', '-', '&', '~']

/- A mark inside a class. -/
def Mark.written : Mark → List Char
  | member c =>
      if classMetaChars.contains c then ['\\', c] else [c]
  | dash => ['-']

/- A class with its brackets. -/
def writtenClass
    (negated : Bool)
    (marks : List Mark) : List Char :=
  '[' :: (if negated then ['^'] else [])
    ++ marks.flatMap Mark.written ++ [']']

/- A piece of a pattern. -/
def Piece.written : Piece → List Char
  | anyRun => ['.', '*']
  | anyChar => ['.']
  | literal c => writtenChar c
  | bracket negated marks => writtenClass negated marks

/- The regular expression of a pattern. -/
def translate
    (pattern : List Char) : Except Fault (List Char) := do
  let pieces ← scanPieces 0 pattern
  return ['^', '(', '?', 's', ':']
    ++ pieces.flatMap Piece.written ++ [')', '$']

end Glob

------------------------------------------------------------
-- Globs
------------------------------------------------------------

/- A glob as written, with its regular expression. -/
structure Glob where
  source : String
  regex : Regex
  deriving DecidableEq, Repr

namespace Glob

/-
  Read a glob. A fault in the form of a class is reported
  before one of the regular expression.
-/
def compile
    (source : String) : Except Fault Glob := do
  let text ← translate source.toList
  match Regex.read? text with
  | some regex => return { source, regex }
  | none => throw .unreadable

/- Whether a glob matches a whole text. -/
def isMatch
    (glob : Glob)
    (text : String) : Bool :=
  glob.regex.isMatch text.toList

end Glob
end WorkspaceClient
