import WorkspaceClient.Json.Basic

/-
  This file defines the writing of JSON values, on one line
  and over several lines.

  Key definitions include:
    * `Json.quote`
    * `Json.compact`
    * `Json.pretty`
-/

namespace WorkspaceClient
namespace Json

------------------------------------------------------------
-- Texts
------------------------------------------------------------

/- One character inside a string. -/
def quoteChar
    (c : Char) : List Char :=
  if c = '"' then
    ['\\', '"']
  else if c = '\\' then
    ['\\', '\\']
  else if c.toNat = 0x08 then
    ['\\', 'b']
  else if c.toNat = 0x0C then
    ['\\', 'f']
  else if c = '\n' then
    ['\\', 'n']
  else if c = '\r' then
    ['\\', 'r']
  else if c = '\t' then
    ['\\', 't']
  else if c.toNat < 0x20 then
    ['\\', 'u', '0', '0',
      Nat.digitChar (c.toNat / 16),
      Nat.digitChar (c.toNat % 16)]
  else
    [c]

/- A string with its quotes. -/
def quote
    (s : String) : List Char :=
  '"' :: s.toList.flatMap quoteChar ++ ['"']

/- A value without parts. -/
def scalar : Json → List Char
  | null => "null".toList
  | bool true => "true".toList
  | bool false => "false".toList
  | number n => n.text.toList
  | text s => quote (s.getD "")
  | _ => []

------------------------------------------------------------
-- One line
------------------------------------------------------------

mutual

/- A value without any blank. -/
def compactChars : Json → List Char
  | array items => '[' :: compactItems items ++ [']']
  | object members => '{' :: compactMembers members ++ ['}']
  | v => scalar v

/- The items with commas between them. -/
def compactItems : List Json → List Char
  | [] => []
  | [v] => compactChars v
  | v :: w :: vs =>
      compactChars v ++ ',' :: compactItems (w :: vs)

/- The members with commas between them. -/
def compactMembers :
    List (Option String × Json) → List Char
  | [] => []
  | [(k, v)] =>
      quote (k.getD "") ++ ':' :: compactChars v
  | (k, v) :: m :: ms =>
      quote (k.getD "") ++ ':' :: compactChars v
        ++ ',' :: compactMembers (m :: ms)

end

/- The text of a value on one line. -/
def compact
    (v : Json) : String :=
  String.ofList (compactChars v)

------------------------------------------------------------
-- Several lines
------------------------------------------------------------

/- The start of a new line at a level of nesting. -/
def newLine
    (level : Nat) : List Char :=
  '\n' :: List.replicate (2 * level) ' '

mutual

/-
  A value with one item or member a line, indented by two
  blanks for every level of nesting.
-/
def prettyChars
    (level : Nat) : Json → List Char
  | array [] => ['[', ']']
  | array (v :: vs) =>
      '[' :: prettyItems (level + 1) (v :: vs)
        ++ newLine level ++ [']']
  | object [] => ['{', '}']
  | object (m :: ms) =>
      '{' :: prettyMembers (level + 1) (m :: ms)
        ++ newLine level ++ ['}']
  | v => scalar v

/- The items, each on its own line. -/
def prettyItems
    (level : Nat) : List Json → List Char
  | [] => []
  | [v] => newLine level ++ prettyChars level v
  | v :: w :: vs =>
      newLine level ++ prettyChars level v
        ++ ',' :: prettyItems level (w :: vs)

/- The members, each on its own line. -/
def prettyMembers
    (level : Nat) :
    List (Option String × Json) → List Char
  | [] => []
  | [(k, v)] =>
      newLine level ++ quote (k.getD "")
        ++ ':' :: ' ' :: prettyChars level v
  | (k, v) :: m :: ms =>
      newLine level ++ quote (k.getD "")
        ++ ':' :: ' ' :: prettyChars level v
        ++ ',' :: prettyMembers level (m :: ms)

end

/- The text of a value over several lines. -/
def pretty
    (v : Json) : String :=
  String.ofList (prettyChars 0 v)

end Json
end WorkspaceClient
