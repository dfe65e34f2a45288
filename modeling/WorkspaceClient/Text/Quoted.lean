import WorkspaceClient.Text.Printable
import WorkspaceClient.Text.Search

/-
  This file defines the quoted form of a text that messages
  show: the text between double quotes, with quotes,
  backslashes and unprintable characters escaped.

  Key definitions include:
    * `Text.quotedChar`
    * `Text.quoted`
-/

namespace WorkspaceClient
namespace Text

/- One character inside a quoted text. -/
def quotedChar
    (c : Char) : List Char :=
  if c == '"' then
    ['\\', '"']
  else if c == '\\' then
    ['\\', '\\']
  else if c == '\n' then
    ['\\', 'n']
  else if c == '\r' then
    ['\\', 'r']
  else if c == '\t' then
    ['\\', 't']
  else if c.toNat == 0 then
    ['\\', '0']
  else if isPrintable c then
    [c]
  else
    ['\\', 'u', '{'] ++ Nat.toDigits 16 c.toNat ++ ['}']

/- The text between double quotes. -/
def quoted
    (s : String) : String :=
  String.ofList
    ('"' :: s.toList.flatMap quotedChar ++ ['"'])

end Text
end WorkspaceClient
