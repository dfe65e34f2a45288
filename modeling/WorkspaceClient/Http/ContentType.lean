import WorkspaceClient.Bytes.Charset

/-
  This file defines the reading of a content type: the type
  and the subtype, and the parameters behind them, of which
  one names the character set.

  Key definitions include:
    * `Http.ContentType.Reader`
    * `Http.ContentType.Reader.step`
    * `Http.ContentType.parameters?`
    * `Http.ContentType.charset?`
-/

namespace WorkspaceClient
namespace Http
namespace ContentType

------------------------------------------------------------
-- Type and subtype
------------------------------------------------------------

/- Whether a character may stand in a token. -/
def isToken
    (c : Char) : Bool :=
  c.isAlphanum || "!#$%&'*+-.^_`|~".toList.contains c

/- What stands behind the type and the subtype. -/
def afterSubtype?
    (cs : List Char) : Option (List Char) :=
  match cs.span isToken with
  | (_ :: _, '/' :: rest) =>
      match rest.span isToken with
      | (_ :: _, after) => some after
      | ([], _) => none
  | _ => none

------------------------------------------------------------
-- Parameters
------------------------------------------------------------

/-
  Where a reader of parameters is, with what it has read of
  the current one.
-/
inductive Place where
  | name (name : List Char)
  | value (name value : List Char)
  | quoted (name value : List Char)
  | after
  deriving DecidableEq, Repr

/- A reader of parameters, with those that it has read. -/
structure Reader where
  place : Place
  parameters : List (List Char × List Char)
  deriving DecidableEq, Repr

namespace Reader

/- The reader has come to another place. -/
def goTo
    (r : Reader)
    (place : Place) : Reader :=
  { r with place }

/- The reader has read a parameter. -/
def add
    (r : Reader)
    (name value : List Char)
    (place : Place) : Reader where
  place := place
  parameters := r.parameters ++ [(name, value)]

/- Read one character. -/
def step
    (r : Reader)
    (c : Char) : Option Reader :=
  match r.place with
  | .name name =>
      if name.isEmpty && (c == ' ' || c == ';') then
        some r
      else if isToken c then
        some (r.goTo (.name (name ++ [c])))
      else if !name.isEmpty && c == '=' then
        some (r.goTo (.value name []))
      else
        none
  | .value name value =>
      if value.isEmpty && c == '"' then
        some (r.goTo (.quoted name []))
      else if isToken c then
        some (r.goTo (.value name (value ++ [c])))
      else if !value.isEmpty && c == ';' then
        some (r.add name value (.name []))
      else
        none
  | .quoted name value =>
      if !value.isEmpty && c == '"' then
        some (r.add name value .after)
      else if ' ' ≤ c && c ≠ '\x7f' then
        some (r.goTo (.quoted name (value ++ [c])))
      else
        none
  | .after =>
      if c == ';' then
        some (r.goTo (.name []))
      else if c == ' ' then
        some r
      else
        none

/- The parameters at the end, unless one is incomplete. -/
def finish
    (r : Reader) : Option (List (List Char × List Char)) :=
  match r.place with
  | .name [] => some r.parameters
  | .name _ => none
  | .value name value => some (r.parameters ++ [(name, value)])
  | .quoted _ _ => none
  | .after => some r.parameters

end Reader

/- The parameters of a content type, if it is well formed. -/
def parameters?
    (cs : List Char) :
    Option (List (List Char × List Char)) := do
  match ← afterSubtype? cs with
  | [] => return []
  | c :: rest =>
      if c == ';' || c == ' ' then
        let start : Reader :=
          { place := .name []
            parameters := [] }
        let last ← rest.foldlM Reader.step start
        last.finish
      else
        none

/- The character set that a content type names. -/
def charset?
    (cs : List Char) : Option Charset := do
  let all ← parameters? cs
  let found ← all.find? fun entry =>
    String.ofList (entry.1.map Char.toLower) == "charset"
  Charset.ofLabel? found.2

end ContentType
end Http
end WorkspaceClient
