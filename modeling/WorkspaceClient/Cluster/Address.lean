import WorkspaceClient.Bytes.Basic
import WorkspaceClient.Http.Network
import WorkspaceClient.Text.Search

/-
  This file defines request targets and the addresses of
  cluster API servers, with the characters that they may
  consist of.

  Key definitions include:
    * `Cluster.target?`
    * `Cluster.Address`
    * `Cluster.Address.parse?`
    * `Cluster.Address.text`
    * `Cluster.Address.resolve`
    * `Cluster.Address.origin`
-/

namespace WorkspaceClient
namespace Cluster

------------------------------------------------------------
-- Targets
------------------------------------------------------------

/- The characters that the path of a target may hold. -/
def isPathChar
    (c : Char) : Bool :=
  let n := c.toNat
  n == 0x21 || (0x24 ≤ n && n ≤ 0x3B) || n == 0x3D
    || (0x40 ≤ n && n ≤ 0x5F) || (0x61 ≤ n && n ≤ 0x7E)
    || 0x7F ≤ n || c == '"'

/- The characters that the query of a target may hold. -/
def isQueryChar
    (c : Char) : Bool :=
  let n := c.toNat
  n == 0x21 || (0x24 ≤ n && n ≤ 0x3B) || n == 0x3D
    || 0x3F ≤ n

/-
  The path and the query of a target, which are cut off
  before a number sign, if their characters are allowed.
-/
def splitTarget?
    (cs : List Char) :
    Option (List Char × Option (List Char)) :=
  let kept := cs.takeWhile (· != '#')
  let (path, query) := Text.splitAtFirst (· == '?') kept
  if path.all isPathChar
      && (query.getD []).all isQueryChar then
    some (path, query)
  else
    none

/- A query with its question mark. -/
def queryText : Option (List Char) → List Char
  | some query => '?' :: query
  | none => []

/- The target that a text names, if it is allowed. -/
def target?
    (s : String) : Option String := do
  let (path, query) ← splitTarget? s.toList
  return String.ofList (path ++ queryText query)

------------------------------------------------------------
-- Addresses
------------------------------------------------------------

/- The address of a server. The scheme may be missing. -/
structure Address where
  scheme : Option String
  authority : List Char
  path : List Char
  query : Option (List Char)
  deriving DecidableEq, Repr

/- The characters that an authority may hold. -/
def isAuthorityChar
    (c : Char) : Bool :=
  (c.isAlphanum
    || "!$&'()*+,-.:;=@[]_~".toList.contains c)

/- Whether an authority has at most one port. -/
def isServer
    (cs : List Char) : Bool :=
  let outside :=
    if cs.contains ']' then
      (cs.reverse.takeWhile (· != ']')).reverse
    else
      cs
  outside.count ':' ≤ 1 && !cs.contains '%'
    && cs.count '[' ≤ 1 && cs.count '[' == cs.count ']'
    && (cs.takeWhile (· != ']')).contains '['
      == cs.contains '['

/- Whether a text is an authority. -/
def isAuthority
    (cs : List Char) : Bool :=
  let server := (cs.reverse.takeWhile (· != '@')).reverse
  (cs.all fun c => isAuthorityChar c || c == '%')
    && !(cs.contains '@' && server.isEmpty)
    && isServer server

/- The characters of a scheme. -/
def isSchemeChar
    (c : Char) : Bool :=
  c.isAlphanum || c == '+' || c == '-' || c == '.'

/- The scheme of an address and the text after its slashes. -/
def splitScheme
    (cs : List Char) : Option String × List Char :=
  let name := cs.takeWhile isSchemeChar
  let rest := cs.dropWhile isSchemeChar
  if !name.isEmpty && "://".toList.isPrefixOf rest then
    let lower := String.ofList (name.map Char.toLower)
    let shown :=
      if lower = "http" ∨ lower = "https" then
        lower
      else
        String.ofList name
    (some shown, rest.drop 3)
  else
    (none, cs)

/- The address that a text names. -/
def Address.parse?
    (s : String) : Option Address := do
  let (scheme, rest) := splitScheme s.toList
  let ends := fun c => c == '/' || c == '?' || c == '#'
  let authority := rest.takeWhile (!ends ·)
  let target := rest.dropWhile (!ends ·)
  if !isAuthority authority then
    none
  else if scheme.isNone && !target.isEmpty then
    none
  else if authority.isEmpty then
    none
  else
    let (path, query) ← splitTarget? target
    return { scheme, authority, path, query }

/- The text of an address. -/
def Address.text
    (a : Address) : String :=
  match a.scheme with
  | none => String.ofList a.authority
  | some scheme =>
      let path := if a.path.isEmpty then ['/'] else a.path
      String.ofList
        (scheme.toList ++ "://".toList ++ a.authority ++ path
          ++ queryText a.query)

/- A path without slashes at its end. -/
def trimSlashes
    (cs : List Char) : List Char :=
  (cs.reverse.dropWhile (· == '/')).reverse

/- The target of a request below the path of an address. -/
def Address.resolve
    (a : Address)
    (target : String) : String :=
  String.ofList (trimSlashes a.path) ++ target

/- The server that an address leads to. -/
def Address.origin
    (a : Address) : Http.Origin :=
  let server :=
    (a.authority.reverse.takeWhile (· != '@')).reverse
  let port := (server.reverse.takeWhile Char.isDigit).reverse
  let before := server.take (server.length - port.length)
  let scheme := a.scheme.getD ""
  if before.getLast? = some ':' then
    { scheme
      host := String.ofList before.dropLast
      port := Text.digitsToNat port }
  else
    { scheme
      host := String.ofList server
      port := if scheme = "https" then 443 else 80 }

end Cluster
end WorkspaceClient
