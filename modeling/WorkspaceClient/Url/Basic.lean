import WorkspaceClient.Url.Host

/-
  This file defines the URLs of web servers, their text, and
  the resolution of a path against a URL.

  Key definitions include:
    * `Url`
    * `Url.text`
    * `Url.target`
    * `Url.asBase`
    * `Url.join`
-/

namespace WorkspaceClient

------------------------------------------------------------
-- Schemes
------------------------------------------------------------

/- The two schemes of web servers. -/
inductive Url.Scheme where
  | http
  | https
  deriving DecidableEq, Repr

/- The name of a scheme. -/
def Url.Scheme.name : Url.Scheme → String
  | http => "http"
  | https => "https"

/- The port of a scheme that a URL need not name. -/
def Url.Scheme.defaultPort : Url.Scheme → Nat
  | http => 80
  | https => 443

------------------------------------------------------------
-- URLs
------------------------------------------------------------

/-
  A URL in parts. The segments of the path stand between its
  slashes, so a path that ends in a slash has an empty last
  segment. All parts are percent-encoded where needed.
-/
structure Url where
  scheme : Url.Scheme
  username : List Char
  password : List Char
  host : Url.Host
  port : Option Nat
  segments : List (List Char)
  query : Option (List Char)
  fragment : Option (List Char)
  deriving DecidableEq, Repr

namespace Url

/- The path as text, with a slash before every segment. -/
def pathText
    (u : Url) : List Char :=
  u.segments.flatMap ('/' :: ·)

/- The user name and password before the host. -/
def userText
    (u : Url) : List Char :=
  if u.username.isEmpty && u.password.isEmpty then
    []
  else
    u.username
      ++ (if u.password.isEmpty then
            []
          else
            ':' :: u.password)
      ++ ['@']

/- The port after the host, unless the scheme implies it. -/
def portText
    (u : Url) : List Char :=
  match u.port with
  | some port => ':' :: (toString port).toList
  | none => []

/- The query after its question mark. -/
def queryText
    (u : Url) : List Char :=
  match u.query with
  | some q => '?' :: q
  | none => []

/- The fragment after its number sign. -/
def fragmentText
    (u : Url) : List Char :=
  match u.fragment with
  | some f => '#' :: f
  | none => []

/- The text of a URL. -/
def text
    (u : Url) : String :=
  String.ofList
    (u.scheme.name.toList ++ "://".toList ++ u.userText
      ++ u.host.text ++ u.portText ++ u.pathText
      ++ u.queryText ++ u.fragmentText)

/- The path and query that a request for a URL names. -/
def target
    (u : Url) : String :=
  String.ofList (u.pathText ++ u.queryText)

/- The port that a URL leads to. -/
def effectivePort
    (u : Url) : Nat :=
  u.port.getD u.scheme.defaultPort

------------------------------------------------------------
-- Resolution
------------------------------------------------------------

/- The URL with a path that ends in a slash. -/
def asBase
    (u : Url) : Url :=
  if u.segments.getLast? = some [] then
    u
  else
    { u with segments := u.segments ++ [[]] }

/-
  The URL of a relative path: it takes the place of what
  stands behind the last slash.
-/
def join
    (base : Url)
    (path : List Char) : Url :=
  { base with
    segments := base.segments.dropLast
      ++ Text.splitOn ['/'] path
    query := none
    fragment := none }

end Url
end WorkspaceClient
