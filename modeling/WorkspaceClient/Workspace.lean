import WorkspaceClient.Filter
import WorkspaceClient.Json.Decode

/-
  This file defines workspaces, the rows of the workspace
  list.

  Key definitions include:
    * `Workspace`
    * `Workspace.allUrls`
    * `Workspace.columns`
    * `Workspace.shape`
    * `Workspace.toJson`
-/

namespace WorkspaceClient

------------------------------------------------------------
-- Rows
------------------------------------------------------------

/- A workspace of a user. -/
structure Workspace where
  name : String
  ownerName : String
  template : String
  phase : String
  mainUrl : String
  urls : List String
  deriving DecidableEq, Repr

namespace Workspace

/- A workspace of which nothing is known is pending. -/
def initial : Workspace :=
  { name := ""
    ownerName := ""
    template := ""
    phase := "Pending"
    mainUrl := ""
    urls := [] }

/- Add a URL unless it is empty or listed already. -/
def addUrl
    (urls : List String)
    (url : String) : List String :=
  if url.isEmpty || urls.contains url then
    urls
  else
    urls ++ [url]

/-
  The main URL and then the other URLs, without empty ones
  and without repetitions.
-/
def allUrls
    (w : Workspace) : List String :=
  w.urls.foldl addUrl (addUrl [] w.mainUrl)

/- The columns that filters can name. -/
def columns : Columns Workspace where
  names := ["name", "user", "template", "phase", "url"]
  values := fun w key =>
    if key = "name" then
      [w.name]
    else if key = "user" then
      [w.ownerName]
    else if key = "template" then
      [w.template]
    else if key = "phase" then
      [w.phase]
    else if key = "url" then
      w.allUrls
    else
      []

------------------------------------------------------------
-- JSON
------------------------------------------------------------

/- How a workspace is read from JSON. -/
def shape : Json.Shape Workspace where
  title := "Workspace"
  initial := initial
  fields :=
    [ .of "name" .string fun w s => { w with name := s },
      .of "ownerName" .string fun w s =>
        { w with ownerName := s },
      .of "template" .string fun w s =>
        { w with template := s },
      .of "phase" .string fun w s => { w with phase := s },
      .of "mainUrl" .string fun w s =>
        { w with mainUrl := s },
      .of "urls" (.list .string) fun w ss =>
        { w with urls := ss } ]

/- The JSON value of a workspace. -/
def toJson
    (w : Workspace) : Json :=
  .ofMembers
    [ ("name", .ofText w.name),
      ("ownerName", .ofText w.ownerName),
      ("template", .ofText w.template),
      ("phase", .ofText w.phase),
      ("mainUrl", .ofText w.mainUrl),
      ("urls", .ofTexts w.urls) ]

end Workspace
end WorkspaceClient
