import WorkspaceClient.Cluster.Kubeconfig
import WorkspaceClient.Cluster.Object
import WorkspaceClient.Http.Status
import WorkspaceClient.Trust

/-
  This file defines direct access to the API of a cluster,
  which keeps users and workspaces as objects.

  The workspaces of a user stand in a namespace that is
  named for the user.

  A client is made from a kubeconfig only. The account that
  a cluster mounts for a program of its own is not looked
  for: without a kubeconfig there is no client.

  Key definitions include:
    * `Cluster.userNamespace`
    * `Cluster.Client`
    * `Cluster.Client.resolve`
    * `Cluster.Refusal`
    * `Cluster.Refusal.failure`
    * `Cluster.Client.workspaces`
    * `Cluster.Client.users`
-/

namespace WorkspaceClient
namespace Cluster

------------------------------------------------------------
-- Paths
------------------------------------------------------------

/- The path of the objects of the platform. -/
def groupPath : String :=
  "/apis/burrow.dev/v1alpha1"

/- The namespace with the workspaces of a user. -/
def userNamespace
    (user : String) : String :=
  "burrow-user-" ++ user

/- The path of the list of all users. -/
def usersPath : String :=
  groupPath ++ "/users?"

/- The path of the list of the workspaces of a user. -/
def workspacesPath
    (user : String) : String :=
  groupPath ++ "/namespaces/" ++ userNamespace user
    ++ "/workspaces?"

------------------------------------------------------------
-- Clients
------------------------------------------------------------

/- A client of the API of a cluster. -/
structure Client where
  address : Address
  authorization : Option String
  roots : Http.Roots
  deriving DecidableEq, Repr

namespace Client

/- The URL of the server. -/
def server
    (c : Client) : String :=
  c.address.text

/- A client as it is shown, without its credentials. -/
def shown
    (c : Client) : String :=
  "DirectClient \x7b server: " ++ Text.quoted c.server
    ++ ", .. \x7d"

/- The client that an access makes possible. -/
def ofAccess
    (a : Kubeconfig.Access) : Except Failure Client :=
  if a.isUsable then
    .ok {
      address := a.address
      authorization := a.authorization
      roots :=
        match a.roots with
        | some ders => .only ders.flatten
        | none => .system }
  else
    .error (.validation
      ("cannot use kubeconfig credentials for "
        ++ a.address.text))

/- The client of the kubeconfig at a path. -/
def ofKubeconfig
    (fs : Files)
    (path : String)
    (context : Option String) : Except Failure Client := do
  let k ← Kubeconfig.load fs path
  match k.access fs path (context.filter (!·.isEmpty)) with
  | .ok a => ofAccess a
  | .error fault =>
      throw (.validation ("kubeconfig: " ++ fault.message))

/- The usual kubeconfig, if there is one. -/
def usualKubeconfig
    (fs : Files)
    (home : Option String) : Option String := do
  let path := SessionFile.below (← home) ".kube/config"
  if fs.isFile (Path.ofText path) then some path else none

/-
  The client of an explicit kubeconfig or else of the usual
  one. If there is neither, resolving always fails, as it
  does outside of a cluster.
-/
def resolve
    (fs : Files)
    (home : Option String)
    (path context : Option String) :
    Except Failure Client :=
  match path <|> usualKubeconfig fs home with
  | some path => ofKubeconfig fs path context
  | none =>
      .error (.validation
        ("no kubeconfig found and not running inside "
          ++ "a cluster: set --kubeconfig"))

/- The request for a list, if its target is allowed. -/
def request?
    (c : Client)
    (path : String) : Option Http.Request := do
  let target ← target? path
  return {
    roots := c.roots
    method := "GET"
    origin := c.address.origin
    target := c.address.resolve target
    headers :=
      match c.authorization with
      | some value =>
          [("authorization", Bytes.ofText value)]
      | none => []
    body := "" }

end Client

------------------------------------------------------------
-- Answers
------------------------------------------------------------

/- The text of all failures of an exchange with a cluster. -/
def context : String :=
  "cluster API"

/- The code and message with which a cluster refuses. -/
structure Refusal where
  code : Nat
  message : String
  deriving DecidableEq, Repr

/- A refusal while it is read. -/
structure RefusalDraft where
  hasStatus : Bool
  message : String
  code : Option Nat
  deriving DecidableEq, Repr

/- How a refusal is read. -/
def refusalShape : Json.Shape RefusalDraft where
  title := "ErrorResponse"
  initial := { hasStatus := false, message := "", code := none }
  fields :=
    [ .of "status" .string fun a _ =>
        { a with hasStatus := true },
      .of "message" .string fun a s =>
        { a with message := s },
      .of "reason" .string fun a _ => a,
      .of "code" (.natBelow 65536) fun a n =>
        { a with code := some n } ]

/-
  The refusal that a body describes, or else one with the
  status and the quoted body of the answer.
-/
def Refusal.ofBody
    (status : Nat)
    (body : String) : Refusal :=
  let usual := ⟨status, Text.quoted body⟩
  match refusalShape.decode.ofBytes (Bytes.ofText body) with
  | .error _ => usual
  | .ok draft =>
      match draft.hasStatus, draft.code with
      | true, some code => ⟨code, draft.message⟩
      | _, _ => usual

/- The failure of a refused request for something. -/
def Refusal.failure
    (r : Refusal)
    (what : String) : Failure :=
  if r.code = 404 then
    .notFound what
  else if r.code = 401 ∨ r.code = 403 then
    .auth (context ++ " denied access to " ++ what ++ ": "
      ++ r.message)
  else
    .transport (context ++ ": unexpected status "
      ++ toString r.code ++ ": " ++ r.message)

/- An exchange with a cluster has failed. -/
def troubled
    (outermost cause : String) : Failure :=
  .ofChain context outermost [cause]

/- Whether a status refuses the request. -/
def isRefusal
    (status : Nat) : Bool :=
  400 ≤ status && status < 600

/- The objects in the answer to a request for something. -/
def readItems
    (what : String)
    (r : Http.Response) : Except Failure (List Item) :=
  match r.body? with
  | none =>
      .error (troubled "ServiceError" "incomplete body")
  | some bytes =>
      match Bytes.toText? bytes with
      | none =>
          .error (troubled "UTF-8 Error" "invalid sequence")
      | some body =>
          if isRefusal r.status then
            .error ((Refusal.ofBody r.status body).failure what)
          else
            match readList? bytes with
            | some items => .ok items
            | none =>
                .error (troubled
                  "Error deserializing response"
                  "not a list of objects")

/- The objects in the reply to a request for something. -/
def readReply
    (what : String) :
    Http.Reply → Except Failure (List Item)
  | .refused =>
      .error (troubled "ServiceError" "connection refused")
  | .closed =>
      .error (troubled "ServiceError" "connection closed")
  | .answered r => readItems what r

------------------------------------------------------------
-- Lists
------------------------------------------------------------

namespace Client

/- The objects of the list at a path. -/
def items
    (c : Client)
    (path what : String) : Task Network (List Item) := do
  match c.request? path with
  | none =>
      .fail (troubled "Failed to build request"
        "invalid URI character")
  | some request =>
      let reply ← Network.send request
      .ofExcept (readReply what reply)

/- The workspaces of a user. -/
def workspaces
    (c : Client)
    (user : String) : Task Network (List Workspace) := do
  let items ← c.items (workspacesPath user)
    ("workspaces of user '" ++ user ++ "'")
  .ofExcept (items.mapM fun item => do
    let (name, o) ← decodeItem workspaceShape item
    return o.row name)

/- All users. -/
def users
    (c : Client) : Task Network (List User) := do
  let items ← c.items usersPath "users"
  .ofExcept (items.mapM fun item => do
    let (name, o) ← decodeItem userShape item
    return o.row name)

end Client
end Cluster
end WorkspaceClient
