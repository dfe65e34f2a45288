import WorkspaceClient.Bytes.Basic
import WorkspaceClient.Task

/-
  This file defines requests, what comes back for them, and
  the network that they go to.

  A network answers a request in view of the requests that
  were sent before it, and keeps a record of all requests.

  Key definitions include:
    * `Http.Roots`
    * `Http.Origin`
    * `Http.Request`
    * `Http.Response`
    * `Http.Reply`
    * `Network`
    * `Network.send`
-/

namespace WorkspaceClient

------------------------------------------------------------
-- Requests
------------------------------------------------------------

/-
  The authorities that a client trusts: those of the system,
  those and the ones of a bundle, or those of a bundle only.
-/
inductive Http.Roots where
  | system
  | extra (bundle : Bytes)
  | only (bundle : Bytes)
  deriving DecidableEq, Repr

/- The server that a request goes to. -/
structure Http.Origin where
  scheme : String
  host : String
  port : Nat
  deriving DecidableEq, Repr

/- A request, and the authorities its sender trusts. -/
structure Http.Request where
  roots : Http.Roots
  method : String
  origin : Http.Origin
  target : String
  headers : List (String × Bytes)
  body : String
  deriving DecidableEq, Repr

/- The value of a header. Names are in lower case. -/
def Http.Request.header?
    (r : Http.Request)
    (name : String) : Option Bytes :=
  (r.headers.find? fun h => h.1 == name).map (·.2)

------------------------------------------------------------
-- Replies
------------------------------------------------------------

/-
  An answer. It is `isCut` when its body is shorter than was
  announced.
-/
structure Http.Response where
  status : Nat
  headers : List (String × Bytes)
  body : Bytes
  isCut : Bool
  deriving DecidableEq, Repr

/- The values of all headers of a name, which is lower case. -/
def Http.Response.headerValues
    (r : Http.Response)
    (name : String) : List Bytes :=
  (r.headers.filter fun h =>
    Filter.lowerText h.1 == name).map (·.2)

/- The complete body of an answer. -/
def Http.Response.body?
    (r : Http.Response) : Option Bytes :=
  if r.isCut then none else some r.body

/-
  What becomes of a request: no connection is made, the
  connection ends without an answer, or there is an answer.
-/
inductive Http.Reply where
  | refused
  | closed
  | answered (response : Http.Response)
  deriving DecidableEq, Repr

------------------------------------------------------------
-- Networks
------------------------------------------------------------

/- What answers requests, and the requests sent so far. -/
structure Network where
  answer : List Http.Request → Http.Request → Http.Reply
  sent : List Http.Request

namespace Network

/- The network in which nothing can be reached. -/
def unreachable : Network :=
  { answer := fun _ _ => .refused
    sent := [] }

/- Send a request. -/
def send
    (request : Http.Request) : Task Network Http.Reply :=
  fun n =>
    (.ok (n.answer n.sent request),
      { n with sent := n.sent ++ [request] })

end Network
end WorkspaceClient
