import WorkspaceClient.Certificate.Pem
import WorkspaceClient.Http.Network
import WorkspaceClient.Http.Status
import WorkspaceClient.Url.Parser

/-
  This file defines where the Dashboard stands inside of a
  cluster, clients that trust certain authorities, and
  fetching the authority of the Dashboard for first use.

  Key definitions include:
    * `ClusterLocation`
    * `ClusterLocation.dashboardUrl`
    * `ClusterLocation.bootstrapUrl`
    * `Trust.certificates`
    * `Trust.checkRoots`
    * `Trust.fetchCa`
-/

namespace WorkspaceClient

------------------------------------------------------------
-- Location
------------------------------------------------------------

/- The namespace and the port of the Dashboard. -/
structure ClusterLocation where
  ns : String
  port : Nat
  deriving DecidableEq, Repr

namespace ClusterLocation

/- The location of an installation with default settings. -/
def usual : ClusterLocation :=
  { ns := "burrow-system"
    port := 8443 }

/- The host of a service in the cluster, and its port. -/
def server
    (l : ClusterLocation)
    (service : String) : String :=
  service ++ "." ++ l.ns ++ ".svc.cluster.local:"
    ++ toString l.port

/- The URL of the Dashboard inside of the cluster. -/
def dashboardUrl
    (l : ClusterLocation) : String :=
  "https://" ++ l.server "burrow-dashboard"

/- The URL of the authority that the Dashboard is signed by. -/
def bootstrapUrl
    (l : ClusterLocation) : String :=
  "http://" ++ l.server "burrow-dashboard-bootstrap"
    ++ "/ca.crt"

end ClusterLocation

namespace Trust

------------------------------------------------------------
-- Clients
------------------------------------------------------------

/- The certificates of a bundle. -/
def certificates
    (bundle : Bytes) : Except Failure (List Bytes) :=
  match Pem.certificates bundle with
  | .ok ders => .ok ders
  | .error fault => .error (.protocol fault.message)

/- Check that a client can trust these authorities. -/
def checkRoots : Http.Roots → Except Failure Unit
  | .system => .ok ()
  | .extra bundle => discard (certificates bundle)
  | .only bundle => discard (certificates bundle)

/- The server that a URL leads to. -/
def originOf
    (u : Url) : Http.Origin :=
  { scheme := u.scheme.name
    host := String.ofList u.host.text
    port := u.effectivePort }

/- The user name and password of a URL as a header. -/
def userHeaders
    (u : Url) : List (String × Bytes) :=
  if u.username.isEmpty && u.password.isEmpty then
    []
  else
    let plain := fun cs =>
      Url.decodeBytes (Bytes.ofText (String.ofList cs))
    let pair :=
      plain u.username ++ [Bytes.ofAscii ':']
        ++ plain u.password
    [("authorization",
      Bytes.ofText ("Basic " ++ Base64.encode pair))]

------------------------------------------------------------
-- Failed exchanges
------------------------------------------------------------

/- A request could not be formed. -/
def unformed
    (context : String) : Failure :=
  .ofChain context "builder error" []

/- A request got no answer. -/
def unanswered
    (context cause : String) : Failure :=
  .ofChain context "error sending request" [cause]

/- The body of an answer was not complete. -/
def unfinished
    (context : String) : Failure :=
  .ofChain context "error decoding response body"
    ["end of file before message length reached"]

/- The answer in a reply, if there is one. -/
def response
    (context : String) :
    Http.Reply → Except Failure Http.Response
  | .refused =>
      .error (unanswered context "connection refused")
  | .closed =>
      .error (unanswered context "connection closed")
  | .answered r => .ok r

------------------------------------------------------------
-- First use
------------------------------------------------------------

/- What is attempted when the authority is fetched. -/
def fetchContext : String :=
  "fetching CA certificate"

/- The request for the authority at a URL. -/
def fetchRequest
    (u : Url) : Http.Request :=
  { roots := .system
    method := "GET"
    origin := originOf u
    target := u.target
    headers := userHeaders u
    body := "" }

/-
  Fetch the authority of the Dashboard. The answer must hold
  at least one certificate.
-/
def fetchCa
    (url : String) : Task Network Bytes := do
  match Url.parse url with
  | .error _ => .fail (unformed fetchContext)
  | .ok u =>
      let reply ← Network.send (fetchRequest u)
      let r ← Task.ofExcept (response fetchContext reply)
      if !Http.isSuccess r.status then
        .fail (.transport
          (fetchContext ++ ": unexpected status "
            ++ Http.statusText r.status))
      else
        match r.body? with
        | none => .fail (unfinished fetchContext)
        | some body => do
            let _ ← Task.ofExcept (certificates body)
            return body

end Trust
end WorkspaceClient
