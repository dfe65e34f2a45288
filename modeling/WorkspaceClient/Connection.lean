import WorkspaceClient.SessionFile
import WorkspaceClient.Credential
import WorkspaceClient.Trust

/-
  This file defines the options that tell how the platform
  is reached, and what follows from them.

  Key definitions include:
    * `Connection`
    * `Connection.usual`
    * `Connection.location`
    * `Connection.explicitUrl`
    * `Connection.caUrl`
    * `Connection.identityPath`
    * `Connection.kubeconfigPath`
    * `Connection.storePath`
-/

namespace WorkspaceClient

------------------------------------------------------------
-- Options
------------------------------------------------------------

/- The options of every command. -/
structure Connection where
  direct : Bool
  dashboardUrl : Option String
  config : Option String
  kubeconfig : Option String
  context : Option String
  ns : String
  port : Nat
  bootstrapUrl : Option String
  identityFile : Option String
  deriving DecidableEq, Repr

namespace Connection

/- The options when none is given. -/
def usual : Connection :=
  { direct := false
    dashboardUrl := none
    config := none
    kubeconfig := none
    context := none
    ns := ClusterLocation.usual.ns
    port := ClusterLocation.usual.port
    bootstrapUrl := none
    identityFile := none }

/- A text that is given and not empty. -/
def given
    (s : Option String) : Option String :=
  s.filter fun s => !s.isEmpty

------------------------------------------------------------
-- Consequences
------------------------------------------------------------

/- Where the Dashboard stands inside of the cluster. -/
def location
    (c : Connection) : ClusterLocation :=
  { ns :=
      if c.ns.isEmpty then ClusterLocation.usual.ns else c.ns
    port := c.port }

/- The URL of the Dashboard, if one is given. -/
def explicitUrl
    (c : Connection) : Option String :=
  given c.dashboardUrl

/- The URL that the authority is fetched from. -/
def caUrl
    (c : Connection) : String :=
  (given c.bootstrapUrl).getD c.location.bootstrapUrl

/- The path of the identity token. -/
def identityPath
    (c : Connection) : String :=
  c.identityFile.getD Credential.usualIdentityPath

/- The first nonempty path of a list with colons. -/
def firstPath
    (list : String) : Option String :=
  ((Text.splitOn [':'] list.toList).map String.ofList).find?
    fun path => !path.isEmpty

/- The path of the kubeconfig, if one is given. -/
def kubeconfigPath
    (c : Connection) : Option String :=
  c.kubeconfig.bind firstPath

/- The path of the session file. -/
def storePath
    (c : Connection)
    (home : Option String) : Except Failure String :=
  match SessionFile.locate c.config home with
  | .ok path => .ok path
  | .error fault => .error (.sessionFile fault)

end Connection
end WorkspaceClient
