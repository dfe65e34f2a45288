import WorkspaceClient.Proofs.Task
import WorkspaceClient.World

/-
  This file shows what the tasks of a command do to the
  world: loading a session changes nothing, saving it only
  changes the files, and what is done online only changes
  the network.

  Key definitions include:
    * `Network.after`
    * `World.Sends`

  Main declarations:
    * `World.load_eq`
    * `World.load_error`
    * `World.saveBy_eq`
    * `World.online_eq`
-/

namespace WorkspaceClient

------------------------------------------------------------
-- One request
------------------------------------------------------------

/- The network after a request was sent. -/
def Network.after
    (n : Network)
    (request : Http.Request) : Network :=
  { n with sent := n.sent ++ [request] }

theorem Network.send_eq
    (request : Http.Request)
    (n : Network) :
    send request n =
      (.ok (n.answer n.sent request), n.after request) := rfl

/- A network keeps a record of the requests to it. -/
theorem Network.after_ne
    (n : Network)
    (q : Http.Request) :
    n.after q ≠ n := by
  intro hSame
  have hSent : (n.after q).sent = n.sent := by rw [hSame]
  simp [Network.after] at hSent

theorem Network.after_inj
    {n : Network}
    {q q' : Http.Request} :
    n.after q = n.after q' ↔ q = q' := by
  simp [Network.after]

namespace World

/- Between two worlds one request was sent, and no file changed. -/
structure Sends
    (w w' : World)
    (q : Http.Request) : Prop where
  network : w'.network = w.network.after q
  files : w'.files = w.files

------------------------------------------------------------
-- Files
------------------------------------------------------------

theorem load_eq
    {path : String}
    {session : Session}
    {w : World}
    (h : SessionFile.load path w.files = .ok session) :
    World.load path w = (.ok session, w) := by
  unfold World.load
  rw [h]

theorem load_error
    {path : String}
    {fault : SessionFile.Fault}
    {w : World}
    (h : SessionFile.load path w.files = .error fault) :
    World.load path w = (.error (.sessionFile fault), w) := by
  unfold World.load
  rw [h]

/- Keeping a session only changes the files. -/
theorem saveBy_eq
    {keeper : SessionFile.Keeper}
    {path : String}
    {session : Session}
    {kept : Except SessionFile.Fault Unit}
    {files : Files}
    {w : World}
    (h : keeper path session w.files = (kept, files)) :
    World.saveBy keeper path session w =
      (kept.mapError Failure.sessionFile, { w with files }) := by
  unfold World.saveBy
  rw [h]
  cases kept <;> rfl

------------------------------------------------------------
-- Networks
------------------------------------------------------------

theorem online_eq
    {α : Type}
    {t : Task Network α}
    {result : Except Failure α}
    {w : World}
    {n : Network}
    (h : t w.network = (result, n)) :
    World.online t w = (result, { w with network := n }) := by
  unfold World.online Task.within
  rw [h]

end World
end WorkspaceClient
