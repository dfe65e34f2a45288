import WorkspaceClient.Files.Basic
import WorkspaceClient.Http.Network
import WorkspaceClient.Warning

/-
  This file defines what a command works on: the files, the
  network, and the warnings given so far.

  Key definitions include:
    * `World`
    * `World.online`
    * `World.warnAll`
    * `World.saveBy`
    * `World.save`
    * `World.load`
-/

namespace WorkspaceClient

------------------------------------------------------------
-- Worlds
------------------------------------------------------------

/- The surroundings of a command. -/
structure World where
  files : Files
  network : Network
  warnings : List Warning

namespace World

/- A task on the network of a world. -/
def online
    {α : Type}
    (t : Task Network α) : Task World α :=
  Task.within World.network
    (fun w n => { w with network := n }) t

/- Give warnings. -/
def warnAll
    (warnings : List Warning) : Task World Unit :=
  Task.modify fun w =>
    { w with warnings := w.warnings ++ warnings }

/- Keep a session in the file at a path, in some way. -/
def saveBy
    (keeper : SessionFile.Keeper)
    (path : String)
    (session : Session) : Task World Unit :=
  fun w =>
    match keeper path session w.files with
    | (.ok (), files) => (.ok (), { w with files })
    | (.error fault, files) =>
        (.error (.sessionFile fault), { w with files })

/- Save a session in the file at a path. -/
def save
    (path : String)
    (session : Session) : Task World Unit :=
  saveBy SessionFile.save path session

/- Load the session in the file at a path. -/
def load
    (path : String) : Task World Session :=
  fun w =>
    match SessionFile.load path w.files with
    | .ok session => (.ok session, w)
    | .error fault => (.error (.sessionFile fault), w)

end World
end WorkspaceClient
