import WorkspaceClient.Files.Basic
import WorkspaceClient.Session

/-
  This file defines the file that a session is kept in.

  Saving goes through four steps. Each step may be refused;
  the steps after it are then not taken, and what the steps
  before it did remains.

  Key definitions include:
    * `SessionFile.Fault`
    * `SessionFile.Fault.message`
    * `SessionFile.locate`
    * `SessionFile.load`
    * `SessionFile.Step`
    * `SessionFile.saveSteps`
    * `SessionFile.Keeper`
    * `SessionFile.save`
-/

namespace WorkspaceClient
namespace SessionFile

------------------------------------------------------------
-- Faults
------------------------------------------------------------

/- The reasons why a cached session cannot be used or kept. -/
inductive Fault where
  | unparsable (path : String) (fault : Json.Fault)
  | inaccessible (path : String) (fault : Files.Fault)
  | unreadableCa (reason : String)
  | homeUnknown
  deriving DecidableEq, Repr

/- The text of a fault. -/
def Fault.message : Fault → String
  | unparsable path fault =>
      "failed to parse session file '" ++ path ++ "': "
        ++ fault.message
  | inaccessible path fault =>
      "session file '" ++ path ++ "': " ++ fault.message
  | unreadableCa reason =>
      "invalid CA certificate encoding: " ++ reason
  | homeUnknown =>
      "cannot determine home directory; "
        ++ "pass --config or set BURROW_CONFIG"

------------------------------------------------------------
-- Location
------------------------------------------------------------

/- A path below a directory. -/
def below
    (directory path : String) : String :=
  if directory.endsWith "/" then
    directory ++ path
  else
    directory ++ "/" ++ path

/- Where the session file stands below the home directory. -/
def relativePath : String :=
  ".config/burrow/config.json"

/-
  The path of the session file: the explicit one if it is
  not empty, else the usual one in the home directory.
-/
def locate
    (explicit : Option String)
    (home : Option String) : Except Fault String :=
  match explicit.filter fun p => !p.isEmpty, home with
  | some path, _ => .ok path
  | none, some directory => .ok (below directory relativePath)
  | none, none => .error .homeUnknown

------------------------------------------------------------
-- Loading
------------------------------------------------------------

/-
  The session in the file at a path. A missing file holds
  the empty session.
-/
def load
    (path : String)
    (fs : Files) : Except Fault Session :=
  match fs.read (Path.ofText path) with
  | .error .notFound => .ok .empty
  | .error fault => .error (.inaccessible path fault)
  | .ok content =>
      match Json.Decoder.ofBytes Session.shape.decode
          content with
      | .ok session => .ok session
      | .error fault => .error (.unparsable path fault)

------------------------------------------------------------
-- Saving
------------------------------------------------------------

/- A step of saving. -/
inductive Step where
  | createParents
  | openEmpty
  | write (document : Bytes)
  | restrict
  deriving DecidableEq, Repr

/- Take a step at a path. -/
def Step.run
    (path : Path)
    (fs : Files) : Step → Except Files.Fault Files
  | createParents => fs.createDirectories path.dropLast
  | openEmpty => fs.truncate path
  | write document => fs.writeAtStart path document
  | restrict => fs.setMode path 0o600

/- The steps of saving a session, in order. -/
def saveSteps
    (session : Session) : List Step :=
  [.createParents, .openEmpty, .write session.document,
    .restrict]

/-
  Take steps in order up to the first that is refused. The
  file system is as the steps before that one left it.
-/
def runSteps
    (path : Path)
    (fs : Files) : List Step → Option Files.Fault × Files
  | [] => (none, fs)
  | step :: steps =>
      match step.run path fs with
      | .ok fs => runSteps path fs steps
      | .error fault => (some fault, fs)

/- A way of keeping a session in the file at a path. -/
abbrev Keeper : Type :=
  String → Session → Files → Except Fault Unit × Files

/- Save a session in the file at a path. -/
def save
    (path : String)
    (session : Session)
    (fs : Files) : Except Fault Unit × Files :=
  match runSteps (Path.ofText path) fs
      (saveSteps session) with
  | (none, fs) => (.ok (), fs)
  | (some fault, fs) =>
      (.error (.inaccessible path fault), fs)

end SessionFile
end WorkspaceClient
