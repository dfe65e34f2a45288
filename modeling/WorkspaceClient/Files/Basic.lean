import WorkspaceClient.Bytes.Basic
import WorkspaceClient.Text.Search

/-
  This file defines the state of a file system, and reading
  and changing it.

  Every operation either gives the new state or the fault
  for which it was refused; a refused operation changes
  nothing.

  Key definitions include:
    * `Path`
    * `Node`
    * `Files`
    * `Files.Fault`
    * `Files.find`
    * `Files.read`
    * `Files.createDirectories`
    * `Files.truncate`
    * `Files.writeAtStart`
    * `Files.setMode`
-/

namespace WorkspaceClient

------------------------------------------------------------
-- Paths
------------------------------------------------------------

/- The names from the root of the file system to a place. -/
abbrev Path :=
  List String

/- The path that a text names. -/
def Path.ofText
    (s : String) : Path :=
  ((Text.splitOn ['/'] s.toList).map String.ofList).filter
    fun name => !name.isEmpty && name != "."

------------------------------------------------------------
-- States
------------------------------------------------------------

/- A file with its content, or a directory. -/
inductive Node where
  | file (mode : Nat) (content : Bytes)
  | directory (mode : Nat)
  deriving DecidableEq, Repr

/- The permissions of a node. -/
def Node.mode : Node → Nat
  | file mode _ => mode
  | directory mode => mode

/- The node with other permissions. -/
def Node.withMode
    (mode : Nat) : Node → Node
  | file _ content => file mode content
  | directory _ => directory mode

/- Which node stands at which path. -/
abbrev Files :=
  Path → Option Node

namespace Files

/- The file system with nothing but its root. -/
def empty : Files :=
  fun p => if p = [] then some (.directory 0o755) else none

/- Put a node at a path. -/
def put
    (fs : Files)
    (path : Path)
    (node : Node) : Files :=
  fun p => if p = path then some node else fs p

/- Take away the node at a path. -/
def erase
    (fs : Files)
    (path : Path) : Files :=
  fun p => if p = path then none else fs p

------------------------------------------------------------
-- Faults
------------------------------------------------------------

/- The reasons why an operation is refused. -/
inductive Fault where
  | notFound
  | isDirectory
  | notDirectory
  | alreadyExists
  | notText
  deriving DecidableEq, Repr

/- The text of a fault. -/
def Fault.message : Fault → String
  | notFound =>
      "No such file or directory (os error 2)"
  | isDirectory =>
      "Is a directory (os error 21)"
  | notDirectory =>
      "Not a directory (os error 20)"
  | alreadyExists =>
      "File exists (os error 17)"
  | notText =>
      "stream did not contain valid UTF-8"

------------------------------------------------------------
-- Reading
------------------------------------------------------------

/-
  The node at the path `walked ++ rest`, reached through
  directories only.
-/
def findFrom
    (fs : Files)
    (walked : Path) : Path → Except Fault Node
  | [] =>
      match fs walked with
      | some node => .ok node
      | none => .error .notFound
  | name :: rest =>
      match fs walked with
      | some (.directory _) =>
          findFrom fs (walked ++ [name]) rest
      | some (.file _ _) => .error .notDirectory
      | none => .error .notFound

/- The node at a path. -/
def find
    (fs : Files)
    (path : Path) : Except Fault Node :=
  fs.findFrom [] path

/- The content of the file at a path. -/
def read
    (fs : Files)
    (path : Path) : Except Fault Bytes :=
  match fs.find path with
  | .ok (.file _ content) => .ok content
  | .ok (.directory _) => .error .isDirectory
  | .error fault => .error fault

/- The text of the file at a path. -/
def readText
    (fs : Files)
    (path : Path) : Except Fault String := do
  match Bytes.toText? (← fs.read path) with
  | some s => return s
  | none => throw .notText

/- Whether a file stands at a path. -/
def isFile
    (fs : Files)
    (path : Path) : Bool :=
  match fs.find path with
  | .ok (.file _ _) => true
  | _ => false

------------------------------------------------------------
-- Changing
------------------------------------------------------------

/-
  Create the missing directories on the way from `walked` to
  `walked ++ rest`, for the owner only.
-/
def createFrom
    (fs : Files)
    (walked : Path) : Path → Except Fault Files
  | [] => .ok fs
  | name :: rest =>
      let next := walked ++ [name]
      match fs next with
      | none =>
          createFrom (fs.put next (.directory 0o700)) next rest
      | some (.directory _) =>
          createFrom fs next rest
      | some (.file _ _) =>
          if rest.isEmpty then
            .error .alreadyExists
          else
            .error .notDirectory

/- Create a directory with all directories above it. -/
def createDirectories
    (fs : Files)
    (path : Path) : Except Fault Files :=
  fs.createFrom [] path

/-
  Open a file for writing: its content is dropped and its
  permissions stay. A missing file is created for the owner
  only.
-/
def truncate
    (fs : Files)
    (path : Path) : Except Fault Files :=
  match fs.find path with
  | .ok (.file mode _) => .ok (fs.put path (.file mode []))
  | .ok (.directory _) => .error .isDirectory
  | .error .notFound =>
      match fs.find path.dropLast with
      | .ok (.directory _) =>
          .ok (fs.put path (.file 0o600 []))
      | .ok (.file _ _) => .error .notDirectory
      | .error fault => .error fault
  | .error fault => .error fault

/-
  Write bytes over the start of an open file. What stands
  behind them stays.
-/
def writeAtStart
    (fs : Files)
    (path : Path)
    (bytes : Bytes) : Except Fault Files :=
  match fs path with
  | some (.file mode content) =>
      .ok (fs.put path
        (.file mode (bytes ++ content.drop bytes.length)))
  | _ => .ok fs

/- Set the permissions of the node at a path. -/
def setMode
    (fs : Files)
    (path : Path)
    (mode : Nat) : Except Fault Files :=
  match fs.find path with
  | .ok node => .ok (fs.put path (node.withMode mode))
  | .error fault => .error fault

end Files
end WorkspaceClient
