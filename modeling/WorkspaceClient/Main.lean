import WorkspaceClient.Program

/-
  This file defines the command `burrow`.

  The files that a command line may touch are read before it
  is run, and the session file is written after it.

  Key definitions include:
    * `Invocation.paths`
    * `readFiles`
    * `writeSession`
    * `main`
-/

namespace WorkspaceClient

------------------------------------------------------------
-- Paths
------------------------------------------------------------

/- The session file of a command, if its place is known. -/
def Invocation.sessionPath?
    (i : Invocation)
    (home : Option String) : Option String :=
  (i.connection.storePath home).toOption

/- The files that are read beside the session file. -/
def Invocation.paths
    (i : Invocation)
    (home : Option String) : List String :=
  let usual :=
    home.map fun directory =>
      SessionFile.below directory ".kube/config"
  let caFile :=
    match i.command with
    | .login arguments => arguments.caFile
    | _ => none
  [some i.connection.identityPath,
    i.connection.kubeconfigPath, usual,
    caFile].reduceOption

------------------------------------------------------------
-- Files
------------------------------------------------------------

/- Add the directories above a path to a file system. -/
def withParents
    (fs : Files)
    (path : Path) : Files :=
  ((fs.createDirectories path.dropLast).toOption).getD fs

/- Add what stands at a path of the disk to a file system. -/
def addFile
    (fs : Files)
    (path : String) : IO Files := do
  let content ←
    try
      pure (some (← IO.FS.readBinFile path))
    catch _ =>
      pure none
  match content with
  | none => return fs
  | some bytes =>
      let place := Path.ofText path
      return (withParents fs place).put place
        (.file 0o600 bytes.toList)

/- The file system of the files at some paths of the disk. -/
def readFiles
    (paths : List String) : IO Files :=
  paths.foldlM addFile Files.empty

/- Write the session file if a command has changed it. -/
def writeSession
    (path : String)
    (before after : Files) : IO Unit := do
  let place := Path.ofText path
  match before place, after place with
  | old, some (.file mode bytes) =>
      if old != some (.file mode bytes) then
        match place.dropLast with
        | [] => pure ()
        | names =>
            let start := if path.startsWith "/" then "/" else ""
            IO.FS.createDirAll (start ++ Text.join "/" names)
        IO.FS.writeBinFile path (ByteArray.mk bytes.toArray)
        IO.setAccessRights path
          { user := { read := true, write := true } }
  | _, _ => pure ()

------------------------------------------------------------
-- Program
------------------------------------------------------------

/- The variables of the environment that the program knows. -/
def knownVariables : List String :=
  "HOME" :: "RUST_LOG"
    :: (CommandLine.Level.login.parameters.map
        CommandLine.Parameter.variableName?).reduceOption

/- The values of some variables. -/
def readEnvironment
    (names : List String) : IO (String → Option String) := do
  let values ← names.mapM fun name => do
    return (name, ← IO.getEnv name)
  return fun name => (values.lookup name).join

/- Whether an invocation reads its input. -/
def Invocation.readsInput
    (i : Invocation) : Bool :=
  match i.command with
  | .login arguments => arguments.fromInput
  | _ => false

/- The input, if an invocation reads it. -/
def readInput
    (i : Option Invocation) : IO Bytes := do
  match i.filter Invocation.readsInput with
  | none => return []
  | some _ =>
      return (← (← IO.getStdin).readBinToEnd).toList

/- Run the program. No server can be reached. -/
def runProgram
    (words : List String) : IO UInt32 := do
  let environment ← readEnvironment knownVariables
  let home := environment "HOME"
  let invocation :=
    (CommandLine.parse environment words).toOption
  let session := invocation.bind (·.sessionPath? home)
  let others := (invocation.map (·.paths home)).getD []
  let files ← readFiles (session.toList ++ others)
  let input ← readInput invocation
  let (outcome, after) := Program.run environment words input
    { files, network := .unreachable, warnings := [] }
  match session with
  | some path => writeSession path files after.files
  | none => pure ()
  IO.print outcome.output
  IO.eprint outcome.errors
  return outcome.status.toUInt32

end WorkspaceClient

/- The entry of the program. -/
def main
    (words : List String) : IO UInt32 :=
  WorkspaceClient.runProgram words
