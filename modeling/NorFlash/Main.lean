import NorFlash.CommandLine.Program
import NorFlash.Shell.Run

/-!
# Command line

The program on the files of the system. The files that a command line and its configuration name
are read into a tree, the program runs on that tree, and what it changed there is written back. Each
file is written beside its place and then moved there. Commands of a build run in the library's own
shell, on the files of the tree.
-/

open NorFlash CommandLine

namespace NorFlash.Host

/-- The location that a path leads to, without regard to links. -/
def locationOf (directory : Location) (path : Path) : Location :=
  path.names.foldl (fun loc name => if name = ".." then loc.dropLast else loc ++ [name])
    (match path.root with | .relative => directory | _ => [])

/-- The locations on the way to a location, the shortest one first, and itself. -/
def onTheWay (loc : Location) : List Location :=
  (List.range loc.length).map fun n => loc.take (n + 1)

/-- The entry of the system at a location. What is there and cannot be read as a file counts as a
directory. -/
def entryAt (loc : Location) : IO (Option Node) := do
  try
    return some (.file 0o644 (← IO.FS.readBinFile (Setting.locationText loc)))
  catch
    | .noFileOrDirectory .. => return none
    | .resourceExhausted .. => return none
    | _ => return some (.directory FileTree.directoryMode)

/-- Read the entries on the way to a path into a tree. -/
def readPath (directory : Location) (t : FileTree) (path : Path) : IO FileTree :=
  (onTheWay (locationOf directory path)).foldlM (fun t loc => do
    if (t.get? loc).isSome then return t
    match ← entryAt loc with
    | some node => return t.insert loc node
    | none => return t) t

/-- Put a file in place. -/
def writeFile (loc : Location) (content : ByteArray) : IO Unit := do
  let place := Setting.locationText loc
  let beside := place ++ ".part"
  IO.FS.writeBinFile beside content
  IO.FS.rename beside place

/-- Write an entry back unless it was there before. -/
def writeEntry (before : FileTree) (loc : Location) (node : Node) : IO Unit := do
  match before.get? loc, node with
  | some (.file _ old), .file _ new => if old != new then writeFile loc new
  | _, .file _ new => writeFile loc new
  | none, .directory _ => IO.FS.createDirAll (Setting.locationText loc)
  | _, _ => return

/-- Write back what was changed, directories before what they hold. -/
def writeBack (before after : FileTree) : IO Unit := do
  let ordered := after.entries.mergeSort fun a b => a.1.length ≤ b.1.length
  ordered.forM fun entry => writeEntry before entry.1 entry.2

/-- Where the program runs. -/
def setting (directory : Location) (root : String) : Setting where
  directory := directory
  root := root
  schema := root ++ "/schemas/pflash-schema.yml"
  schemaPresent := true
  programs := Shell.programs

/-- Read the files that arguments and the configuration named by them speak of. -/
def readFor (s : Setting) (args : Arguments) : IO FileTree := do
  let start ← readPath s.directory (Shell.Program.install FileTree.empty) ⟨.relative, []⟩
  match args.command with
  | none => return start
  | some (command, device) =>
    let t ← device.config.toOption.toList.foldlM (readPath s.directory) start
    let buildDirectory := match command with
      | .makeImage options => options.buildDirectory
      | _ => .missing
    let config := (configuration s device buildDirectory).runOn ⟨t, [], []⟩
    (command.paths (config.1.toOption.bind id)).foldlM (readPath s.directory) t

/-- Run the program in a directory. -/
def run (s : Setting) (args : List String) : IO UInt32 := do
  let before ← match Arguments.parse args with
    | .ok parsed => readFor s parsed
    | .error _ => pure FileTree.empty
  let (ending, after) := (Program.run s args).runOn ⟨before, [], []⟩
  writeBack before after.tree
  after.log.forM fun r => IO.eprintln r.message
  after.printed.forM IO.println
  match ending with
  | .ok (.exit code) => return UInt32.ofNat code.number
  | .ok (.usageError program message) =>
    IO.eprintln (program ++ ": error: " ++ message)
    return 2
  | .error failure =>
    IO.eprintln failure.message
    return 1

end NorFlash.Host

/-- Run the program in the working directory. -/
def main (args : List String) : IO UInt32 := do
  let directory := (Path.ofString (← IO.currentDir).toString).names
  Host.run (Host.setting directory (← IO.appDir).toString) args
