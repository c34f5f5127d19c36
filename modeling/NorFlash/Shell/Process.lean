import NorFlash.FileTree.Lookup
import NorFlash.Shell.Command

/-!
# Processes

A `Process` is what a running command works on: the files, the working directory, the variables and
arguments, and where its streams go. What it writes goes into the tree, into a buffer for the
command that reads it, or nowhere. `Run` is work on a process that may stop what comes after it.
-/

namespace NorFlash.Shell

/-- Where a stream goes. -/
inductive Sink where
  /-- Nowhere. -/
  | discard
  /-- To the end of a file. -/
  | file (loc : Location)
  /-- Into the buffer. -/
  | buffer
  deriving DecidableEq, Repr

/-- What a running command works on. -/
structure Process where
  /-- The files. -/
  tree : FileTree
  /-- The working directory. -/
  directory : Location
  /-- The variables and their values. -/
  values : List (String × String)
  /-- The variables that programs are given. -/
  exported : List String
  /-- The variables that keep their values. -/
  constants : List String
  /-- The variables that belong to the function that is running, if one is. -/
  localNames : Option (List String)
  /-- The commands that have names. -/
  functions : List (String × Command)
  /-- What is done for a signal, by its number, or at the end, by the number zero. -/
  traps : List (Nat × String)
  /-- The name that the script was started by. -/
  name : String
  /-- The arguments. -/
  arguments : List String
  /-- The letters of the options that are set. -/
  options : List Char
  /-- The status of the last command. -/
  status : Nat
  /-- The status of the last script whose output was taken. -/
  answer : Nat
  /-- How many loops are running within each other. -/
  loops : Nat
  /-- The number of the process. -/
  number : Nat
  /-- The numbers of the commands that were not waited for, the last one first, and their statuses. -/
  jobs : List (Nat × Nat)
  /-- The next argument that `getopts` looks at, from one on. -/
  optionIndex : Nat
  /-- How many characters of the argument before it were looked at, if some are left. -/
  optionOffset : Option Nat
  /-- The permission bits that new entries do not have. -/
  mask : Nat
  /-- What can be read from the input. -/
  input : ByteArray
  /-- What can be read from other streams, by their numbers. -/
  sources : List (Nat × ByteArray)
  /-- The number of the stream that the input is. -/
  inputSource : Nat
  /-- Where the streams go, by their numbers. -/
  sinks : List (Nat × Sink)
  /-- What was written into the buffer. -/
  buffer : ByteArray

/-- Why what comes after a command is not run. -/
inductive Stop where
  /-- The shell ends with a status. -/
  | leave (status : Nat)
  /-- The process is ended by a signal. -/
  | killed (signal : Nat)
  /-- A function or a script ends with a status. -/
  | returned (status : Nat)
  /-- Some loops end, the last one of which may go on with its next round. -/
  | skipped (loops : Nat) (again : Bool)
  deriving DecidableEq, Repr

/-- Work on a process. What was done before a stop stays done. -/
abbrev Run := ExceptT Stop (StateM Process)

namespace Process

/-- The variables that are there at the start. -/
def startVariables (directory : Location) : List (String × String) :=
  [("PWD", "/" ++ "/".intercalate directory), ("PATH", "/usr/local/bin:/usr/bin:/bin"),
    ("HOME", "/root"), ("IFS", " \t\n"), ("OPTIND", "1"), ("PPID", "1"), ("PS1", "# "), ("PS2", "> "),
    ("PS4", "+ ")]

/-- A process in a directory, whose streams go nowhere. -/
def new (tree : FileTree) (directory : Location) : Process where
  tree := tree
  directory := directory
  values := startVariables directory
  exported := ["PWD", "PATH", "HOME"]
  constants := []
  localNames := none
  functions := []
  traps := []
  name := "sh"
  arguments := []
  options := []
  status := 0
  answer := 0
  loops := 0
  number := 4096
  jobs := []
  optionIndex := 1
  optionOffset := none
  mask := 0o022
  input := ByteArray.empty
  sources := []
  inputSource := 0
  sinks := [(1, .discard), (2, .discard)]
  buffer := ByteArray.empty

/-! ## Streams -/

/-- Add bytes to the end of a file. -/
def appendTo (p : Process) (loc : Location) (bytes : ByteArray) : Process :=
  match p.tree.get? loc with
  | some (.file mode content) =>
    { p with tree := p.tree.insert loc (.file mode (content ++ bytes)) }
  | _ => p

/-- Where a stream goes. -/
def sink (p : Process) (stream : Nat) : Sink :=
  (p.sinks.lookup stream).getD .discard

/-- Let a stream go elsewhere. -/
def setSink (p : Process) (stream : Nat) (s : Sink) : Process :=
  { p with sinks := (stream, s) :: p.sinks.filter (·.1 != stream) }

/-- Let a stream be read from something. -/
def setSource (p : Process) (stream : Nat) (content : ByteArray) : Process :=
  if stream = 0 then { p with input := content, inputSource := 0 }
  else { p with sources := (stream, content) :: p.sources.filter (·.1 != stream) }

/-- Close a stream. -/
def closeStream (p : Process) (stream : Nat) : Process :=
  { p with
    sinks := p.sinks.filter (·.1 != stream)
    sources := p.sources.filter (·.1 != stream) }

/-- The process with the input of another one. What was taken from the input is taken from the
stream that it was, too. -/
def withInputOf (p before : Process) : Process :=
  let p := if p.inputSource = 0 then p else
    { p with sources := p.sources.map fun s => if s.1 = p.inputSource then (s.1, p.input) else s }
  { p with input := before.input, inputSource := before.inputSource }

/-- Write bytes to the output. -/
def write (p : Process) (bytes : ByteArray) : Process :=
  match p.sink 1 with
  | .discard => p
  | .file loc => p.appendTo loc bytes
  | .buffer => { p with buffer := p.buffer ++ bytes }

/-! ## Files -/

/-- The permission bits of a new file. -/
def fileMode (p : Process) : Nat :=
  0o666 - (0o666 &&& p.mask)

/-- The permission bits of a new directory. -/
def directoryMode (p : Process) : Nat :=
  0o777 - (0o777 &&& p.mask)

/-- The sink that a file is. A new file is made, and one that is there is emptied or kept. -/
def openOutput (p : Process) (mode : WriteMode) (path : String) : Option (Process × Sink) :=
  if path = "/dev/null" then some (p, .discard)
  else if path = "/dev/stdout" then some (p, p.sink 1)
  else if path = "/dev/stderr" then some (p, p.sink 2)
  else
    match p.tree.locate p.directory true path with
    | .ok (.vacant parent name) =>
      let loc := parent ++ [name]
      some ({ p with tree := p.tree.insert loc (.file p.fileMode ByteArray.empty) }, .file loc)
    | .ok (.entry loc) =>
      match p.tree.get? loc with
      | some (.file bits content) =>
        if mode = .replace ∧ p.options.contains 'C' then none
        else
          let kept := if mode = .append then content else ByteArray.empty
          some ({ p with tree := p.tree.insert loc (.file bits kept) }, .file loc)
      | _ => none
    | .error _ => none

/-- The content of a file that is read. -/
def openInput (p : Process) (path : String) : Option ByteArray :=
  if path = "/dev/null" then some ByteArray.empty
  else if path = "/dev/stdin" then some p.input
  else (p.tree.read p.directory path).toOption

/-! ## Variables -/

/-- The value of a variable. -/
def valueOf? (p : Process) (name : String) : Option String :=
  p.values.lookup name

/-- Give a variable a value. One of them says where the reading of options goes on. -/
def assign (p : Process) (name value : String) : Process :=
  let p :=
    if name = "OPTIND" then
      { p with optionIndex := max 1 (value.toNat?.getD 1), optionOffset := none }
    else p
  { p with
    values := (name, value) :: p.values.filter (·.1 != name)
    exported := if p.options.contains 'a' then name :: p.exported else p.exported }

/-- Take a variable away. -/
def unassign (p : Process) (name : String) : Process :=
  { p with
    values := p.values.filter (·.1 != name)
    exported := p.exported.filter (· != name) }

/-- The process that a program starts as: it has the exported variables only. -/
def forProgram (p : Process) : Process :=
  let start := new p.tree p.directory
  { start with
    values := p.values.filter (p.exported.contains ·.1)
      ++ start.values.filter fun v => !p.exported.contains v.1 && !start.exported.contains v.1
    exported := p.exported
    number := p.number + 1
    mask := p.mask
    input := p.input
    sources := p.sources
    sinks := p.sinks
    buffer := p.buffer }

end Process

namespace Run

/-- The status of a shell that finds a fault in what it is to do. -/
def faultStatus : Nat := 2

/-- End the shell because of a fault. -/
def fault : Run α :=
  throw (.leave faultStatus)

/-- Give a variable a value, unless it keeps its own. -/
def assign (name value : String) : Run Unit := do
  if (← get).constants.contains name then fault
  modify (·.assign name value)

end Run

end NorFlash.Shell
