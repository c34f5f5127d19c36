import NorFlash.FileTree.Lookup
import NorFlash.Failure
import NorFlash.Log

/-!
# Actions

An `Action` works on a `World`, which holds the file tree, the log and the lines printed so far, and
ends with a value or a `Failure`. A failure keeps what was done before it. The `Setting` says where
the actions take place and how external programs behave.
-/

namespace NorFlash

/-! ## Programs -/

/-- Why a program could not be started. -/
inductive LaunchFault where
  /-- The program cannot be run. -/
  | program (errno : Errno)
  /-- A word of the command holds a null character. -/
  | nullCharacter
  deriving DecidableEq, Repr

/-- How external programs behave: for the directory that a program is started in, the words of its
command and the tree it finds, whether it could be started, the status it ended with and the tree it
leaves. The status is negative for a program ended by a signal. -/
abbrev Programs := Location → List String → FileTree → Except LaunchFault Int × FileTree

/-! ## Settings and worlds -/

/-- Where actions take place. -/
structure Setting where
  /-- The working directory. -/
  directory : Location
  /-- The directory that the program belongs to. -/
  root : String
  /-- The place of the schema for configurations. -/
  schema : String
  /-- Whether the schema is there. -/
  schemaPresent : Bool
  /-- How external programs behave. -/
  programs : Programs

namespace Setting

/-- The text of a location. -/
def locationText (loc : Location) : String :=
  "/" ++ "/".intercalate loc

/-- The text of the working directory. -/
def directoryText (s : Setting) : String :=
  locationText s.directory

end Setting

/-- What actions change. -/
structure World where
  /-- The files. -/
  tree : FileTree
  /-- What was noted, in order. -/
  log : List LogRecord
  /-- What was printed, in order. -/
  printed : List String

/-- Work that changes a world and ends with a value or a failure. -/
abbrev Action := ExceptT Failure (StateM World)

namespace Action

/-- Run an action on a world. -/
def runOn (a : Action α) (w : World) : Except Failure α × World :=
  (ExceptT.run a).run w

/-- Add a record to the log. -/
def note (level : LogLevel) (message : String) : Action Unit :=
  modify fun w => { w with log := w.log ++ [⟨level, message⟩] }

/-- Note a step. -/
def debug (message : String) : Action Unit := note .debug message

/-- Note a result. -/
def info (message : String) : Action Unit := note .info message

/-- Note the reason of a failure. -/
def error (message : String) : Action Unit := note .error message

/-- Print a line. -/
def print (line : String) : Action Unit :=
  modify fun w => { w with printed := w.printed ++ [line] }

/-- The files as they are now. -/
def tree : Action FileTree := do
  return (← get).tree

/-- Put other files in the place of those that are there. -/
def setTree (t : FileTree) : Action Unit :=
  modify fun w => { w with tree := t }

/-- The value of a computation whose error is a failure, which is put into words at once. -/
def ofExcept (f : ε → Failure) : Except ε α → Action α
  | .ok a => pure a
  | .error e => throw (f e).worded

/-- Run an action and answer its failure instead of failing. -/
def attempt (a : Action α) : Action (Except Failure α) :=
  tryCatch (Except.ok <$> a) fun failure => pure (Except.error failure)

/-- Fail because the system refuses an operation on a path. -/
def refuse (errno : Errno) (path : String) : Action α :=
  throw (.file (.file (.of errno path)))

/-! ## Looking at files -/

/-- Whether a text holds a null character. -/
def hasNull (text : String) : Bool :=
  text.toList.contains '\x00'

/-- Whether the entry that a path leads to passes a test. -/
def testEntry (s : Setting) (path : Path) (p : Node → Bool) : Action Bool := do
  if hasNull path.render then return false
  match (← tree).test s.directory path.render p with
  | .ok answer => return answer
  | .error errno => refuse errno path.render

/-- Whether a path leads to a file. -/
def isFile (s : Setting) (path : Path) : Action Bool :=
  testEntry s path Node.isFile

/-- Whether a path leads to an entry. -/
def pathExists (s : Setting) (path : Path) : Action Bool :=
  testEntry s path fun _ => true

/-- The content of the file that a path leads to. -/
def readFile (s : Setting) (path : Path) : Action ByteArray := do
  if hasNull path.render then throw (.file .nullCharacter)
  match (← tree).read s.directory path.render with
  | .ok content => return content
  | .error errno => refuse errno path.render

end Action

end NorFlash
