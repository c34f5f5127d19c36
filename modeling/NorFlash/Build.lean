import NorFlash.Artifact

/-!
# Building an artifact

A `BuildStep` names a command that leaves a linked program and the converter that makes a flat
binary of it. `BuildStep.provider` runs both and reads the binary. A program that cannot be started
or ends with a status other than zero makes the artifact a missing one.
-/

namespace NorFlash

/-- The directory that programs are started in. -/
structure WorkDirectory where
  /-- The text of its path. -/
  text : String
  /-- How messages show it. -/
  shown : String
  deriving DecidableEq, Repr

namespace WorkDirectory

/-- A directory given by the text of its path. -/
def ofText (text : String) : WorkDirectory :=
  ⟨text, Quoted.render text⟩

/-- A directory given by a path. -/
def ofPath (path : Path) : WorkDirectory :=
  ⟨path.render, "PosixPath(" ++ Quoted.render path.render ++ ")"⟩

end WorkDirectory

/-- How an artifact is built. -/
structure BuildStep where
  /-- The words of the command; a word may be missing. -/
  command : List (Option String)
  /-- The linked program that the command leaves. -/
  result : Path
  /-- The converter. -/
  objcopy : Option String
  /-- Where both are started; in the working directory if it is not given. -/
  workDirectory : Option WorkDirectory
  deriving DecidableEq, Repr

namespace BuildStep

/-- The converter that is run unless another is configured. -/
def defaultObjcopy : String := "riscv64-unknown-elf-objcopy"

/-! ## Running a program -/

/-- The location that programs are started in. -/
def startLocation (s : Setting) (t : FileTree) : Option WorkDirectory → Except FileFault Location
  | none => .ok s.directory
  | some directory =>
    match t.find s.directory true directory.text with
    | .error errno => .error ⟨errno, directory.shown, none⟩
    | .ok loc =>
      match t.get? loc with
      | some (.directory _) => .ok loc
      | _ => .error ⟨.notDirectory, directory.shown, none⟩

/-- Run the program that the first word names, on behalf of the artifact file `subject`. -/
def launch (s : Setting) (stage : BuildStage) (program : String) (rest : List String)
    (directory : Option WorkDirectory) (subject : Path) : Action Unit := do
  if (program :: rest).any Action.hasNull || (directory.any fun d => Action.hasNull d.text) then
    throw (.file .nullCharacter)
  match startLocation s (← Action.tree) directory with
  | .error fault => throw (.missing subject (.notStarted stage fault))
  | .ok loc =>
    let (ended, t) := s.programs loc (program :: rest) (← Action.tree)
    Action.setTree t
    match ended with
    | .error .nullCharacter => throw (.file .nullCharacter)
    | .error (.program errno) =>
      throw (.missing subject (.notStarted stage (.of errno program)))
    | .ok status =>
      if status ≠ 0 then throw (.missing subject (.exited stage status))

/-- The words of a command, if none is missing. -/
def words? (command : List (Option String)) : Option (List String) :=
  command.mapM id

/-- Note a command and run it. -/
def runStage (s : Setting) (stage : BuildStage) (command : List (Option String))
    (directory : Option WorkDirectory) (subject : Path) : Action Unit := do
  match words? command with
  | none => throw (.slip .nullValue)
  | some words =>
    Action.info (stage.label ++ ": " ++ " ".intercalate words)
    match words with
    | [] => throw (.slip .emptyCommand)
    | program :: rest => launch s stage program rest directory subject

/-! ## The provider -/

/-- Build the artifact, convert it into the file `binary` and read that. -/
def provider (s : Setting) (step : BuildStep) (binary : Path) : Provider := do
  runStage s .build step.command step.workDirectory step.result
  if ! (← Action.isFile s step.result) then
    throw (.missing step.result .noResult)
  runStage s .objcopy
    [step.objcopy, some "-O", some "binary", some step.result.render, some binary.render]
    step.workDirectory binary
  Provider.ofFile s binary

end BuildStep

end NorFlash
