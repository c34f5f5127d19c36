import NorFlash.CommandLine.Arguments
import NorFlash.Composer
import NorFlash.Configuration.Basic
import NorFlash.ImageFile

/-!
# The program

`Program.run` does what a command line asks for and ends with an exit code. Each command expects
some kinds of failures, notes them and ends with a code for their kind; other failures end the run
itself.
-/

namespace NorFlash.CommandLine

/-! ## Exit codes -/

/-- How a command ends. -/
inductive ExitCode where
  /-- It did what it was asked for. -/
  | success
  /-- It was not asked for anything. -/
  | usage
  /-- The data it was given cannot be used. -/
  | dataError
  /-- A file it was to read is missing. -/
  | noInput
  /-- The system failed. -/
  | systemError
  deriving DecidableEq, Repr

namespace ExitCode

/-- The number of an exit code. -/
def number : ExitCode → Nat
  | success => 0
  | usage => 64
  | dataError => 65
  | noInput => 66
  | systemError => 74

/-- The exit code for a failure. -/
def ofKind : FailureKind → ExitCode
  | .missing => noInput
  | .system => systemError
  | .data | .record | .slip => dataError

end ExitCode

/-- How the program ends. -/
inductive Ending where
  /-- With an exit code. -/
  | exit (code : ExitCode)
  /-- Because the command line is wrong. -/
  | usageError (program message : String)
  deriving DecidableEq, Repr

/-! ## Failures -/

/-- Run an action whose failures of some kinds are expected: they are noted, and `code` gives the
exit code for them. -/
def expecting (kinds : List FailureKind) (code : FailureKind → ExitCode) (a : Action α)
    (k : α → Action ExitCode) : Action ExitCode := do
  match ← Action.attempt a with
  | .ok value => k value
  | .error failure =>
    if kinds.contains failure.kind then
      Action.error ("Exception: " ++ failure.message)
      return code failure.kind
    else throw failure

/-! ## Options and configuration -/

/-- The names that a configuration may use: the directory of the program and the directory of the
build, which is the working directory unless it is given. -/
def environmentOf (s : Setting) (buildDirectory : OptionValue Path) : Substitution.Environment :=
  [("$ROOT", s.root),
    ("$BUILD_DIR", (buildDirectory.toOption.map Path.render).getD s.directoryText)]

/-- The configuration that the options name. -/
def configuration (s : Setting) (device : DeviceOptions) (buildDirectory : OptionValue Path) :
    Action (Option Configuration) := do
  match device.config with
  | .missing => return none
  | .empty => throw (.slip .nullText)
  | .given path =>
    if ! (← Action.pathExists s path) then
      throw (.configuration (.fileMissing path))
    return some (← Configuration.load s path (environmentOf s buildDirectory))

/-- The value of an option, or another one if it is not given. An option without a value is a
slip. -/
def valueOr (other : α) : OptionValue α → Except Failure α
  | .missing => .ok other
  | .empty => .error (.slip .nullValue)
  | .given a => .ok a

/-- The device that options and a configuration describe. An option comes before what the
configuration says, and that before the default. The block is looked at first. -/
def geometryOf (device : DeviceOptions) (config : Option Configuration) :
    Except Failure Geometry := do
  let total := match config with | some c => (c.geometry.totalSize : Int) | none => Geometry.defaultTotal
  let block := match config with | some c => (c.geometry.blockSize : Int) | none => Geometry.defaultBlock
  let base := match config with | some c => c.geometry.baseAddress | none => some Geometry.defaultBase
  let refuse (fault : GeometryFault) : Failure := .configuration (.geometry fault)
  let block ← valueOr block device.blockSize
  if block ≤ 0 then throw (refuse (.blockNotPositive block))
  let total ← valueOr total device.flashSize
  let base := match device.baseAddress with
    | .missing => base
    | given => given.toOption
  (Geometry.ofSizes total block base).mapError refuse

/-- The device of a command that builds nothing. -/
def geometryFor (s : Setting) (device : DeviceOptions) : Action Geometry := do
  let config ← configuration s device .missing
  Action.ofExcept id (geometryOf device config)

/-- The artifact that is read unless another is named. -/
def defaultArtifact : Path := Path.ofString "spl1.bin"

/-- Where the artifact comes from: the file that an option names, or the binary of the
configuration, which is built first if that is asked for. -/
def providerOf (s : Setting) (options : MakeOptions) (config : Option Configuration) :
    Except Failure Provider :=
  let binary := (config.bind (·.binary)).getD defaultArtifact
  match options.artifact with
  | .given path => .ok (Provider.ofFile s path)
  | .empty => .error (.slip .nullValue)
  | .missing =>
    if options.build then
      match config.bind (·.build) with
      | some step => .ok (step.provider s binary)
      | none => .error (.configuration .noBuildStep)
    else .ok (Provider.ofFile s binary)

/-- The file to write: the one that an argument names, or that of the configuration, or the
default. -/
def outputOf (options : MakeOptions) (config : Option Configuration) : Path :=
  (options.output.or (config.bind (·.output))).getD
    (Path.ofString (if options.hex then Report.defaultHexImage else Report.defaultImage))

/-! ## Commands -/

/-- Print lines. -/
def printAll (lines : List String) : Action Unit :=
  lines.forM Action.print

/-- Print the lines of a report; a device without an address has none. -/
def printReport (r : Report) : Action Unit :=
  match r.lines with
  | .ok lines => printAll lines
  | .error .noAddress => throw (.slip .nullValue)
  | .error .longNumber => throw .longNumber

/-- Print fields as an object. -/
def printFields (fields : Fields) : Action Unit :=
  match fields.json? with
  | some text => Action.print text
  | none => throw .longNumber

/-- The fields of a report on a device that options describe. An address without a value is an empty
list. -/
def fieldsFor (device : DeviceOptions) (r : Report) : Fields :=
  if device.baseAddress = .empty then
    r.fields.map fun f => if f.1 = Report.addressField then (f.1, .noItems) else f
  else r.fields

/-- Compose the image that options and a configuration describe. -/
def composeFor (s : Setting) (options : MakeOptions) (device : DeviceOptions) :
    Action Report := do
  let config ← configuration s device options.buildDirectory
  let geometry ← Action.ofExcept id (geometryOf device config)
  let provider ← Action.ofExcept id (providerOf s options config)
  compose s provider geometry (some (outputOf options config)) options.hex

/-- Show the report on an image that was made. -/
def showMade (options : MakeOptions) (device : DeviceOptions) (r : Report) : Action ExitCode := do
  if options.json then
    printFields (fieldsFor device r)
  else
    Action.print ("Generated flash image: " ++ (match r.output with | some p => p.render | none => "None"))
    printReport r
    if !options.hex then
      printAll ["", "Run QEMU like this to boot SPL1 directly from pflash0:", r.emulatorCommand]
  return .success

/-- Make an image. -/
def makeImage (s : Setting) (options : MakeOptions) (device : DeviceOptions) : Action ExitCode :=
  expecting [.data, .missing, .system] .ofKind (composeFor s options device) (showMade options device)

/-- The layout that a command is to show, and the size it is planned for. -/
def planned (s : Setting) (artifactSize : Option Int) (device : DeviceOptions) :
    Action (Layout × Int) := do
  let geometry ← geometryFor s device
  match artifactSize with
  | some size => return (← planFor geometry size, size)
  | none => throw (.slip .nullValue)

/-- Show the report on a layout. -/
def showPlanned (json : Bool) (device : DeviceOptions) (made : Layout × Int) : Action ExitCode := do
  let r := Report.ofLayout made.1 made.2 none
  if json then printFields (fieldsFor device r) else printReport r
  return .success

/-- Show the layout for an artifact of some size. -/
def showLayout (s : Setting) (artifactSize : Option Int) (json : Bool) (device : DeviceOptions) :
    Action ExitCode :=
  expecting [.data] .ofKind (planned s artifactSize device) (showPlanned json device)

/-- Go on if an image is there. -/
def withImage (s : Setting) (image : Path) (k : Action ExitCode) : Action ExitCode := do
  if ← Action.pathExists s image then k
  else
    Action.print ("File " ++ image.render ++ " doesn't exist")
    return .noInput

/-- Check the image of a device and print the answer. -/
def printCheck (s : Setting) (image : Path) (geometry : Geometry) : Action ExitCode := do
  let valid ← Image.check s image geometry
  Action.print ("Flash image " ++ image.render ++ " is " ++ (if valid then "valid" else "invalid"))
  return if valid then .success else .dataError

/-- Check an image. -/
def checkImage (s : Setting) (image : Path) (device : DeviceOptions) : Action ExitCode :=
  withImage s image <| expecting [.data] .ofKind (geometryFor s device) (printCheck s image)

/-- Read the image that options describe. -/
def imageFor (s : Setting) (image : Path) (device : DeviceOptions) : Action Image := do
  Image.read s image (← geometryFor s device)

/-- Print the lines that tell of a log. -/
def printLog (log : TrialLog) (next : Bank) : Action Unit :=
  match log.lines? next with
  | some lines => printAll lines
  | none => throw .longNumber

/-- Show the log of an image. -/
def printTrials (maxTrials : Option Int) (json : Bool) (i : Image) : Action ExitCode := do
  match maxTrials with
  | none => throw (.slip .nullValue)
  | some trials =>
    let log := TrialLog.scan i.metadata
    let next := log.nextBank trials
    if json then printFields (log.fieldsWith next) else printLog log next
    return .success

/-- Show the boot-trial log of an image. -/
def showTrials (s : Setting) (image : Path) (maxTrials : Option Int) (json : Bool)
    (device : DeviceOptions) : Action ExitCode :=
  withImage s image <|
    expecting [.data, .missing, .system, .record] (fun _ => .dataError) (imageFor s image device)
      (printTrials maxTrials json)

/-- Do what a command asks for. -/
def Command.run (s : Setting) (device : DeviceOptions) : Command → Action ExitCode
  | makeImage options => CommandLine.makeImage s options device
  | showLayout artifactSize json => CommandLine.showLayout s artifactSize json device
  | checkImage image => CommandLine.checkImage s image device
  | showTrials image maxTrials json => CommandLine.showTrials s image maxTrials json device

/-- The paths that a command looks at or writes to, besides the configuration file. -/
def Command.paths (config : Option Configuration) : Command → List Path
  | makeImage options =>
    let built := ((config.bind (·.build)).map (·.result)).toList
    let binary := options.artifact.toOption.getD ((config.bind (·.binary)).getD defaultArtifact)
    outputOf options config :: binary :: built
  | showLayout _ _ => []
  | checkImage image => [image]
  | showTrials image _ _ => [image]

/-! ## The whole program -/

namespace Program

/-- Keep only those records of an action that are shown when more detail was asked for `count`
times. -/
def filterLog (count : Nat) (a : Action α) : Action α :=
  ExceptT.mk fun w =>
    let (result, after) := a.runOn { w with log := [] }
    (result, { after with
      log := w.log ++ after.log.filter fun r => LogLevel.threshold count ≤ r.level.rank })

/-- Do what arguments ask for. Without a command there is a hint how to use the program. -/
def runArguments (s : Setting) (args : Arguments) : Action ExitCode :=
  filterLog args.verbosity <|
    match args.command with
    | some (command, device) => command.run s device
    | none => do
      printAll ["No command specified", Help.program]
      return .usage

/-- Do what a command line asks for. -/
def run (s : Setting) (args : List String) : Action Ending := do
  match Arguments.parse args with
  | .ok args => return .exit (← runArguments s args)
  | .error (.help text) =>
    Action.print text
    return .exit .success
  | .error (.usage program message) => return .usageError program message

end Program

end NorFlash.CommandLine
