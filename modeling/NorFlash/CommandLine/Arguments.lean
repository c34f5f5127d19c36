import NorFlash.CommandLine.Grammar
import NorFlash.CommandLine.Help
import NorFlash.Path
import NorFlash.Report
import NorFlash.Text.IntegerLiteral
import NorFlash.TrialLog

/-!
# Arguments

The commands of the program with their options, and `Arguments.parse`, which reads them from a
command line. A command line without a command is allowed; it asks for nothing.
-/

namespace NorFlash.CommandLine

/-! ## Values of options -/

/-- The value of an option. -/
inductive OptionValue (α : Type) where
  /-- The option is not given. -/
  | missing
  /-- The option is given without a value. -/
  | empty
  /-- The value. -/
  | given (a : α)
  deriving DecidableEq, Repr

namespace OptionValue

/-- A value, or none. -/
def ofOption : Option α → OptionValue α
  | some a => given a
  | none => empty

/-- The value, if there is one. -/
def toOption : OptionValue α → Option α
  | given a => some a
  | missing | empty => none

end OptionValue

/-! ## Commands -/

/-- The options that every command has. -/
structure DeviceOptions where
  /-- The configuration file. -/
  config : OptionValue Path
  /-- The bytes of the device. -/
  flashSize : OptionValue Int
  /-- The bytes of an erase block. -/
  blockSize : OptionValue Int
  /-- The address the device is mapped at. -/
  baseAddress : OptionValue Int
  deriving DecidableEq, Repr

/-- The options of the command that makes an image. -/
structure MakeOptions where
  /-- The file to write. -/
  output : Option Path
  /-- The file that holds the artifact. -/
  artifact : OptionValue Path
  /-- Whether the artifact is built first. -/
  build : Bool
  /-- The directory that the configuration may refer to. -/
  buildDirectory : OptionValue Path
  /-- Whether Intel HEX is written. -/
  hex : Bool
  /-- Whether the report is printed as an object. -/
  json : Bool
  deriving DecidableEq, Repr

/-- What the program is asked to do. -/
inductive Command where
  /-- Make an image. -/
  | makeImage (options : MakeOptions)
  /-- Show the layout for an artifact of some size, if it has one. -/
  | showLayout (artifactSize : Option Int) (json : Bool)
  /-- Check an image. -/
  | checkImage (image : Path)
  /-- Show the boot-trial log of an image, whose banks may have a number of trials. -/
  | showTrials (image : Path) (maxTrials : Option Int) (json : Bool)
  deriving DecidableEq, Repr

/-- A command line that was read. -/
structure Arguments where
  /-- How often more detail was asked for. -/
  verbosity : Nat
  /-- The command and the options that every command has. -/
  command : Option (Command × DeviceOptions)
  deriving DecidableEq, Repr

/-! ## Drafts -/

/-- The values of all options while the arguments of a command are read. -/
structure Draft where
  /-- The options that every command has. -/
  device : DeviceOptions
  /-- The options of the command that makes an image. -/
  make : MakeOptions
  /-- The image to look at. -/
  image : Path
  /-- The size of the artifact to plan for. -/
  artifactSize : Option Int
  /-- The boot trials of a bank. -/
  maxTrials : Option Int

namespace Draft

/-- The values that options have unless they are given. -/
def initial : Draft where
  device := ⟨.missing, .missing, .missing, .missing⟩
  make := ⟨none, .missing, false, .missing, false, false⟩
  image := Path.ofString ""
  artifactSize := some 0
  maxTrials := some TrialLog.defaultMaxTrials

/-- An effect that stores a path. -/
def pathOption (f : Option Path → Draft → Draft) : Effect Draft :=
  .valued fun text d => .ok (f (text.map Path.ofString) d)

/-- An effect that stores an integer, which a function reads; `kind` is what messages call it. -/
def numberOption (kind : String) (read? : String → Option Int) (f : Option Int → Draft → Draft) :
    Effect Draft :=
  .valued fun
    | none, d => .ok (f none d)
    | some text, d =>
      match read? text with
      | some value => .ok (f (some value) d)
      | none => .error ("invalid " ++ kind ++ " value: " ++ Quoted.render text)

/-- An effect that stores an integer in the base that its literal names. -/
def intOption (f : Option Int → Draft → Draft) : Effect Draft :=
  numberOption "_int" IntegerLiteral.read? f

/-- An effect that stores an integer in base ten. -/
def decimalOption (f : Option Int → Draft → Draft) : Effect Draft :=
  numberOption "int" IntegerLiteral.readDecimal? f

end Draft

/-! ## Grammars of the commands -/

/-- The name of the program. -/
def programName : String := "prepare_pflash.py"

/-- The option that asks for help. -/
def helpOption (text : String) : OptionSpec σ :=
  ⟨["-h", "--help"], .help text⟩

/-- The options that every command has. -/
def deviceOptions : List (OptionSpec Draft) :=
  [⟨["-c", "--config"],
      Draft.pathOption fun p d => { d with device := { d.device with config := .ofOption p } }⟩,
    ⟨["--flash-size"],
      Draft.intOption fun n d => { d with device := { d.device with flashSize := .ofOption n } }⟩,
    ⟨["--block-size"],
      Draft.intOption fun n d => { d with device := { d.device with blockSize := .ofOption n } }⟩,
    ⟨["--base-address"],
      Draft.intOption fun n d => { d with device := { d.device with baseAddress := .ofOption n } }⟩]

/-- The option that asks for an object instead of lines. -/
def jsonOption : OptionSpec Draft :=
  ⟨["-j", "--json"], .switch fun d => { d with make := { d.make with json := true } }⟩

/-- The operand that names an image to look at. -/
def imageOperand : OperandSpec Draft :=
  ⟨"IMG", .one, fun args d => .ok { d with image := Path.ofString (args.head?.getD "") }⟩

/-- The operand that names the file to write. -/
def outputOperand : OperandSpec Draft :=
  ⟨"OUT", .optional, fun args d =>
    .ok { d with make := { d.make with output := args.head?.map Path.ofString } }⟩

/-- The grammar of the command that makes an image. -/
def makeImageGrammar : Grammar Draft where
  program := programName ++ " mkimg"
  abbreviations := true
  options := helpOption Help.makeImage :: deviceOptions ++
    [⟨["-a", "--artifact"],
        Draft.pathOption fun p d => { d with make := { d.make with artifact := .ofOption p } }⟩,
      ⟨["--build"], .switch fun d => { d with make := { d.make with build := true } }⟩,
      ⟨["--build-dir"],
        Draft.pathOption fun p d => { d with make := { d.make with buildDirectory := .ofOption p } }⟩,
      ⟨["--hex"], .switch fun d => { d with make := { d.make with hex := true } }⟩,
      jsonOption]
  operand := some outputOperand

/-- The grammar of the command that shows a layout. -/
def showLayoutGrammar : Grammar Draft where
  program := programName ++ " layout"
  abbreviations := true
  options := helpOption Help.showLayout :: deviceOptions ++
    [⟨["-s", "--artifact-size"], Draft.intOption fun n d => { d with artifactSize := n }⟩,
      jsonOption]
  operand := none

/-- The grammar of the command that checks an image. -/
def checkImageGrammar : Grammar Draft where
  program := programName ++ " check"
  abbreviations := true
  options := helpOption Help.checkImage :: deviceOptions
  operand := some imageOperand

/-- The grammar of the command that shows the boot-trial log. -/
def showTrialsGrammar : Grammar Draft where
  program := programName ++ " bootmeta"
  abbreviations := true
  options := helpOption Help.showTrials :: deviceOptions ++
    [⟨["-m", "--max-trials"], Draft.decimalOption fun n d => { d with maxTrials := n }⟩,
      jsonOption]
  operand := some imageOperand

/-! ## The commands by name -/

/-- A command with the grammar of its arguments. -/
structure CommandSpec where
  /-- The name of the command. -/
  name : String
  /-- The grammar of its arguments. -/
  grammar : Grammar Draft
  /-- The command that the values of its options make. -/
  command : Draft → Command

/-- All commands, in the order in which messages list them. -/
def commands : List CommandSpec :=
  [⟨"mkimg", makeImageGrammar, fun d => .makeImage d.make⟩,
    ⟨"layout", showLayoutGrammar, fun d => .showLayout d.artifactSize d.make.json⟩,
    ⟨"check", checkImageGrammar, fun d => .checkImage d.image⟩,
    ⟨"bootmeta", showTrialsGrammar, fun d => .showTrials d.image d.maxTrials d.make.json⟩]

/-- How messages name the command. -/
def commandLabel : String :=
  "\x7b" ++ ",".intercalate (commands.map (·.name)) ++ "\x7d"

/-- The arguments read so far and those of the command that have no place. -/
structure Reading where
  /-- The arguments. -/
  arguments : Arguments
  /-- The arguments of the command that have no place. -/
  extras : List String

/-- Read the arguments of the command that the first argument names. -/
def readCommand (args : List String) (r : Reading) : Except Stop Reading :=
  let name := args.head?.getD ""
  match commands.find? (·.name == name) with
  | none =>
    .error (.usage programName ("argument " ++ commandLabel ++ ": invalid choice: "
      ++ Quoted.render name ++ " (choose from "
      ++ ", ".intercalate (commands.map fun c => Quoted.render c.name) ++ ")"))
  | some c => do
    let (draft, extras) ← c.grammar.parse Draft.initial args.tail
    return ⟨{ r.arguments with command := some (c.command draft, draft.device) }, extras⟩

/-- The grammar of the whole command line. -/
def mainGrammar : Grammar Reading where
  program := programName
  abbreviations := false
  options :=
    [helpOption Help.program,
      ⟨["-v", "--verbose"],
        .switch fun r =>
          { r with arguments := { r.arguments with verbosity := r.arguments.verbosity + 1 } }⟩]
  operand := some ⟨commandLabel, .command, readCommand⟩

namespace Arguments

/-- Read a command line. -/
def parse (args : List String) : Except Stop Arguments := do
  let (r, extras) ← mainGrammar.parse ⟨⟨0, none⟩, []⟩ args
  match extras ++ r.extras with
  | [] => return r.arguments
  | unknown =>
    .error (.usage programName ("unrecognized arguments: " ++ " ".intercalate unknown))

end Arguments

end NorFlash.CommandLine
