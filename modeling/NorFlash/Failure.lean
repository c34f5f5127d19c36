import NorFlash.FileTree.Errno
import NorFlash.Image
import NorFlash.IntelHex.Memory
import NorFlash.Path

/-!
# Failures

Every way in which a run can fail, as the cause it has. `Failure.message` words it, and
`Failure.kind` sorts the failures into families: bad data, a missing artifact, an error of the
system, a bad record, and slips that no part of the program expects.
-/

namespace NorFlash

/-! ## Configurations -/

/-- Why a configuration cannot be used. -/
inductive ConfigurationFault where
  /-- The sizes describe no device. -/
  | geometry (fault : GeometryFault)
  /-- The layout is one for another device. -/
  | foreignLayout (planned given : Geometry)
  /-- The schema is not where it should be. -/
  | schemaMissing (schema : String)
  /-- The file is not there. -/
  | fileMissing (path : Path)
  /-- The file is no document that the schema allows. -/
  | invalid (path : Path) (schema reason : String)
  /-- A build was asked for, and none is configured. -/
  | noBuildStep

namespace ConfigurationFault

/-- What is wrong, in words. -/
def summary : ConfigurationFault → String
  | geometry fault => fault.summary
  | foreignLayout _ _ => ImageFault.foreignSummary
  | schemaMissing schema =>
    "schema " ++ schema ++ " not found; run from the source tree or an editable install "
      ++ "(pip install -e .)"
  | fileMissing path => "configuration file " ++ path.render ++ " doesn't exist"
  | invalid path schema reason =>
    "failed to validate " ++ path.render ++ " against schema " ++ schema ++ ": " ++ reason
  | noBuildStep => "--build needs a configuration with a build step"

/-- The numbers at fault, by name. -/
def values : ConfigurationFault → List (String × Int)
  | geometry fault => fault.values
  | foreignLayout planned given => ImageFault.foreignValues planned given
  | _ => []

/-- The fault in words, with the numbers at fault. -/
def message (f : ConfigurationFault) : String :=
  match f.values with
  | [] => f.summary
  | values =>
    f.summary ++ " ("
      ++ ", ".intercalate (values.map fun v => v.1 ++ "=" ++ Numeral.decimal v.2) ++ ")"

end ConfigurationFault

/-! ## Files -/

/-- Why a file cannot be read. -/
inductive ReadFault where
  /-- The system refuses. -/
  | file (fault : FileFault)
  /-- A line is no record. -/
  | record (fault : IntelHex.RecordFault)
  /-- The file is no text. -/
  | text (fault : Utf8Fault)
  /-- The path holds a null character. -/
  | nullCharacter

namespace ReadFault

/-- The fault in words. -/
def message : ReadFault → String
  | file fault => fault.message
  | record fault => fault.message
  | text fault => fault.message
  | nullCharacter => "embedded null byte"

/-- The fault of a file that describes no memory. -/
def ofMemory : IntelHex.Memory.Fault → ReadFault
  | .record fault => record fault
  | .text fault => text fault

end ReadFault

/-! ## Artifacts -/

/-- A step of a build. -/
inductive BuildStage where
  /-- The configured command. -/
  | build
  /-- The conversion of its result. -/
  | objcopy
  deriving DecidableEq, Repr

namespace BuildStage

/-- The name of a step. -/
def label : BuildStage → String
  | build => "build"
  | objcopy => "objcopy"

end BuildStage

/-- Why there is no artifact. -/
inductive MissingReason where
  /-- No file is at the path. -/
  | notFound
  /-- The file cannot be read. -/
  | unreadable (fault : ReadFault)
  /-- A program of the build could not be started. -/
  | notStarted (stage : BuildStage) (fault : FileFault)
  /-- A program of the build failed. -/
  | exited (stage : BuildStage) (status : Int)
  /-- The build left no result. -/
  | noResult

namespace MissingReason

/-- The reason in words. -/
def text : MissingReason → String
  | notFound => "artifact not found"
  | unreadable fault => "cannot read artifact (" ++ fault.message ++ ")"
  | notStarted stage fault => stage.label ++ " could not run (" ++ fault.message ++ ")"
  | exited stage status =>
    stage.label ++ " exited with status " ++ Numeral.decimal status
  | noResult => "ELF not found after build"

end MissingReason

/-! ## All failures -/

/-- What no part of the program expects. -/
inductive Slip where
  /-- A number or a text is needed where there is none. -/
  | nullValue
  /-- A text is needed where there are bytes. -/
  | noText
  /-- A name is to be replaced where there is no text. -/
  | nullText
  /-- A command has no words. -/
  | emptyCommand
  /-- An address has more than 32 bits, or a size more than an index has. -/
  | wideAddress
  /-- There is not enough memory. -/
  | noMemory
  /-- A part that is to be read as words is not made of whole words. -/
  | partialWord
  /-- A composer is run again. -/
  | spentComposer (state : String)
  /-- A failure from outside, with its own kind and words. -/
  | foreign (kind message : String)

/-- Why a run failed. -/
inductive Failure where
  /-- The configuration, or a layout or a geometry it led to, cannot be used. -/
  | configuration (fault : ConfigurationFault)
  /-- The artifact has no place on the device. -/
  | plan (fault : PlanFault)
  /-- A range to erase does not lie in the buffer. -/
  | eraseRange (start stop : Int)
  /-- The content has not the size of the device. -/
  | wrongSize (actual expected : Nat)
  /-- A file of records has bytes beyond the device. -/
  | outsideFlash (path : Path) (low high size : Nat)
  /-- The metadata is neither erased nor a log. -/
  | badMetadata (offset stoppedAt : Int)
  /-- There is no artifact. -/
  | missing (path : Path) (reason : MissingReason)
  /-- A number is too long to be written. -/
  | longNumber
  /-- A file cannot be read or written. -/
  | file (fault : ReadFault)
  /-- Something that is not expected. -/
  | slip (slip : Slip)

/-- The families that failures are told apart by. -/
inductive FailureKind where
  /-- Data that cannot be used. -/
  | data
  /-- No artifact. -/
  | missing
  /-- An error of the system. -/
  | system
  /-- A bad record. -/
  | record
  /-- What is not expected. -/
  | slip
  deriving DecidableEq, Repr

namespace Failure

/-- The failure of an image that cannot be made. -/
def ofImage : ImageFault → Failure
  | .foreignLayout planned given => configuration (.foreignLayout planned given)
  | .overlap size capacity => plan (.overlap size capacity)
  | .beyondIndex => slip .wideAddress
  | .beyondMemory => slip .noMemory
  | .eraseRange start stop => eraseRange start stop
  | .wrongSize actual expected => wrongSize actual expected

/-- The family of a failure. -/
def kind : Failure → FailureKind
  | configuration _ | plan _ | eraseRange _ _ | wrongSize _ _ | outsideFlash _ _ _ _
  | badMetadata _ _ | longNumber => .data
  | missing _ _ => .missing
  | file (.file _) => .system
  | file (.record _) => .record
  | file (.text _) | file .nullCharacter => .data
  | slip _ => .slip

/-- The failure in words. -/
def message : Failure → String
  | configuration fault => fault.message
  | plan fault => fault.message
  | eraseRange start stop =>
    "erase range " ++ Numeral.hex start ++ ":" ++ Numeral.hex stop ++ " outside image"
  | wrongSize actual expected =>
    "image is " ++ Numeral.decimal actual ++ " bytes, expected " ++ Numeral.decimal expected
  | outsideFlash path low high size =>
    path.render ++ " spans 0x" ++ Numeral.hex low ++ ":0x" ++ Numeral.hex high
      ++ ", outside flash offsets 0x0:0x" ++ Numeral.hex ((size : Int) - 1)
  | badMetadata offset stoppedAt =>
    "metadata block at 0x" ++ Numeral.hex offset ++ " is neither erased nor a boot-trial log "
      ++ "(stopped at word " ++ Numeral.decimal stoppedAt ++ ")"
  | missing path reason => reason.text ++ ": " ++ path.render
  | longNumber => Numeral.overlong ++ Numeral.overlongAdvice
  | file fault => fault.message
  | slip (.spentComposer state) => "composer already ran (state " ++ state ++ ")"
  | slip (.foreign _ text) => text
  | slip _ => ""

/-- The numbers that the words of a failure show in base ten, as far as they have no bound. -/
def numbers : Failure → List Int
  | configuration fault => fault.values.map (·.2)
  | plan (.negativeSize size) => [size]
  | plan (.overlap size capacity) => [size, capacity, PlanFault.deficit size capacity]
  | wrongSize _ expected => [expected]
  | _ => []

/-- The failure that arises where this one is put into words: a number may be too long for them. -/
def worded (f : Failure) : Failure :=
  if f.numbers.all Numeral.isWritable then f else longNumber

/-- A failure for bad data remains one where it is put into words. -/
theorem kind_worded_of_data {f : Failure} (h : f.kind = .data) : f.worded.kind = .data := by
  rw [worded]
  split
  · exact h
  · rfl

/-- What is expected remains expected. -/
theorem kind_worded_ne_slip {f : Failure} (h : f.kind ≠ .slip) : f.worded.kind ≠ .slip := by
  rw [worded]
  split
  · exact h
  · decide

end Failure

end NorFlash
