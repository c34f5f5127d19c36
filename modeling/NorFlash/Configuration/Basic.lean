import NorFlash.Build
import NorFlash.Configuration.Settings
import NorFlash.Text.Substitution
import NorFlash.Yaml.Document

/-!
# Configurations

A `Configuration` names the device, the artifact, the way to build it, and the image to write.
`Configuration.load` reads one from a file: the document has to satisfy the schema, names in its
texts are replaced by what the environment says, and its sizes have to be those of a device.
-/

namespace NorFlash

open Yaml (Document Fault)

/-- How an image is to be made. -/
structure Configuration where
  /-- The name of the configuration. -/
  name : Word
  /-- The device. -/
  geometry : Geometry
  /-- The flat binary of the artifact. -/
  binary : Option Path
  /-- How the artifact is built. -/
  build : Option BuildStep
  /-- The image to write. -/
  output : Option Path

namespace Configuration

/-! ## Names in texts -/

/-- The path that a word stands for in an environment. Bytes are no path. -/
def pathIn (env : Substitution.Environment) : Word → Except Failure Path
  | .text s => .ok (Path.ofString (Substitution.expand env s))
  | .bytes _ => .error (.slip .noText)

/-- A word of a command in an environment. A missing word and bytes are slips where there is
anything to replace. -/
def wordIn (env : Substitution.Environment) : Option Word → Except Failure (Option String)
  | some (.text s) => .ok (some (Substitution.expand env s))
  | some (.bytes _) => if env.isEmpty then .ok none else .error (.slip .noText)
  | none => if env.isEmpty then .ok none else .error (.slip .nullText)

/-- The name of the converter, in which nothing is replaced. -/
def converter : Option (Option Word) → Option String
  | none => some BuildStep.defaultObjcopy
  | some (some (.text s)) => some s
  | some _ => none

/-- The way to build an artifact in an environment. -/
def buildIn (env : Substitution.Environment) (b : BuildSettings) : Except Failure BuildStep := do
  return {
    command := ← b.command.mapM (wordIn env)
    result := ← pathIn env b.result
    objcopy := converter b.objcopy
    workDirectory := (← b.workDirectory.mapM (pathIn env)).map WorkDirectory.ofPath }

/-- The device that settings describe. -/
def geometryOf (s : Settings) : Except Failure Geometry :=
  (Geometry.ofSizes s.deviceSize s.blockSize
    (s.baseAddress.getD (some Geometry.defaultBase))).mapError fun fault =>
      .configuration (.geometry fault)

/-- The configuration that settings describe in an environment. -/
def ofSettings (env : Substitution.Environment) (s : Settings) :
    Except Failure Configuration := do
  let build ← (s.artifact.bind (·.build)).mapM (buildIn env)
  let geometry ← geometryOf s
  let binary ← (s.artifact.map (·.binary)).mapM (pathIn env)
  let output ← s.output.mapM (pathIn env)
  return ⟨s.name, geometry, binary, build, output⟩

/-! ## Documents -/

/-- What is reported for a file that holds no value. -/
def emptyReason : String :=
  "<CoreError: error code 3: No source file/data was loaded: Path: '/'>"

/-- What is reported for a document that the schema does not allow. -/
def violationReason (d : Document) (violations : List Violation) : Except Fault String := do
  return "<SchemaError: error code 2: Schema validation failed:\n - "
    ++ ".\n - ".intercalate (← violations.mapM (·.message d)) ++ ".: Path: '/'>"

/-- The reason why a document that the schema does not allow gives no settings; it may be that a
violation cannot be shown. -/
def refusal (d : Document) (violations : List Violation) : String :=
  match violationReason d violations with
  | .ok reason => reason
  | .error fault => fault.message

/-- The settings in the content of a file, or the reason why there are none. -/
def settingsOf (content : ByteArray) : Except String Settings :=
  match Document.read content with
  | .error fault => .error fault.message
  | .ok d =>
    if d.isNull d.root then .error emptyReason
    else
      match Settings.schema.violations d, Settings.ofDocument? d with
      | [], some settings => .ok settings
      | violations, _ => .error (refusal d violations)

/-- The content of a configuration file, or the reason why it cannot be read. -/
def readContent (s : Setting) (path : Path) : Action (Except String ByteArray) := do
  match ← Action.attempt (Action.readFile s path) with
  | .ok content => return .ok content
  | .error failure => return .error failure.message

/-- Read a configuration from a file. -/
def load (s : Setting) (path : Path) (env : Substitution.Environment) :
    Action Configuration := do
  let refuse (reason : String) : Action Configuration :=
    throw (.configuration (.invalid path s.schema reason))
  if !s.schemaPresent then throw (.configuration (.schemaMissing s.schema))
  match ← readContent s path with
  | .error reason => refuse reason
  | .ok content =>
    match settingsOf content with
    | .error reason => refuse reason
    | .ok settings => Action.ofExcept id (ofSettings env settings)

end Configuration

end NorFlash
