import NorFlash.Schema

/-!
# Settings

The `Settings` are what a configuration file says, with its texts as they are written.
`Settings.schema` says which documents are allowed, and `Settings.ofDocument?` takes the settings
from a document.
-/

namespace NorFlash

open Yaml (Atom Document ObjectId)

/-- What stands for a text in a configuration file. -/
inductive Word where
  /-- A text. -/
  | text (s : String)
  /-- Bytes, which the schema allows but which name no file and no program. -/
  | bytes (data : List UInt8)
  deriving DecidableEq, Repr

/-- What a configuration file says about a build. -/
structure BuildSettings where
  /-- The words of the command; a word may be missing. -/
  command : List (Option Word)
  /-- The linked program that the command leaves. -/
  result : Word
  /-- The converter, if the file says anything about it; it may say that there is none. -/
  objcopy : Option (Option Word)
  /-- Where both are started. -/
  workDirectory : Option Word
  deriving DecidableEq, Repr

/-- What a configuration file says about an artifact. -/
structure ArtifactSettings where
  /-- The flat binary. -/
  binary : Word
  /-- How it is built. -/
  build : Option BuildSettings
  deriving DecidableEq, Repr

/-- What a configuration file says. -/
structure Settings where
  /-- The name of the configuration. -/
  name : Word
  /-- The bytes of the device. -/
  deviceSize : Int
  /-- The bytes of an erase block. -/
  blockSize : Int
  /-- The address the device is mapped at, if the file says anything about it; it may say that there
  is none. -/
  baseAddress : Option (Option Int)
  /-- The artifact. -/
  artifact : Option ArtifactSettings
  /-- The image to write. -/
  output : Option Word
  deriving DecidableEq, Repr

namespace Settings

/-! ## The schema -/

/-- A key that has to be there. -/
def required (name : String) (schema : Schema) : FieldName × Schema :=
  (⟨name, true⟩, schema)

/-- A key that may be missing. -/
def optional (name : String) (schema : Schema) : FieldName × Schema :=
  (⟨name, false⟩, schema)

/-- What a file may say about a device. -/
def flashSchema : Schema :=
  .map [required "device_size" (.integer 1), required "block_size" (.integer 1),
    optional "base_address" (.integer 0)]

/-- What a file may say about a build. -/
def buildSchema : Schema :=
  .map [required "command" (.list .text), required "elf" .text, optional "objcopy" .text,
    optional "workdir" .text]

/-- What a file may say about an artifact. -/
def artifactSchema : Schema :=
  .map [required "binary" .text, optional "build" buildSchema]

/-- What a configuration file may say. -/
def schema : Schema :=
  .map [required "name" .text, required "flash" flashSchema, optional "artifact" artifactSchema,
    optional "image" (.map [optional "output" .text])]

/-! ## From a document -/

/-- The word that an object is. -/
def word? (d : Document) (id : ObjectId) : Option Word :=
  match d.atom? id with
  | some (.text s) => some (.text s)
  | some (.binary data) => some (.bytes data)
  | _ => none

/-- The integer that an object is. -/
def integer? (d : Document) (id : ObjectId) : Option Int :=
  match d.atom? id with
  | some (.integer i) => some i
  | _ => none

/-- The word of a key in a mapping; a key without a value has none. -/
def wordAt? (d : Document) (name : String) (id : ObjectId) : Option Word :=
  (d.entry? name id).bind (word? d)

/-- The words of a command. -/
def words? (d : Document) (id : ObjectId) : Option (List (Option Word)) :=
  match d.object id with
  | .list items => some (items.map (word? d))
  | .pairs [] => some []
  | _ => none

/-- What a document says about a build. -/
def buildOf? (d : Document) (id : ObjectId) : Option BuildSettings := do
  return {
    command := ← (d.entry? "command" id).bind (words? d)
    result := ← wordAt? d "elf" id
    objcopy := (d.entry? "objcopy" id).map (word? d)
    workDirectory := wordAt? d "workdir" id }

/-- What a document says about an artifact. -/
def artifactOf? (d : Document) (id : ObjectId) : Option ArtifactSettings := do
  let binary ← wordAt? d "binary" id
  match d.entry? "build" id with
  | none => return ⟨binary, none⟩
  | some build => return ⟨binary, some (← buildOf? d build)⟩

/-- The settings in a document. A document that the schema allows has them all. -/
def ofDocument? (d : Document) : Option Settings := do
  let flash ← d.entry? "flash" d.root
  let artifact ←
    match d.entry? "artifact" d.root with
    | none => some none
    | some artifact => (artifactOf? d artifact).map some
  return {
    name := ← wordAt? d "name" d.root
    deviceSize := ← (d.entry? "device_size" flash).bind (integer? d)
    blockSize := ← (d.entry? "block_size" flash).bind (integer? d)
    baseAddress := (d.entry? "base_address" flash).map (integer? d)
    artifact := artifact
    output := (d.entry? "image" d.root).bind (wordAt? d "output") }

end Settings

end NorFlash
