import Mathlib.Data.List.Pairwise
import NorFlash.CommandLine.Arguments
import NorFlash.Proofs.CommandLine.Parts
import NorFlash.Proofs.Text.IntegerLiteral

/-!
# Requests and the command lines for them

A `Request` is a command with values for some of its options. It can be written in many ways
(`Request.Written`): its values stand in any order, each under one of the names of its option, apart
from a long name or behind an equals sign, and numbers in base ten or sixteen. The values may be
taken in any order (`Request.foldl_apply_of_perm`), and taken together they make what the request
asks for, with the declared values for the options that it says nothing about
(`Request.exists_spec`).
-/

namespace NorFlash.CommandLine

/-! ## Requests -/

/-- A text that can stand for a path between options. -/
structure PathText where
  /-- The text. -/
  text : String
  /-- It starts with no dash. -/
  no_dash : text.toList.head? ≠ some '-'

/-- The path that a text stands for. -/
def PathText.path (p : PathText) : Path :=
  Path.ofString p.text

/-- Values for some of the options that every command has. -/
structure DeviceRequest where
  /-- The configuration file. -/
  config : Option PathText
  /-- The bytes of the device. -/
  flashSize : Option Int
  /-- The bytes of an erase block. -/
  blockSize : Option Int
  /-- The address the device is mapped at. -/
  baseAddress : Option Int

/-- A command with values for some of its options. -/
inductive Request where
  /-- Make an image. -/
  | makeImage (device : DeviceRequest) (output artifact : Option PathText) (build : Bool)
    (buildDirectory : Option PathText) (hex json : Bool)
  /-- Show the layout. -/
  | showLayout (device : DeviceRequest) (artifactSize : Option Int) (json : Bool)
  /-- Check an image. -/
  | checkImage (device : DeviceRequest) (image : PathText)
  /-- Show the boot-trial log of an image. -/
  | showTrials (device : DeviceRequest) (image : PathText) (maxTrials : Option Int) (json : Bool)

/-- The value of an option that is given or not. -/
def OptionValue.ofGiven {α : Type} (value : Option α) : OptionValue α :=
  value.elim missing given

/-- The options that every command has, with the values of a request. -/
def DeviceRequest.options (d : DeviceRequest) : DeviceOptions where
  config := .ofGiven (d.config.map (·.path))
  flashSize := .ofGiven d.flashSize
  blockSize := .ofGiven d.blockSize
  baseAddress := .ofGiven d.baseAddress

namespace Request

/-- What a request asks for; options that it says nothing about have the declared values. -/
def command : Request → Command × DeviceOptions
  | makeImage device output artifact build buildDirectory hex json =>
    (.makeImage ⟨output.map (·.path), .ofGiven (artifact.map (·.path)), build,
      .ofGiven (buildDirectory.map (·.path)), hex, json⟩, device.options)
  | showLayout device artifactSize json =>
    (.showLayout (some (artifactSize.getD 0)) json, device.options)
  | checkImage device image => (.checkImage image.path, device.options)
  | showTrials device image maxTrials json =>
    (.showTrials image.path (some (maxTrials.getD TrialLog.defaultMaxTrials)) json, device.options)

/-- The name of the command. -/
def name : Request → String
  | makeImage .. => "mkimg"
  | showLayout .. => "layout"
  | checkImage .. => "check"
  | showTrials .. => "bootmeta"

end Request

/-! ## The values of a request -/

/-- A value for one option or for the operand of a command. -/
inductive Choice where
  /-- The configuration file. -/
  | config (path : PathText)
  /-- The bytes of the device. -/
  | flashSize (n : Int)
  /-- The bytes of an erase block. -/
  | blockSize (n : Int)
  /-- The address the device is mapped at. -/
  | baseAddress (n : Int)
  /-- The file that holds the artifact. -/
  | artifact (path : PathText)
  /-- The artifact is built first. -/
  | build
  /-- The directory that the configuration may refer to. -/
  | buildDirectory (path : PathText)
  /-- Intel HEX is written. -/
  | hex
  /-- An object is printed. -/
  | json
  /-- The size of the artifact to plan for. -/
  | artifactSize (n : Int)
  /-- The boot trials of a bank. -/
  | maxTrials (n : Int)
  /-- The file to write; an operand. -/
  | output (path : PathText)
  /-- The image to look at; an operand. -/
  | image (path : PathText)

/-- A switch that is given or not. -/
def Choice.flag (c : Choice) (given : Bool) : Option Choice :=
  if given then some c else none

/-- The values for the options that every command has, as far as there are any. -/
def DeviceRequest.slots (d : DeviceRequest) : List (Option Choice) :=
  [d.config.map .config, d.flashSize.map .flashSize, d.blockSize.map .blockSize,
    d.baseAddress.map .baseAddress]

namespace Request

/-- The values for the options that every command has. -/
def device : Request → DeviceRequest
  | makeImage device .. | showLayout device .. | checkImage device ..
  | showTrials device .. => device

/-- The values for the options and the operand of the command itself, as far as there are any. -/
def slots : Request → List (Option Choice)
  | makeImage _ output artifact build buildDirectory hex json =>
    [output.map .output, artifact.map .artifact, Choice.build.flag build,
      buildDirectory.map .buildDirectory, Choice.hex.flag hex, Choice.json.flag json]
  | showLayout _ artifactSize json =>
    [artifactSize.map .artifactSize, Choice.json.flag json]
  | checkImage _ image => [some (.image image)]
  | showTrials _ image maxTrials json =>
    [some (.image image), maxTrials.map .maxTrials, Choice.json.flag json]

/-- The values of a request. -/
def choices (r : Request) : List Choice :=
  (r.device.slots ++ r.slots).filterMap id

end Request

/-! ## Writing values -/

/-- How a value is written. -/
inductive Form where
  /-- As one of the names of an option. -/
  | switch (names : List String)
  /-- As one of some texts, under one of the names of an option. -/
  | valued (names : List String) (texts : String → Prop)
  /-- As a text alone. -/
  | operand (text : String)

/-- The arguments that a value of a form can be written as. The value of an option stands in an
argument of its own, or behind an equals sign if the name is a long one. -/
def Form.Allows : Form → List String → Prop
  | switch names, words => ∃ name ∈ names, words = [name]
  | valued names texts, words => ∃ name ∈ names, ∃ text, texts text ∧
      (words = [name, text] ∨ name.startsWith "--" = true ∧ words = [name ++ "=" ++ text])
  | operand text, words => words = [text]

/-- A text is a decimal form of an integer, if it is allowed to have one. -/
def IsDecimal (allowed : Int → Prop) (n : Int) (text : String) : Prop :=
  allowed n ∧ text = Numeral.decimal n

/-- A text is a decimal form of an integer, if it is allowed to have one, or a hexadecimal form of a
natural number. -/
def IsNumeral (allowed : Int → Prop) (n : Int) (text : String) : Prop :=
  IsDecimal allowed n text ∨ 0 ≤ n ∧ text = "0x" ++ Numeral.hex n

namespace Choice

/-- The names of the option that a value is for; the operand has none. -/
def names : Choice → List String
  | config _ => ["-c", "--config"]
  | flashSize _ => ["--flash-size"]
  | blockSize _ => ["--block-size"]
  | baseAddress _ => ["--base-address"]
  | artifact _ => ["-a", "--artifact"]
  | build => ["--build"]
  | buildDirectory _ => ["--build-dir"]
  | hex => ["--hex"]
  | json => ["-j", "--json"]
  | artifactSize _ => ["-s", "--artifact-size"]
  | maxTrials _ => ["-m", "--max-trials"]
  | output _ | image _ => []

/-- How a value is written, where some integers are allowed to have a decimal form. -/
def form (allowed : Int → Prop) (c : Choice) : Form :=
  match c with
  | config path | artifact path | buildDirectory path => .valued c.names (· = path.text)
  | flashSize n | blockSize n | baseAddress n | artifactSize n =>
    .valued c.names (IsNumeral allowed n)
  | maxTrials n => .valued c.names (IsDecimal allowed n)
  | build | hex | json => .switch c.names
  | output path | image path => .operand path.text

end Choice

/-- Arguments that values are written as, one after the other. -/
inductive Spells (allowed : Int → Prop) : List Choice → List String → Prop where
  /-- No values. -/
  | nil : Spells allowed [] []
  /-- A value first. -/
  | cons {c : Choice} {cs : List Choice} {words rest : List String}
    (hc : (c.form allowed).Allows words) (hrest : Spells allowed cs rest) :
    Spells allowed (c :: cs) (words ++ rest)

/-- Arguments that a request can be written as: the name of its command and then its values, in any
order. -/
def Request.Written (allowed : Int → Prop) (r : Request) (words : List String) : Prop :=
  ∃ cs rest, cs.Perm r.choices ∧ Spells allowed cs rest ∧ words = r.name :: rest

/-- The integers whose decimal form is not too long to be read. -/
def Short (n : Int) : Prop :=
  Numeral.isWritable n = true

/-! ## What values do -/

namespace Choice

/-- What a value does to the values read so far. -/
def apply (d : Draft) : Choice → Draft
  | config path => { d with device := { d.device with config := .given path.path } }
  | flashSize n => { d with device := { d.device with flashSize := .given n } }
  | blockSize n => { d with device := { d.device with blockSize := .given n } }
  | baseAddress n => { d with device := { d.device with baseAddress := .given n } }
  | artifact path => { d with make := { d.make with artifact := .given path.path } }
  | build => { d with make := { d.make with build := true } }
  | buildDirectory path => { d with make := { d.make with buildDirectory := .given path.path } }
  | hex => { d with make := { d.make with hex := true } }
  | json => { d with make := { d.make with json := true } }
  | artifactSize n => { d with artifactSize := some n }
  | maxTrials n => { d with maxTrials := some n }
  | output path => { d with make := { d.make with output := some path.path } }
  | image path => { d with image := path.path }

/-- Values for different options do not interfere. -/
theorem apply_comm {c c' : Choice} (h : c.names ≠ c'.names) (d : Draft) :
    apply (apply d c) c' = apply (apply d c') c := by
  cases c <;> cases c' <;> first | rfl | exact absurd rfl h

theorem forall_mem_flag {c : Choice} {given : Bool} {p : Choice → Prop} (h : p c) :
    ∀ c' ∈ c.flag given, p c' := by
  cases given <;> simp [flag, h]

/-- What the value of a slot does, if there is one. -/
def applySlot (d : Draft) (slot : Option Choice) : Draft :=
  slot.elim d (apply d)

end Choice

theorem DeviceRequest.foldl_slots (device : DeviceRequest) :
    device.slots.foldl Choice.applySlot Draft.initial =
      { Draft.initial with device := device.options } := by
  obtain ⟨config, flashSize, blockSize, baseAddress⟩ := device
  cases config <;> cases flashSize <;> cases blockSize <;> cases baseAddress <;> rfl

namespace Request

/-- The values of a request are for different options. -/
theorem pairwise_choices (r : Request) : r.choices.Pairwise (·.names ≠ ·.names) := by
  rw [choices, List.pairwise_filterMap]
  cases r <;> simp [slots, device, DeviceRequest.slots, Choice.flag, Choice.names]

theorem pairwise_of_perm {r : Request} {cs : List Choice} (h : cs.Perm r.choices) :
    cs.Pairwise (·.names ≠ ·.names) :=
  (h.pairwise_iff fun hne => hne.symm).2 r.pairwise_choices

/-- The order of the values of a request does not matter. -/
theorem foldl_apply_of_perm {r : Request} {cs : List Choice} (h : cs.Perm r.choices) (d : Draft) :
    cs.foldl Choice.apply d = r.choices.foldl Choice.apply d := by
  have hsymm : Std.Symm fun c c' : Choice => c.names ≠ c'.names := ⟨fun _ _ hne => hne.symm⟩
  refine h.foldl_eq' (fun c hc c' hc' x => ?_) d
  by_cases heq : c = c'
  · rw [heq]
  · exact Choice.apply_comm ((pairwise_of_perm h).forall hc hc' heq) x

theorem foldl_choices (r : Request) :
    r.choices.foldl Choice.apply Draft.initial =
      r.slots.foldl Choice.applySlot { Draft.initial with device := r.device.options } := by
  rw [← DeviceRequest.foldl_slots, ← List.foldl_append, choices, List.foldl_filterMap]
  congr
  funext d slot
  cases slot <;> rfl

/-- The grammar of the command. -/
def grammar : Request → Grammar Draft
  | makeImage .. => makeImageGrammar
  | showLayout .. => showLayoutGrammar
  | checkImage .. => checkImageGrammar
  | showTrials .. => showTrialsGrammar

/-- The values of a request make what it asks for. -/
theorem exists_spec (r : Request) :
    ∃ spec, commands.find? (·.name == r.name) = some spec ∧ spec.grammar = r.grammar ∧
      ∀ d, d = r.choices.foldl Choice.apply Draft.initial →
        (spec.command d, d.device) = r.command := by
  rw [foldl_choices]
  cases r with
  | makeImage device output artifact build buildDirectory hex json =>
    refine ⟨_, rfl, rfl, ?_⟩
    rintro _ rfl
    cases output <;> cases artifact <;> cases build <;> cases buildDirectory <;> cases hex <;>
      cases json <;> rfl
  | showLayout device artifactSize json =>
    refine ⟨_, rfl, rfl, ?_⟩
    rintro _ rfl
    cases artifactSize <;> cases json <;> rfl
  | checkImage device image =>
    refine ⟨_, rfl, rfl, ?_⟩
    rintro _ rfl
    rfl
  | showTrials device image maxTrials json =>
    refine ⟨_, rfl, rfl, ?_⟩
    rintro _ rfl
    cases maxTrials <;> cases json <;> rfl

end Request

end NorFlash.CommandLine
