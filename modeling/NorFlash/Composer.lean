import NorFlash.Artifact
import NorFlash.IntelHex.Document
import NorFlash.Persist
import NorFlash.Report

/-!
# Composing

A `Composer` obtains an artifact, plans its layout, composes the image and puts it in place. It runs
once: the `ComposeState` goes through the stages in order, and the first failure ends it in
`failed`. Nothing is put in place before all the other stages succeeded.
-/

namespace NorFlash

/-- How far a composer has come. -/
inductive ComposeState where
  /-- Nothing is done. -/
  | start
  /-- The artifact is there. -/
  | artifactObtained
  /-- The artifact has its place. -/
  | layoutValidated
  /-- The image is made. -/
  | imageComposed
  /-- The image is in place. -/
  | persisted
  /-- A stage failed. -/
  | failed
  deriving DecidableEq, Repr

namespace ComposeState

/-- The name of a state. -/
def label : ComposeState → String
  | start => "start"
  | artifactObtained => "artifact-obtained"
  | layoutValidated => "layout-validated"
  | imageComposed => "image-composed"
  | persisted => "persisted"
  | failed => "failed"

end ComposeState

/-- A run of the stages that is to be made or has been made. -/
structure Composer where
  /-- The device. -/
  geometry : Geometry
  /-- Where the artifact comes from. -/
  provider : Provider
  /-- Where the image goes; it goes nowhere if there is no path. -/
  output : Option Path
  /-- Whether the image is written as Intel HEX. -/
  hexOutput : Bool
  /-- How far the run has come. -/
  state : ComposeState
  /-- The image, once all is done. -/
  image : Option Image

/-- The text of Intel HEX records for the artifact in an image. -/
def Image.hexText? (i : Image) : Option String :=
  (IntelHex.Document.ofBytes? i.layout.code.offset i.code.toList).map
    fun document => String.ofList document.render

/-- Plan the layout for an artifact of `size` bytes, and note it. -/
def planFor (g : Geometry) (size : Int) : Action Layout := do
  let layout ← Action.ofExcept Failure.plan (Layout.plan g size)
  if ! Numeral.isWritable size then throw .longNumber
  Action.debug (layout.planNote size)
  return layout

namespace Composer

/-- A composer that has not run. -/
def new (g : Geometry) (provider : Provider) (output : Option Path) (hexOutput : Bool) :
    Composer :=
  ⟨g, provider, output, hexOutput, .start, none⟩

/-- An action that goes through states. -/
abbrev Staged := ExceptT Failure (StateT ComposeState (StateM World))

/-- An action as a part of a stage. -/
def act (a : Action α) : Staged α :=
  ExceptT.mk fun state w =>
    match a.runOn w with
    | (result, w) => ((result, state), w)

/-- Go on to a state. -/
def advance (next : ComposeState) : Staged Unit := do
  let state ← getThe ComposeState
  act (Action.debug ("compose: " ++ state.label ++ " -> " ++ next.label))
  set next

/-- The bytes that an image is written as. -/
def encode (hexOutput : Bool) (i : Image) : Action ByteArray :=
  if hexOutput then
    match i.hexText? with
    | some text => pure text.toUTF8
    | none => throw (.slip .wideAddress)
  else
    pure i.data

/-- The stages. -/
def stages (s : Setting) (c : Composer) : Staged (Layout × Image) := do
  let artifact ← act c.provider
  act (Action.info ("SPL1 binary size: " ++ Numeral.decimal artifact.size ++ " bytes"))
  advance .artifactObtained
  let layout ← act (planFor c.geometry artifact.size)
  advance .layoutValidated
  let image ← act (Action.ofExcept Failure.ofImage (Image.compose layout c.geometry artifact))
  act ((Image.composeNotes layout artifact.size).forM Action.debug)
  advance .imageComposed
  match c.output with
  | some output => act (do persist s (← encode c.hexOutput image) output)
  | none => pure ()
  advance .persisted
  return (layout, image)

/-- The stages with the failure of one of them as the last state. -/
def guarded (s : Setting) (c : Composer) : Staged (Layout × Image) :=
  tryCatch (stages s c) fun failure => do
    advance .failed
    throw failure

/-- Run a composer. The answer is the report or the failure, the composer as the run leaves it, and
the world. A composer that has run before fails and stays as it is. -/
def run (s : Setting) (c : Composer) (w : World) : (Except Failure Report × Composer) × World :=
  if c.state = .start then
    match ((guarded s c).run.run c.state).run w with
    | ((.ok (layout, image), state), w) =>
      ((.ok (Report.ofLayout layout image.artifactSize c.output),
        { c with state := state, image := some image }), w)
    | ((.error failure, state), w) => ((.error failure, { c with state := state }), w)
  else
    ((.error (.slip (.spentComposer c.state.label)), c), w)

end Composer

/-- Obtain an artifact, compose its image and put it in place. -/
def compose (s : Setting) (provider : Provider) (g : Geometry) (output : Option Path)
    (hexOutput : Bool) : Action Report :=
  ExceptT.mk fun w =>
    match (Composer.new g provider output hexOutput).run s w with
    | ((result, _), w) => (result, w)

end NorFlash
