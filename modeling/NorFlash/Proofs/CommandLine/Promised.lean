import NorFlash.CommandLine.Program
import NorFlash.Proofs.ImageFile
import NorFlash.Proofs.Persist.Outcome

/-!
# Promised exit codes

`Arguments.promised` decides from the files alone with which exit code a command line without a
configuration is to end: the first thing that is wrong decides, in an order that each command has
for itself. `Arguments.Hindered` lists what a command meets that the promise does not speak of, each
with the way the run ends then: an option without a value, a path that the system refuses to look
at, a file of records without data, a number that is too long to be written, a device that is larger
than any memory, and an output that takes the place of a link on its own path.
-/

namespace NorFlash.CommandLine

/-! ## What a command finds -/

/-- The device that options describe without a configuration. -/
def DeviceOptions.geometry? (device : DeviceOptions) : Option Geometry :=
  (geometryOf device none).toOption

/-- Whether the artifact is to be built, which takes a configuration. -/
def MakeOptions.asksForBuild (options : MakeOptions) : Bool :=
  options.build && options.artifact = .missing

/-- The file that the artifact is read from. -/
def MakeOptions.source? (options : MakeOptions) : Option Path :=
  match options.artifact with
  | .missing => some defaultArtifact
  | .given path => some path
  | .empty => none

/-- The artifact in the file that a path leads to, if it can be read as what its suffix says. -/
def artifactAt? (s : Setting) (t : FileTree) (path : Path) : Option ByteArray :=
  match t.read s.directory path.render with
  | .ok content => (Provider.decode path content).toOption
  | .error _ => none

/-- The artifact that options name. -/
def MakeOptions.artifact? (s : Setting) (t : FileTree) (options : MakeOptions) :
    Option ByteArray :=
  options.source?.bind (artifactAt? s t)

/-- The content of a device in the content of a file: flat content has the size of the device, and
records give no address beyond it. -/
def deviceContent? (path : Path) (g : Geometry) (content : ByteArray) : Option ByteArray :=
  if path.isHex then
    match IntelHex.Memory.ofFile content with
    | .ok memory =>
      if memory.maxKey?.all (· < g.totalSize) then some (memory.flatten 0 g.totalSize) else none
    | .error _ => none
  else if content.size = g.totalSize then some content
  else none

/-- The content of a device in the file that a path leads to. -/
def deviceContentAt? (s : Setting) (t : FileTree) (path : Path) (g : Geometry) :
    Option ByteArray :=
  match t.read s.directory path.render with
  | .ok content => deviceContent? path g content
  | .error _ => none

/-- Whether the content of a file is records without data. -/
def holdsNoData (path : Path) (content : ByteArray) : Bool :=
  path.isHex &&
    match IntelHex.Memory.ofFile content with
    | .ok memory => memory.isEmpty
    | .error _ => false

/-- Whether a path leads to a file of records without data. -/
def leadsToNoData (s : Setting) (t : FileTree) (path : Path) : Bool :=
  match t.read s.directory path.render with
  | .ok content => holdsNoData path content
  | .error _ => false

/-! ## What is promised -/

/-- The exit code that is promised to a command that makes an image. -/
def promisedToMake (s : Setting) (t : FileTree) (device : DeviceOptions) (options : MakeOptions) :
    ExitCode :=
  match device.geometry? with
  | none => .dataError
  | some g =>
    if options.asksForBuild then .dataError
    else
      match options.artifact? s t with
      | none => .noInput
      | some artifact =>
        if g.metadataOffset < artifact.size then .dataError
        else if placeable s t (outputOf options none) then .success
        else .systemError

/-- The exit code that is promised to a command that shows a layout. -/
def promisedToPlan (device : DeviceOptions) (artifactSize : Option Int) : ExitCode :=
  match device.geometry?, artifactSize with
  | some g, some size =>
    if 0 ≤ size ∧ size ≤ g.metadataOffset then .success else .dataError
  | _, _ => .dataError

/-- The exit code that is promised to a command that looks at an image and accepts the content of
some devices. -/
def promisedToLook (s : Setting) (t : FileTree) (device : DeviceOptions) (image : Path)
    (accepts : Geometry → ByteArray → Bool) : ExitCode :=
  match t.status s.directory image.render with
  | .error _ => .noInput
  | .ok _ =>
    match device.geometry? with
    | none => .dataError
    | some g =>
      match deviceContentAt? s t image g with
      | none => .dataError
      | some content => if accepts g content then .success else .dataError

/-- The exit code that is promised to a command. -/
def Command.promised (s : Setting) (t : FileTree) (device : DeviceOptions) : Command → ExitCode
  | makeImage options => promisedToMake s t device options
  | showLayout artifactSize _ => promisedToPlan device artifactSize
  | checkImage image => promisedToLook s t device image Image.verdict
  | showTrials image _ _ => promisedToLook s t device image fun _ _ => true

/-- The exit code that is promised to a command line. -/
def Arguments.promised (s : Setting) (t : FileTree) (args : Arguments) : ExitCode :=
  match args.command with
  | some (command, device) => command.promised s t device
  | none => .usage

/-! ## What stands in the way -/

/-- A report that has no lines or no object, and the failure to show it. -/
inductive Unshowable (device : DeviceOptions) : Bool → Failure → Prop where
  /-- Lines show an address, and there is none. -/
  | noAddress (haddress : device.baseAddress = .empty) :
    Unshowable device false (.slip .nullValue)
  /-- An object shows the decimal form of the address, which is too long. -/
  | longAddress {address : Int} (haddress : device.baseAddress = .given address)
    (hlong : Numeral.isWritable address = false) : Unshowable device true .longNumber

/-- A command has a device, and an artifact that fits on it. -/
structure Fits (s : Setting) (t : FileTree) (device : DeviceOptions) (options : MakeOptions)
    (g : Geometry) (artifact : ByteArray) : Prop where
  /-- The options describe the device. -/
  geometry : geometryOf device none = .ok g
  /-- Nothing is to be built. -/
  unbuilt : options.asksForBuild = false
  /-- The artifact is there. -/
  found : options.artifact? s t = some artifact
  /-- It ends before the metadata. -/
  size_le : artifact.size ≤ g.metadataOffset

/-- What keeps a command that makes an image from ending as promised, and how it ends then; `after`
holds the files that the run leaves. -/
inductive MakeHindered (s : Setting) (t after : FileTree) (device : DeviceOptions)
    (options : MakeOptions) : Except Failure ExitCode → Prop where
  /-- A size is asked for by an option without a value. -/
  | noSize (hslip : geometryOf device none = .error (.slip .nullValue)) :
    MakeHindered s t after device options (.error (.slip .nullValue))
  /-- The artifact is asked for by an option without a value. -/
  | noArtifact {g : Geometry} (hgeometry : geometryOf device none = .ok g)
    (hempty : options.artifact = .empty) :
    MakeHindered s t after device options (.error (.slip .nullValue))
  /-- The system refuses to look for the artifact. -/
  | artifactRefused {g : Geometry} {path : Path} {errno : Errno}
    (hgeometry : geometryOf device none = .ok g) (hbuild : options.asksForBuild = false)
    (hsource : options.source? = some path)
    (hstatus : t.status s.directory path.render = .error errno)
    (hrefused : errno.meansAbsent = false) :
    MakeHindered s t after device options (.ok .systemError)
  /-- The size of the artifact is too long to be noted. -/
  | longArtifact {g : Geometry} {artifact : ByteArray}
    (hfits : Fits s t device options g artifact)
    (hlong : Numeral.isWritable artifact.size = false) :
    MakeHindered s t after device options (.ok .dataError)
  /-- The device is larger than any memory. -/
  | largeDevice {g : Geometry} {artifact : ByteArray}
    (hfits : Fits s t device options g artifact)
    (hshort : Numeral.isWritable artifact.size = true)
    (hlarge : Image.memoryBound ≤ g.totalSize) :
    MakeHindered s t after device options
      (.error (.slip (if Image.indexBound ≤ g.totalSize then .wideAddress else .noMemory)))
  /-- The image is in place, but the parent of the output leads nowhere now. -/
  | parentLost {g : Geometry} {artifact : ByteArray} {errno : Errno}
    (hfits : Fits s t device options g artifact) (hsmall : g.totalSize < Image.memoryBound)
    (hplaceable : placeable s t (outputOf options none) = true)
    (hparent : after.status s.directory (outputOf options none).parent.render = .error errno) :
    MakeHindered s t after device options (.ok .systemError)
  /-- The image is in place, but the report on it cannot be shown. -/
  | unshown {g : Geometry} {artifact : ByteArray} {node : Node} {failure : Failure}
    (hfits : Fits s t device options g artifact) (hsmall : g.totalSize < Image.memoryBound)
    (hplaceable : placeable s t (outputOf options none) = true)
    (hparent : after.status s.directory (outputOf options none).parent.render = .ok node)
    (hunshowable : Unshowable device options.json failure) :
    MakeHindered s t after device options (.error failure)

/-- What keeps a command that shows a layout from ending as promised, and how it ends then. -/
inductive PlanHindered (device : DeviceOptions) (artifactSize : Option Int) (json : Bool) :
    Except Failure ExitCode → Prop where
  /-- A size is asked for by an option without a value. -/
  | noSize (hslip : geometryOf device none = .error (.slip .nullValue)) :
    PlanHindered device artifactSize json (.error (.slip .nullValue))
  /-- So is that of the artifact. -/
  | noArtifactSize {g : Geometry} (hgeometry : geometryOf device none = .ok g)
    (hempty : artifactSize = none) :
    PlanHindered device artifactSize json (.error (.slip .nullValue))
  /-- The size of the artifact is too long to be noted. -/
  | longSize {g : Geometry} {size : Int} (hgeometry : geometryOf device none = .ok g)
    (hsize : artifactSize = some size) (hfits : 0 ≤ size ∧ size ≤ g.metadataOffset)
    (hlong : Numeral.isWritable size = false) :
    PlanHindered device artifactSize json (.ok .dataError)
  /-- The size of the device is too long to be shown. -/
  | longDevice {g : Geometry} {size : Int} (hgeometry : geometryOf device none = .ok g)
    (hsize : artifactSize = some size) (hfits : 0 ≤ size ∧ size ≤ g.metadataOffset)
    (hshort : Numeral.isWritable size = true) (hlong : Numeral.isWritable g.totalSize = false) :
    PlanHindered device artifactSize json (.error .longNumber)
  /-- The address cannot be shown. -/
  | unshown {g : Geometry} {size : Int} {failure : Failure}
    (hgeometry : geometryOf device none = .ok g) (hsize : artifactSize = some size)
    (hfits : 0 ≤ size ∧ size ≤ g.metadataOffset)
    (hshort : Numeral.isWritable g.totalSize = true)
    (hunshowable : Unshowable device json failure) :
    PlanHindered device artifactSize json (.error failure)

/-- What keeps a command that looks at an image from ending as promised, and how it ends then. -/
inductive LookHindered (s : Setting) (t : FileTree) (device : DeviceOptions) (image : Path) :
    Except Failure ExitCode → Prop where
  /-- The system refuses to look for the image. -/
  | imageRefused {errno : Errno} (hstatus : t.status s.directory image.render = .error errno)
    (hrefused : errno.meansAbsent = false) :
    LookHindered s t device image (.error (.file (.file (.of errno image.render))))
  /-- A size is asked for by an option without a value. -/
  | noSize {node : Node} (hstatus : t.status s.directory image.render = .ok node)
    (hslip : geometryOf device none = .error (.slip .nullValue)) :
    LookHindered s t device image (.error (.slip .nullValue))
  /-- The image is a file of records without data. -/
  | noData {g : Geometry} (hgeometry : geometryOf device none = .ok g)
    (hblank : leadsToNoData s t image = true) : LookHindered s t device image (.ok .dataError)
  /-- The image is a file of records on a device that is larger than any memory. -/
  | largeDevice {g : Geometry} (hgeometry : geometryOf device none = .ok g)
    (hlacks : Image.LacksMemory s t image g) :
    LookHindered s t device image (.error (.slip .noMemory))

/-- What keeps a command that shows the boot trials of an image from ending as promised besides. -/
inductive TrialsHindered (s : Setting) (t : FileTree) (device : DeviceOptions) (image : Path)
    (maxTrials : Option Int) : Except Failure ExitCode → Prop where
  /-- It is something that any look at an image meets. -/
  | look {r : Except Failure ExitCode} (hlook : LookHindered s t device image r) :
    TrialsHindered s t device image maxTrials r
  /-- The number of trials is asked for by an option without a value. -/
  | noTrials {g : Geometry} {content : ByteArray} (hgeometry : geometryOf device none = .ok g)
    (hcontent : deviceContentAt? s t image g = some content)
    (hdata : leadsToNoData s t image = false) (hroom : ¬ Image.LacksMemory s t image g)
    (hempty : maxTrials = none) :
    TrialsHindered s t device image maxTrials (.error (.slip .nullValue))
  /-- The number of words in the metadata block is too long to be shown. -/
  | longCapacity {g : Geometry} {content : ByteArray} {trials : Int}
    (hgeometry : geometryOf device none = .ok g)
    (hcontent : deviceContentAt? s t image g = some content)
    (hdata : leadsToNoData s t image = false) (hroom : ¬ Image.LacksMemory s t image g)
    (htrials : maxTrials = some trials)
    (hlong : Numeral.isWritable (g.blockSize / TrialLog.wordSize : Nat) = false) :
    TrialsHindered s t device image maxTrials (.error .longNumber)

/-- What keeps a command from ending as promised, and how it ends then. -/
def Command.Hindered (s : Setting) (t after : FileTree) (device : DeviceOptions) :
    Command → Except Failure ExitCode → Prop
  | makeImage options => MakeHindered s t after device options
  | showLayout artifactSize json => PlanHindered device artifactSize json
  | checkImage image => LookHindered s t device image
  | showTrials image maxTrials _ => TrialsHindered s t device image maxTrials

/-- What keeps a command line from ending as promised, and how it ends then. -/
def Arguments.Hindered (s : Setting) (t after : FileTree) (args : Arguments)
    (r : Except Failure ExitCode) : Prop :=
  ∃ command device, args.command = some (command, device) ∧ command.Hindered s t after device r

/-! ## Keeping a promise -/

/-- A command ends as promised unless something stands in the way, and as that tells otherwise. -/
def Settles (promise : ExitCode) (hindered : Except Failure ExitCode → Prop)
    (result : Except Failure ExitCode) : Prop :=
  (result = .ok promise ↔ ∀ r, ¬ hindered r) ∧ ∀ r, hindered r → result = r

/-- It is enough that a hindrance breaks the promise, and that nothing else does. -/
theorem settles_of_cases {promise : ExitCode} {hindered : Except Failure ExitCode → Prop}
    {result : Except Failure ExitCode} (hends : ∀ r, hindered r → result = r)
    (hbreaks : ∀ r, hindered r → r ≠ .ok promise)
    (hcases : result = .ok promise ∨ ∃ r, hindered r) : Settles promise hindered result := by
  refine ⟨⟨fun hkept r hr => ?_, fun hfree => ?_⟩, hends⟩
  · exact hbreaks r hr ((hends r hr).symm.trans hkept)
  · rcases hcases with hkept | ⟨r, hr⟩
    · exact hkept
    · exact absurd hr (hfree r)

end NorFlash.CommandLine
