import NorFlash.Action
import NorFlash.TrialLog

/-!
# Image files

`Image.read` reads the image of a device from a file: Intel HEX records, which must lie on the
device, or the content of the device as it is. `Image.check` judges an image file: it has the size
of the device, and its metadata is erased or holds a boot-trial log and nothing else.
-/

namespace NorFlash

namespace Image

/-- The content of a device that a file of records describes. A file without data describes no
content at all, and a device that is larger than any memory has no room for its content. -/
def flattenRecords (path : Path) (g : Geometry) (memory : IntelHex.Memory) :
    Except Failure ByteArray :=
  match memory.minKey?, memory.maxKey? with
  | some low, some high =>
    if g.totalSize ≤ high then .error (.outsideFlash path low high g.totalSize)
    else if memoryBound ≤ g.totalSize then .error (.slip .noMemory)
    else .ok (memory.flatten 0 g.totalSize)
  | _, _ => .ok ByteArray.empty

/-- The content of a device in the content of a file. -/
def decode (path : Path) (g : Geometry) (content : ByteArray) : Except Failure ByteArray :=
  if path.isHex then
    match IntelHex.Memory.ofFile content with
    | .ok memory => flattenRecords path g memory
    | .error fault => .error (.file (.ofMemory fault))
  else
    .ok content

/-- The image of a device in a file. -/
def read (s : Setting) (path : Path) (g : Geometry) : Action Image := do
  let content ← Action.readFile s path
  let data ← Action.ofExcept id (decode path g content)
  Action.ofExcept Failure.ofImage (ofBytes data g)

/-- Fail unless the metadata of an image is erased or holds a log and nothing else. -/
def checkMetadata (i : Image) : Except Failure Unit :=
  if isErased i.metadata then .ok ()
  else
    let log := TrialLog.scan i.metadata
    match log.isConsistent? i.metadata with
    | none => .error (.slip .partialWord)
    | some true => .ok ()
    | some false => .error (.badMetadata i.layout.metadataOffset log.nextIndex)

/-- Read an image and fail unless it is fit for use. -/
def examine (s : Setting) (path : Path) (g : Geometry) : Action Unit := do
  let i ← read s path g
  Action.ofExcept id i.checkMetadata
  Action.info (path.render ++ ": " ++ Numeral.decimal i.artifactSize
    ++ " bytes programmed, metadata at 0x" ++ Numeral.hex i.layout.metadataOffset)

/-- Whether a file holds an image that is fit for use. The reason why it is not is noted. -/
def check (s : Setting) (path : Path) (g : Geometry) : Action Bool := do
  match ← Action.attempt (examine s path g) with
  | .ok () => return true
  | .error failure =>
    if failure.kind = .slip then throw failure
    Action.error ("Exception: " ++ failure.message)
    return false

end Image

end NorFlash
