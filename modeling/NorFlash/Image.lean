import NorFlash.Bytes
import NorFlash.Layout

/-!
# Flash images

An `Image` is the content of a whole device together with the layout it was made for:

* `Image.erase` sets a range of a buffer to the erased state;
* `Image.compose` programs an artifact into an erased device and erases the metadata again;
* `Image.ofBytes` reads the content of a device and recovers the size of the artifact, which is
  known up to erased bytes at its end.
-/

namespace NorFlash

/-- Why an image cannot be made. -/
inductive ImageFault where
  /-- The layout and the device have different sizes. -/
  | foreignLayout (planned given : Geometry)
  /-- The artifact is longer than the code region. -/
  | overlap (size capacity : Int)
  /-- The device is larger than any index. -/
  | beyondIndex
  /-- The device is larger than any memory. -/
  | beyondMemory
  /-- A range to erase does not lie in the buffer. -/
  | eraseRange (start stop : Int)
  /-- The content has not the size of the device. -/
  | wrongSize (actual expected : Nat)

namespace ImageFault

/-- What is wrong with a layout for another device, in words. -/
def foreignSummary : String :=
  "layout was planned for a different flash geometry"

/-- The sizes of both devices, by name. -/
def foreignValues (planned given : Geometry) : List (String × Int) :=
  [("layout_total_size", planned.totalSize), ("layout_erase_block_size", planned.blockSize),
    ("total_size", given.totalSize), ("erase_block_size", given.blockSize)]

end ImageFault

/-- The content of a device. -/
structure Image where
  /-- The regions of the device. -/
  layout : Layout
  /-- The bytes of the artifact at the start of the device. -/
  artifactSize : Int
  /-- All bytes of the device. -/
  data : ByteArray

namespace Image

/-! ## Views -/

/-- The bytes of the artifact. -/
def code (i : Image) : ByteArray :=
  Bytes.slice i.data 0 i.artifactSize

/-- The bytes between the artifact and the metadata. -/
def gap (i : Image) : ByteArray :=
  Bytes.slice i.data i.artifactSize i.layout.metadataOffset

/-- The bytes of the metadata region. -/
def metadata (i : Image) : ByteArray :=
  Bytes.slice i.data i.layout.metadata.offset i.layout.metadata.stop

/-! ## Erasing and composing -/

/-- Whether bytes read as erased flash. -/
def isErased (data : ByteArray) : Bool :=
  Bytes.all data erasedByte

/-- `buffer` with the bytes from `start` up to `stop` erased; the range must lie in the buffer. -/
def erase (buffer : ByteArray) (start stop : Int) : Except ImageFault ByteArray :=
  if 0 ≤ start ∧ start ≤ stop ∧ stop ≤ buffer.size then
    .ok (Bytes.splice buffer start stop (Bytes.filled (stop - start).toNat erasedByte))
  else
    .error (.eraseRange start stop)

/-- The first size that is larger than any index. -/
def indexBound : Nat := 0x8000000000000000

/-- The first size that is taken to be larger than any memory. -/
def memoryBound : Nat := 0x10000000000

/-- The content of an erased device after the artifact was copied to the start of the code region
of `layout`. -/
def programmed (layout : Layout) (g : Geometry) (artifact : ByteArray) : ByteArray :=
  Bytes.splice (Bytes.filled g.totalSize erasedByte) layout.code.offset
    (layout.code.offset + artifact.size) artifact

/-- The image of an erased device that holds `artifact` in the code region of `layout`. The
metadata region is erased whatever was programmed over it. -/
def compose (layout : Layout) (g : Geometry) (artifact : ByteArray) : Except ImageFault Image :=
  if layout.geometry.totalSize ≠ g.totalSize ∨ layout.geometry.blockSize ≠ g.blockSize then
    .error (.foreignLayout layout.geometry g)
  else if layout.codeCapacity < artifact.size then
    .error (.overlap artifact.size layout.metadataOffset)
  else if indexBound ≤ g.totalSize then .error .beyondIndex
  else if memoryBound ≤ g.totalSize then .error .beyondMemory
  else
    (erase (programmed layout g artifact) layout.metadata.offset layout.metadata.stop).map
      fun data => ⟨layout, artifact.size, data⟩

/-- What is noted while an artifact of `size` bytes is composed by `layout`. -/
def composeNotes (layout : Layout) (size : Int) : List String :=
  ["programmed " ++ Numeral.decimal size ++ " bytes at " ++ Numeral.address layout.code.offset,
    "erased metadata block " ++ Numeral.decimal layout.metadataBlockIndex ++ " at "
      ++ Numeral.address layout.metadata.offset]

/-! ## Reading -/

/-- The image that a device with the content `data` holds. -/
def ofBytes (data : ByteArray) (g : Geometry) : Except ImageFault Image :=
  if data.size ≠ g.totalSize then
    .error (.wrongSize data.size g.totalSize)
  else
    let layout := Layout.ofGeometry g
    .ok ⟨layout, Bytes.trimBelow data erasedByte g.metadataOffset, data⟩

end Image

end NorFlash
