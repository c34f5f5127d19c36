import NorFlash.Geometry
import NorFlash.Text.Numeral

/-!
# Layout of a flash image

A `Region` is a run of offsets, and a `Layout` divides a device into a code region that starts at
offset zero and a metadata region, which `Layout.ofGeometry` puts into the last erase block.
`Layout.plan` answers the layout for an artifact of a given size, or a `PlanFault` where the
artifact does not end before the metadata.
-/

namespace NorFlash

/-! ## Regions -/

/-- The offsets from `offset` up to `offset + size`. -/
structure Region where
  /-- The first offset. -/
  offset : Int
  /-- The number of offsets. -/
  size : Int
  deriving DecidableEq, Repr

namespace Region

/-- The first offset after the region. -/
def stop (r : Region) : Int :=
  r.offset + r.size

/-- Whether an offset lies in the region. -/
def contains (r : Region) (offset : Int) : Bool :=
  decide (r.offset ≤ offset ∧ offset < r.stop)

/-- The region as messages show it, by its bounds. -/
def describe (r : Region) : String :=
  "Region(0x" ++ Numeral.hex r.offset ++ ":0x" ++ Numeral.hex r.stop ++ ")"

end Region

/-! ## Layouts -/

/-- The code and metadata regions of a device. -/
structure Layout where
  /-- The device that the regions were planned for. -/
  geometry : Geometry
  /-- Where the artifact goes. -/
  code : Region
  /-- Where the boot-trial log goes. -/
  metadata : Region

/-- Why an artifact has no place on a device. -/
inductive PlanFault where
  /-- A size below zero was given for the artifact. -/
  | negativeSize (size : Int)
  /-- The artifact does not end before the metadata. -/
  | overlap (size capacity : Int)
  deriving DecidableEq, Repr

namespace PlanFault

/-- The number of bytes by which an artifact is too long. -/
def deficit (size capacity : Int) : Int :=
  size - capacity

/-- The fault in words. -/
def message : PlanFault → String
  | negativeSize size => "artifact size " ++ Numeral.decimal size ++ " is negative"
  | overlap size capacity =>
    "artifact (" ++ Numeral.decimal size ++ " bytes) overlaps metadata block (starts at "
      ++ Numeral.decimal capacity ++ " / 0x" ++ Numeral.hex capacity
      ++ "): code region capacity is " ++ Numeral.decimal capacity ++ " bytes, "
      ++ Numeral.decimal (deficit size capacity) ++ " bytes over"

end PlanFault

namespace Layout

/-- The layout of a device: all blocks but the last are code and the last one is metadata. -/
def ofGeometry (g : Geometry) : Layout where
  geometry := g
  code := ⟨0, g.metadataOffset⟩
  metadata := ⟨g.metadataOffset, g.blockSize⟩

/-- The offset at which the metadata starts. -/
def metadataOffset (l : Layout) : Int :=
  l.metadata.offset

/-- The bytes that the code region holds. -/
def codeCapacity (l : Layout) : Int :=
  l.code.size

/-- The number of the erase block in which the metadata starts. -/
def metadataBlockIndex (l : Layout) : Int :=
  Int.fdiv l.metadata.offset l.geometry.blockSize

/-- The bytes left between an artifact and the metadata. -/
def margin (l : Layout) (artifactSize : Int) : Int :=
  l.metadata.offset - artifactSize

/-- The layout for an artifact of `size` bytes. -/
def plan (g : Geometry) (size : Int) : Except PlanFault Layout :=
  if size < 0 then .error (.negativeSize size)
  else
    let layout := ofGeometry g
    if layout.metadataOffset < size then .error (.overlap size layout.metadataOffset)
    else .ok layout

/-- What is noted once a layout is planned for `size` bytes. -/
def planNote (l : Layout) (size : Int) : String :=
  "planned " ++ l.code.describe ++ " for " ++ Numeral.decimal size ++ " bytes, metadata "
    ++ l.metadata.describe

end Layout

end NorFlash
