import NorFlash.Fields
import NorFlash.Layout
import NorFlash.Path

/-!
# Composition reports

A `Report` says what was composed: the sizes, the place of the metadata, the address the device is
mapped at and the file written. It is shown as lines of text, as named fields, and as the command
that boots the image in an emulator.
-/

namespace NorFlash

/-- The facts about a composed image. -/
structure Report where
  /-- The bytes of the device. -/
  totalSize : Int
  /-- The bytes of an erase block. -/
  blockSize : Int
  /-- The bytes of the artifact. -/
  artifactSize : Int
  /-- The offset of the metadata. -/
  metadataOffset : Int
  /-- The address the device is mapped at. -/
  baseAddress : Option Int
  /-- The file written. -/
  output : Option Path
  deriving Repr

namespace Report

/-- The file that an image is written to unless another is given. -/
def defaultImage : String := "pflash0.img"

/-- The file that an image in Intel HEX is written to unless another is given. -/
def defaultHexImage : String := "pflash0.hex"

/-- The report on an artifact of `artifactSize` bytes placed by a layout. -/
def ofLayout (layout : Layout) (artifactSize : Int) (output : Option Path) : Report where
  totalSize := layout.geometry.totalSize
  blockSize := layout.geometry.blockSize
  artifactSize := artifactSize
  metadataOffset := layout.metadataOffset
  baseAddress := layout.geometry.baseAddress
  output := output

/-- The bytes left between the artifact and the metadata. -/
def margin (r : Report) : Int :=
  r.metadataOffset - r.artifactSize

/-- Why a report has no lines. -/
inductive Gap where
  /-- The device has no address. -/
  | noAddress
  /-- A number is too long to be written. -/
  | longNumber
  deriving DecidableEq, Repr

/-- A size in both bases. -/
def sizeText (size : Int) : String :=
  Numeral.decimal size ++ " bytes (0x" ++ Numeral.hex size ++ ")"

/-- The lines of the report on a device mapped at `base`. -/
def linesAt (r : Report) (base : Int) : List String :=
  ["  - size        : " ++ sizeText r.totalSize,
    "  - block size  : " ++ sizeText r.blockSize,
    "  - artifact    : " ++ Numeral.decimal r.artifactSize ++ " bytes at " ++ Numeral.address base,
    "  - meta offset : " ++ Numeral.decimal r.metadataOffset ++ " (0x"
      ++ Numeral.hex r.metadataOffset ++ "), mapped at "
      ++ Numeral.address (base + r.metadataOffset),
    "  - margin      : " ++ Numeral.decimal r.margin ++ " bytes"]

/-- The lines of the report, or the first reason why there are none. -/
def lines (r : Report) : Except Gap (List String) :=
  if ! [r.totalSize, r.blockSize, r.artifactSize].all Numeral.isWritable then .error .longNumber
  else
    match r.baseAddress with
    | none => .error .noAddress
    | some base =>
      if [r.metadataOffset, r.margin].all Numeral.isWritable then .ok (r.linesAt base)
      else .error .longNumber

/-- The name of the field for the address. -/
def addressField : String := "base_addr"

/-- The fields of the report, by name. -/
def fields (r : Report) : Fields :=
  [("total_size", .number r.totalSize),
    ("block_size", .number r.blockSize),
    ("artifact_size", .number r.artifactSize),
    ("metadata_offset", .number r.metadataOffset),
    ("metadata_offset_hex", .text ("0x" ++ Numeral.hex r.metadataOffset)),
    ("margin", .number r.margin),
    (addressField, match r.baseAddress with | some a => .number a | none => .null),
    ("output", match r.output with | some p => .text p.render | none => .null)]

/-- The file that the emulator is told to boot from. -/
def imageFile (r : Report) : String :=
  match r.output with
  | some p => p.render
  | none => defaultImage

/-- The command that boots the image in an emulator, one option group a line. -/
def emulatorCommand (r : Report) : String :=
  " \\\n".intercalate
    ["  qemu-system-riscv64",
      "    -M virt",
      "    -m 256M",
      "    -bios none",
      "    -drive if=pflash,format=raw,unit=0,file=" ++ r.imageFile ++ ",readonly=off",
      "    -display none -serial stdio -monitor none"]

end Report

end NorFlash
