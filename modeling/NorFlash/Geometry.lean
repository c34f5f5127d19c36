/-!
# Flash geometry

A NOR flash device is a row of equal erase blocks. A `Geometry` holds the size and the number of
the blocks and the address at which the device is mapped, which only messages use. It is built by
`Geometry.ofSizes`, which takes sizes in bytes and answers a `GeometryFault` where they do not
describe at least two whole blocks.
-/

namespace NorFlash

/-- The byte that erased flash reads as. -/
def erasedByte : UInt8 := 0xFF

/-- A device of whole erase blocks, with room for code before the last of them. -/
structure Geometry where
  /-- The bytes of one erase block. -/
  blockSize : Nat
  /-- The number of erase blocks. -/
  blockCount : Nat
  /-- The address the device is mapped at, if one is given. -/
  baseAddress : Option Int
  /-- A block is not empty. -/
  blockSize_pos : 0 < blockSize
  /-- Code and metadata need a block each. -/
  two_le_blockCount : 2 ≤ blockCount

/-- Why two sizes are not those of a device. -/
inductive GeometryFault where
  /-- The erase block is empty or negative. -/
  | blockNotPositive (block : Int)
  /-- The device is empty or negative. -/
  | totalNotPositive (total : Int)
  /-- The device ends within a block. -/
  | notWholeBlocks (total block : Int)
  /-- The device is one block, all of it metadata. -/
  | singleBlock (total block : Int)
  deriving DecidableEq, Repr

namespace GeometryFault

/-- What is wrong, in words. -/
def summary : GeometryFault → String
  | blockNotPositive _ => "erase block size must be positive"
  | totalNotPositive _ => "flash size must be positive"
  | notWholeBlocks _ _ => "flash size is not a multiple of the erase block size"
  | singleBlock _ _ => "flash holds a single erase block, leaving no code region"

/-- The sizes at fault, by name. -/
def values : GeometryFault → List (String × Int)
  | blockNotPositive block => [("erase_block_size", block)]
  | totalNotPositive total => [("total_size", total)]
  | notWholeBlocks total block => [("total_size", total), ("erase_block_size", block)]
  | singleBlock total block => [("total_size", total), ("erase_block_size", block)]

end GeometryFault

namespace Geometry

/-- The address that a device is mapped at unless another is given. -/
def defaultBase : Int := 0x20000000

/-- The device size that is assumed unless another is given, in bytes. -/
def defaultTotal : Int := 33554432

/-- The erase block size that is assumed unless another is given, in bytes. -/
def defaultBlock : Int := 131072

/-- The device of `total` bytes in blocks of `block` bytes. Each test rests on those before it. -/
def ofSizes (total block : Int) (base : Option Int) : Except GeometryFault Geometry :=
  if hb : block ≤ 0 then .error (.blockNotPositive block)
  else if ht : total ≤ 0 then .error (.totalNotPositive total)
  else if hm : total % block ≠ 0 then .error (.notWholeBlocks total block)
  else if hs : total = block then .error (.singleBlock total block)
  else .ok {
    blockSize := block.toNat
    blockCount := (total / block).toNat
    baseAddress := base
    blockSize_pos := by omega
    two_le_blockCount := by
      have hdiv : block * (total / block) = total := by
        have := Int.mul_ediv_add_emod total block
        simp only [ne_eq, Decidable.not_not] at hm
        omega
      have hpos : 0 < total / block := by
        rcases Int.lt_or_le 0 (total / block) with h | h
        · exact h
        · have := Int.mul_nonpos_of_nonneg_of_nonpos (a := block) (by omega) h
          omega
      have hne : total / block ≠ 1 := by
        intro h
        rw [h] at hdiv
        omega
      omega }

/-- The bytes of the whole device. -/
def totalSize (g : Geometry) : Nat :=
  g.blockCount * g.blockSize

/-- The offset of the metadata block, which is the last one. -/
def metadataOffset (g : Geometry) : Nat :=
  g.totalSize - g.blockSize

theorem blockSize_le_totalSize (g : Geometry) : g.blockSize ≤ g.totalSize :=
  Nat.le_mul_of_pos_left _ (Nat.lt_of_lt_of_le (by decide) g.two_le_blockCount)

theorem metadataOffset_add_blockSize (g : Geometry) :
    g.metadataOffset + g.blockSize = g.totalSize :=
  Nat.sub_add_cancel g.blockSize_le_totalSize

/-- The sizes of a device are the ones it was made of. -/
theorem of_ofSizes {total block : Int} {base : Option Int} {g : Geometry}
    (h : ofSizes total block base = .ok g) :
    (g.totalSize : Int) = total ∧ (g.blockSize : Int) = block ∧ g.baseAddress = base := by
  rw [ofSizes] at h
  split at h
  · cases h
  split at h
  · cases h
  split at h
  · cases h
  split at h
  · cases h
  next hblock htotal hwhole _ =>
  obtain rfl := Except.ok.inj h
  have hdiv : block * (total / block) = total :=
    Int.mul_ediv_cancel' (Int.dvd_of_emod_eq_zero (Decidable.not_not.1 hwhole))
  have hpos : 0 ≤ total / block := Int.ediv_nonneg (by omega) (by omega)
  refine ⟨?_, Int.toNat_of_nonneg (by omega), rfl⟩
  rw [totalSize, Int.natCast_mul, Int.toNat_of_nonneg hpos, Int.toNat_of_nonneg (by omega),
    Int.mul_comm, hdiv]

end Geometry

end NorFlash
