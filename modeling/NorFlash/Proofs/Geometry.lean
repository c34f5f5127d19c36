import NorFlash.Layout

/-!
# Devices of whole blocks

Which sizes are those of a device, and how its layout divides it. Two sizes describe a device
exactly if the block is not empty and the device is two or more of them; the layout then cuts it
into code and the last block, and the address plays no part in that (`ofSizes_whole_blocks`).
-/

namespace NorFlash

namespace Geometry

variable {g : Geometry} {total block k : Int} {base : Option Int}

/-! ## Sizes of a device -/

theorem totalSize_eq (g : Geometry) : (g.totalSize : Int) = g.blockCount * g.blockSize :=
  Int.natCast_mul ..

/-- All blocks but the last lie before the metadata. -/
theorem metadataOffset_eq (g : Geometry) :
    (g.metadataOffset : Int) = (g.blockCount - 1) * g.blockSize := by
  have hoff := g.metadataOffset_add_blockSize
  have htotal := g.totalSize_eq
  rw [Int.sub_mul, Int.one_mul]
  omega

theorem blockSize_le_metadataOffset (g : Geometry) : g.blockSize ≤ g.metadataOffset := by
  have hcount : 1 ≤ (g.blockCount : Int) - 1 := by
    have := g.two_le_blockCount
    omega
  have hle := Int.mul_le_mul_of_nonneg_right hcount (Int.natCast_nonneg g.blockSize)
  rw [Int.one_mul, ← g.metadataOffset_eq] at hle
  omega

/-- Two or more whole blocks pass every test. -/
theorem exists_ofSizes_of_blocks (base : Option Int) (hblock : 1 ≤ block) (hk : 2 ≤ k)
    (htotal : total = k * block) : ∃ g, ofSizes total block base = .ok g := by
  have hlarge : 2 * block ≤ total := by
    rw [htotal]
    exact Int.mul_le_mul_of_nonneg_right hk (by omega)
  have hwhole : total % block = 0 := by
    rw [htotal]
    exact Int.mul_emod_left k block
  rw [ofSizes, dif_neg (by omega), dif_neg (by omega), dif_neg (by omega), dif_neg (by omega)]
  exact ⟨_, rfl⟩

/-- A device is as many blocks as it counts, whatever it was made of. -/
theorem blocks_of_ofSizes (h : ofSizes total block base = .ok g) :
    1 ≤ block ∧ 2 ≤ (g.blockCount : Int) ∧ total = g.blockCount * block := by
  obtain ⟨htotal, hblock, -⟩ := of_ofSizes h
  have hpos := g.blockSize_pos
  have hcount := g.two_le_blockCount
  refine ⟨by omega, by omega, ?_⟩
  rw [← htotal, ← hblock, totalSize_eq]

/-- The number of blocks is the one by which the size is a multiple of the block. -/
theorem blockCount_of_ofSizes (h : ofSizes total block base = .ok g) (htotal : total = k * block) :
    (g.blockCount : Int) = k := by
  obtain ⟨hblock, -, hown⟩ := blocks_of_ofSizes h
  exact Int.eq_of_mul_eq_mul_right (by omega) (hown.symm.trans htotal)

/-- The address is taken over and has no other part in the device. -/
theorem ofSizes_base (total block : Int) (base other : Option Int) :
    ofSizes total block other =
      (ofSizes total block base).map fun g => { g with baseAddress := other } := by
  rw [ofSizes, ofSizes]
  split
  · rfl
  split
  · rfl
  split
  · rfl
  split
  · rfl
  · rfl

end Geometry

/-! ## Regions of a device -/

theorem Region.contains_iff {r : Region} {offset : Int} :
    r.contains offset = true ↔ r.offset ≤ offset ∧ offset < r.offset + r.size := by
  rw [contains, decide_eq_true_iff, stop]

/-- A layout cuts a device of `count` blocks into code and the last block. -/
structure Layout.Divides (l : Layout) (total block count : Int) : Prop where
  /-- An offset lies on the device exactly if it lies in one of the regions and not in the other. -/
  covers : ∀ offset,
    (0 ≤ offset ∧ offset < total) ↔ l.code.contains offset ≠ l.metadata.contains offset
  /-- No offset lies in both. -/
  disjoint : ∀ offset, ¬ (l.code.contains offset = true ∧ l.metadata.contains offset = true)
  /-- The metadata is the last block. -/
  metadata : l.metadata = ⟨total - block, block⟩
  /-- It ends where the device ends. -/
  stop : l.metadata.stop = total
  /-- It starts where a block starts. -/
  aligned : block ∣ l.metadata.offset
  /-- It starts in the block with the last number. -/
  index : l.metadataBlockIndex = count - 1
  /-- It starts where that block starts. -/
  offset : l.metadataBlockIndex * block = l.metadataOffset
  /-- The code has room for a block. -/
  capacity : block ≤ l.codeCapacity

/-- The layout of a device divides it. -/
theorem Layout.divides_ofGeometry (g : Geometry) :
    (ofGeometry g).Divides g.totalSize g.blockSize g.blockCount := by
  have hoff := g.metadataOffset_add_blockSize
  have hpos := g.blockSize_pos
  have hroom := g.blockSize_le_metadataOffset
  have hcode : ∀ offset, (ofGeometry g).code.contains offset = true ↔
      0 ≤ offset ∧ offset < g.metadataOffset := by
    intro offset
    rw [Region.contains_iff, ofGeometry, Int.zero_add]
  have hmetadata : ∀ offset, (ofGeometry g).metadata.contains offset = true ↔
      g.metadataOffset ≤ offset ∧ offset < (g.totalSize : Int) := by
    intro offset
    rw [Region.contains_iff, ofGeometry, ← hoff, Int.natCast_add]
  have hindex : (ofGeometry g).metadataBlockIndex = (g.blockCount : Int) - 1 := by
    rw [metadataBlockIndex, ofGeometry, g.metadataOffset_eq,
      Int.fdiv_eq_ediv_of_nonneg _ (Int.natCast_nonneg _), Int.mul_ediv_cancel _ (by omega)]
  constructor
  case covers =>
    intro offset
    rw [ne_eq, Bool.eq_iff_iff, hcode, hmetadata]
    omega
  case disjoint =>
    intro offset
    rw [hcode, hmetadata]
    omega
  case metadata =>
    rw [ofGeometry, ← hoff, Int.natCast_add, Int.add_sub_cancel]
  case stop =>
    rw [Region.stop, ofGeometry, ← hoff, Int.natCast_add]
  case aligned =>
    rw [ofGeometry, g.metadataOffset_eq]
    exact Int.dvd_mul_left ..
  case index => exact hindex
  case offset =>
    rw [hindex, ← g.metadataOffset_eq]
    rfl
  case capacity => exact Int.ofNat_le.2 hroom

/-! ## Both together -/

/-- **Devices of whole blocks.** Two sizes are those of a device exactly if the block is not empty
and the device is a number `k` of blocks, two or more; the device then counts `k` blocks, and its
layout divides it. The address has no influence: with another one the same sizes give the same
fault, or the same device but for the address. -/
theorem Geometry.ofSizes_whole_blocks (total block : Int) (base : Option Int) :
    ((∃ g, ofSizes total block base = .ok g) ↔ 1 ≤ block ∧ ∃ k, 2 ≤ k ∧ total = k * block) ∧
    (∀ k, (1 ≤ block ∧ 2 ≤ k ∧ total = k * block) ↔
      ∃ g, ofSizes total block base = .ok g ∧ (g.blockCount : Int) = k ∧
        (Layout.ofGeometry g).Divides total block k) ∧
    ∀ other, ofSizes total block other =
      (ofSizes total block base).map fun g => { g with baseAddress := other } := by
  refine ⟨⟨?_, ?_⟩, fun k => ⟨?_, ?_⟩, ofSizes_base total block base⟩
  · rintro ⟨g, hg⟩
    obtain ⟨hblock, hcount, htotal⟩ := blocks_of_ofSizes hg
    exact ⟨hblock, _, hcount, htotal⟩
  · rintro ⟨hblock, k, hk, htotal⟩
    exact exists_ofSizes_of_blocks base hblock hk htotal
  · rintro ⟨hblock, hk, htotal⟩
    obtain ⟨g, hg⟩ := exists_ofSizes_of_blocks base hblock hk htotal
    have hcount := blockCount_of_ofSizes hg htotal
    obtain ⟨hown, hownBlock, -⟩ := of_ofSizes hg
    have hdivides := Layout.divides_ofGeometry g
    rw [hown, hownBlock, hcount] at hdivides
    exact ⟨g, hg, hcount, hdivides⟩
  · rintro ⟨g, hg, rfl, -⟩
    exact blocks_of_ofSizes hg

end NorFlash
