import NorFlash.Proofs.Composer
import NorFlash.Proofs.Image

/-!
# What fits on a device

Planning and composing agree on the artifacts that have a place on a device (`plan_compose_agree`).
An artifact that ends before the metadata block is planned by the layout of the device, and its
image is that artifact and erased bytes (`Image.HoldsOnly`), unless the device is larger than any
memory. A longer artifact is refused by both, for the same reason and with the same numbers.
-/

namespace NorFlash

/-! ## Planning -/

theorem Layout.plan_of_lt {g : Geometry} {size : Nat} (h : g.metadataOffset < size) :
    plan g size = .error (.overlap size g.metadataOffset) := by
  have hover : (ofGeometry g).metadataOffset < (size : Int) := by
    simp only [metadataOffset, ofGeometry]
    omega
  rw [plan, if_neg (by omega)]
  dsimp only
  rw [if_pos hover]
  rfl

/-- An artifact is planned exactly if it ends before the metadata block. -/
theorem Layout.plan_eq_ok_iff {g : Geometry} {size : Nat} :
    plan g size = .ok (ofGeometry g) ↔ size ≤ g.metadataOffset := by
  constructor
  · intro h
    by_contra hover
    rw [plan_of_lt (Nat.lt_of_not_le hover)] at h
    simp at h
  · exact plan_of_le

namespace Image

/-! ## Composing -/

variable {g g' : Geometry} {artifact : ByteArray} {image : Image}

/-- The layout of a device composes as it does on the device on each device of the same sizes. -/
theorem compose_congr (htotal : g'.totalSize = g.totalSize) (hblock : g'.blockSize = g.blockSize)
    (artifact : ByteArray) :
    compose (Layout.ofGeometry g) g' artifact = compose (Layout.ofGeometry g) g artifact := by
  have hown : ¬ ((Layout.ofGeometry g).geometry.totalSize ≠ g.totalSize ∨
      (Layout.ofGeometry g).geometry.blockSize ≠ g.blockSize) := by
    simp [Layout.ofGeometry]
  have hother : ¬ ((Layout.ofGeometry g).geometry.totalSize ≠ g'.totalSize ∨
      (Layout.ofGeometry g).geometry.blockSize ≠ g'.blockSize) := by
    rwa [htotal, hblock]
  rw [compose, compose, if_neg hother, if_neg hown, programmed, programmed, htotal]

theorem compose_of_lt (h : g.metadataOffset < artifact.size) :
    compose (Layout.ofGeometry g) g artifact =
      .error (.overlap artifact.size g.metadataOffset) := by
  have hover : (Layout.ofGeometry g).codeCapacity < (artifact.size : Int) := by
    simp only [Layout.codeCapacity, Layout.ofGeometry]
    omega
  rw [compose, if_neg (by simp [Layout.ofGeometry]), if_pos hover]
  rfl

/-- No image is composed for a device that is larger than any memory. -/
theorem compose_of_memoryBound_le (hfits : artifact.size ≤ g.metadataOffset)
    (hmemory : memoryBound ≤ g.totalSize) :
    compose (Layout.ofGeometry g) g artifact =
      .error (if indexBound ≤ g.totalSize then .beyondIndex else .beyondMemory) := by
  have hcapacity : ¬ (Layout.ofGeometry g).codeCapacity < (artifact.size : Int) := by
    simp only [Layout.codeCapacity, Layout.ofGeometry]
    omega
  rw [compose, if_neg (by simp [Layout.ofGeometry]), if_neg hcapacity, if_pos hmemory]
  split
  · rfl
  · rfl

/-- An image holds an artifact at the start of its device, and all else is erased: the code is the
artifact, and the gap and the metadata block follow it. -/
structure HoldsOnly (image : Image) (g : Geometry) (artifact : ByteArray) : Prop where
  /-- The layout is that of the device. -/
  layout : image.layout = Layout.ofGeometry g
  /-- The content has the size of the device. -/
  size : image.data.size = g.totalSize
  /-- The content is the artifact and erased bytes. -/
  data : image.data.data.toList = composedBytes g artifact
  /-- The code is the artifact. -/
  code : image.code = artifact
  /-- The gap is erased. -/
  gap : isErased image.gap = true
  /-- The metadata is erased. -/
  metadata : isErased image.metadata = true
  /-- The metadata is one erase block. -/
  metadataSize : image.metadata.size = g.blockSize
  /-- The parts make up the content. -/
  parts : image.code ++ image.gap ++ image.metadata = image.data
  /-- The gap has the size that the layout leaves. -/
  margin : image.layout.margin artifact.size = image.gap.size
  /-- The gap has the size that reports give. -/
  reported : ∀ output,
    (Report.ofLayout image.layout image.artifactSize output).margin = image.gap.size

theorem isErased_of_toList {bytes : ByteArray} {n : Nat}
    (h : bytes.data.toList = List.replicate n erasedByte) : isErased bytes = true := by
  rw [isErased, Bytes.all_iff, h]
  intro b hb
  exact List.eq_of_mem_replicate hb

theorem holdsOnly_of_compose (h : compose (Layout.ofGeometry g) g artifact = .ok image) :
    image.HoldsOnly g artifact := by
  obtain ⟨hfits, hlayout, hsize, hdata⟩ := of_compose_eq_ok h
  have hoff := g.metadataOffset_add_blockSize
  have hcode := toList_code hsize hdata
  have hgap := toList_gap hlayout hsize hdata hfits
  have hmetadata := toList_metadata hlayout hdata hfits
  have hgapSize : image.gap.size = g.metadataOffset - artifact.size := by
    rw [← Bytes.length_toList, hgap, List.length_replicate]
  have hmargin : image.layout.margin artifact.size = image.gap.size := by
    rw [hlayout, hgapSize]
    simp only [Layout.margin, Layout.ofGeometry]
    omega
  refine ⟨hlayout, ?_, hdata, Bytes.eq_of_toList_eq hcode, isErased_of_toList hgap,
    isErased_of_toList hmetadata, ?_, ?_, hmargin, ?_⟩
  · rw [← Bytes.length_toList, hdata, length_composedBytes (by omega)]
  · rw [← Bytes.length_toList, hmetadata, List.length_replicate]
  · refine Bytes.eq_of_toList_eq ?_
    rw [ByteArray.data_append, ByteArray.data_append, Array.toList_append, Array.toList_append,
      hcode, hgap, hmetadata, hdata, composedBytes, List.append_assoc, ← List.replicate_add]
    congr 2
    omega
  · intro output
    rw [← hmargin, hsize]
    rfl

end Image

/-! ## Both together -/

/-- **Planning and composing agree.** An artifact that ends before the metadata block is planned by
the layout of the device, and the image composed by it, on each device of the same sizes, holds the
artifact only; a device without room in memory or for an index has no image. A longer artifact is
refused by both as overlapping, and the deficit is the least number of bytes without which it is
planned. -/
theorem plan_compose_agree {g g' : Geometry} (htotal : g'.totalSize = g.totalSize)
    (hblock : g'.blockSize = g.blockSize) (artifact : ByteArray) :
    let layout := Layout.ofGeometry g
    (artifact.size ≤ g.totalSize - g.blockSize →
      Layout.plan g artifact.size = .ok layout ∧
      if g.totalSize < Image.memoryBound then
        ∃ image, Image.compose layout g' artifact = .ok image ∧ image.HoldsOnly g artifact
      else
        Image.compose layout g' artifact =
          .error (if Image.indexBound ≤ g.totalSize then .beyondIndex else .beyondMemory)) ∧
    (g.totalSize - g.blockSize < artifact.size →
      ∃ capacity, Layout.plan g artifact.size = .error (.overlap artifact.size capacity) ∧
        Image.compose layout g' artifact = .error (.overlap artifact.size capacity) ∧
        Failure.ofImage (.overlap artifact.size capacity) =
          .plan (.overlap artifact.size capacity) ∧
        ∀ n ≤ artifact.size, Layout.plan g (artifact.size - n : Nat) = .ok layout ↔
          PlanFault.deficit artifact.size capacity ≤ n) := by
  intro layout
  have hcompose := Image.compose_congr htotal hblock artifact
  refine ⟨fun hfits => ⟨Layout.plan_of_le hfits, ?_⟩, fun hover => ?_⟩
  · rw [hcompose]
    split
    · next hmemory =>
      obtain ⟨image, himage⟩ := Image.exists_compose_eq_ok hfits hmemory
      exact ⟨image, himage, Image.holdsOnly_of_compose himage⟩
    · next hmemory => exact Image.compose_of_memoryBound_le hfits (Nat.le_of_not_lt hmemory)
  · refine ⟨g.metadataOffset, Layout.plan_of_lt hover, ?_, rfl, fun n hn => ?_⟩
    · rw [hcompose, Image.compose_of_lt hover]
    · rw [Layout.plan_eq_ok_iff, PlanFault.deficit]
      omega

/-- Three bytes fit on a device of four blocks that is mapped at another address than the one they
were planned for. -/
theorem plan_compose_agree_three_bytes :
    let g : Geometry := ⟨16, 4, some Geometry.defaultBase, by decide, by decide⟩
    let g' : Geometry := ⟨16, 4, none, by decide, by decide⟩
    g'.totalSize = g.totalSize ∧ g'.blockSize = g.blockSize ∧
      Layout.plan g 3 = .ok (Layout.ofGeometry g) ∧
      ∃ image, Image.compose (Layout.ofGeometry g) g' ⟨#[1, 2, 0xFF]⟩ = .ok image ∧
        image.HoldsOnly g ⟨#[1, 2, 0xFF]⟩ := by
  intro g g'
  have htotal : g'.totalSize = g.totalSize := rfl
  have hblock : g'.blockSize = g.blockSize := rfl
  obtain ⟨hplan, himage⟩ := (plan_compose_agree htotal hblock ⟨#[1, 2, 0xFF]⟩).1 (by decide)
  rw [if_pos (by decide)] at himage
  exact ⟨htotal, hblock, hplan, himage⟩

/-- Two blocks of half as many bytes as the largest index has. -/
def hugeDevice : Geometry :=
  ⟨0x8000000000000000, 2, some Geometry.defaultBase, by decide, by decide⟩

/-- An empty artifact fits on a device of more bytes than an index has and is planned for it, but it
has no image. -/
theorem compose_hugeDevice :
    ByteArray.empty.size ≤ hugeDevice.totalSize - hugeDevice.blockSize ∧
      Layout.plan hugeDevice ByteArray.empty.size = .ok (Layout.ofGeometry hugeDevice) ∧
      Image.compose (Layout.ofGeometry hugeDevice) hugeDevice ByteArray.empty =
        .error .beyondIndex ∧
      ¬ ∃ image, Image.compose (Layout.ofGeometry hugeDevice) hugeDevice ByteArray.empty =
        .ok image := by
  have hfits : ByteArray.empty.size ≤ hugeDevice.metadataOffset := by decide
  have hcompose := Image.compose_of_memoryBound_le hfits (by decide)
  rw [if_pos (by decide)] at hcompose
  exact ⟨hfits, Layout.plan_of_le hfits, hcompose, by simp [hcompose]⟩

end NorFlash
