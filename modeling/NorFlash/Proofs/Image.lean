import NorFlash.Image
import NorFlash.Proofs.Bytes

/-!
# Composed images

What `Image.compose` makes of an artifact by the layout of the device, and what `Image.ofBytes`
recovers from it: the artifact and erased bytes up to the size of the device
(`Image.IsComposed`), where the artifact is known up to the erased bytes at its end.
-/

namespace NorFlash

/-- Four blocks of sixteen bytes. -/
def smallDevice : Geometry :=
  ⟨16, 4, some Geometry.defaultBase, by decide, by decide⟩

namespace Image

/-- The bytes of a device that holds an artifact and is erased elsewhere. -/
def composedBytes (g : Geometry) (artifact : ByteArray) : List UInt8 :=
  artifact.data.toList ++ List.replicate (g.totalSize - artifact.size) erasedByte

variable {g : Geometry} {artifact : ByteArray} {image : Image}

theorem length_composedBytes (h : artifact.size ≤ g.totalSize) :
    (composedBytes g artifact).length = g.totalSize := by
  rw [composedBytes, List.length_append, Bytes.length_toList, List.length_replicate]
  omega

/-! ## Composing -/

theorem toList_programmed (h : artifact.size ≤ g.totalSize) :
    (programmed (Layout.ofGeometry g) g artifact).data.toList = composedBytes g artifact := by
  have hfilled := Bytes.toList_filled g.totalSize erasedByte
  have hsize : (Bytes.filled g.totalSize erasedByte).size = g.totalSize := by
    rw [← Bytes.length_toList, hfilled, List.length_replicate]
  have hsplice := Bytes.toList_splice (Bytes.filled g.totalSize erasedByte) artifact
    (Nat.zero_le artifact.size) (by rw [hsize]; exact h)
  rw [programmed, composedBytes]
  simp only [Layout.ofGeometry, Int.zero_add]
  rw [show (0 : Int) = ((0 : Nat) : Int) from rfl, hsplice, hfilled, List.take_zero,
    List.nil_append, List.drop_replicate]

/-- Erasing the metadata of a device that holds an artifact below it changes nothing. -/
theorem erase_metadata {buffer : ByteArray} (h : artifact.size ≤ g.metadataOffset)
    (hbuffer : buffer.data.toList = composedBytes g artifact) :
    ∃ data, erase buffer (Layout.ofGeometry g).metadata.offset
        (Layout.ofGeometry g).metadata.stop = .ok data ∧
      data.data.toList = composedBytes g artifact := by
  have hoff := g.metadataOffset_add_blockSize
  have hsize : buffer.size = g.totalSize := by
    rw [← Bytes.length_toList, hbuffer, length_composedBytes (by omega)]
  have hstop : (Layout.ofGeometry g).metadata.stop = (g.totalSize : Int) := by
    rw [← hoff]
    rfl
  have hblock : ((g.totalSize : Int) - (g.metadataOffset : Int)).toNat = g.blockSize := by omega
  have hfilled := Bytes.toList_filled g.blockSize erasedByte
  rw [show (Layout.ofGeometry g).metadata.offset = (g.metadataOffset : Int) from rfl, hstop, erase,
    if_pos (by omega), hblock]
  refine ⟨_, rfl, ?_⟩
  rw [Bytes.toList_splice _ _ (by omega) (by omega), hbuffer, hfilled, composedBytes,
    List.take_append, List.drop_append, Bytes.length_toList,
    List.take_of_length_le (by rw [Bytes.length_toList]; exact h),
    List.drop_eq_nil_of_le (by rw [Bytes.length_toList]; omega), List.take_replicate,
    List.drop_replicate, List.nil_append, List.append_assoc, List.append_assoc,
    ← List.replicate_add, ← List.replicate_add]
  congr 2
  omega

/-- An artifact that fits is followed by erased bytes up to the size of the device. -/
theorem of_compose_eq_ok (h : compose (Layout.ofGeometry g) g artifact = .ok image) :
    artifact.size ≤ g.metadataOffset ∧ image.layout = Layout.ofGeometry g ∧
      image.artifactSize = artifact.size ∧ image.data.data.toList = composedBytes g artifact := by
  rw [compose] at h
  split at h
  · simp at h
  · split at h
    · simp at h
    · next hfits =>
      have hle : artifact.size ≤ g.metadataOffset := by
        simp only [Layout.codeCapacity, Layout.ofGeometry] at hfits
        omega
      have hoff := g.metadataOffset_add_blockSize
      obtain ⟨data, herase, hdata⟩ :=
        erase_metadata hle (toList_programmed (by omega))
      rw [herase] at h
      split at h
      · simp at h
      · split at h
        · simp at h
        · obtain rfl := Except.ok.inj h
          exact ⟨hle, rfl, rfl, hdata⟩

/-- An image is composed only for a device that is not larger than any memory. -/
theorem totalSize_lt_of_compose {layout : Layout} (h : compose layout g artifact = .ok image) :
    g.totalSize < memoryBound := by
  rw [compose] at h
  split at h
  · cases h
  · split at h
    · cases h
    · split at h
      · cases h
      · split at h
        · cases h
        · next hmemory => exact Nat.lt_of_not_le hmemory

/-- An artifact that fits is composed, on each device that is not larger than any memory. -/
theorem exists_compose_eq_ok (hfits : artifact.size ≤ g.metadataOffset)
    (hmemory : g.totalSize < memoryBound) :
    ∃ image, compose (Layout.ofGeometry g) g artifact = .ok image := by
  have hoff := g.metadataOffset_add_blockSize
  have hindex : memoryBound ≤ indexBound := by decide
  obtain ⟨data, herase, -⟩ :=
    erase_metadata hfits (toList_programmed (by omega))
  have hcapacity : ¬ (Layout.ofGeometry g).codeCapacity < (artifact.size : Int) := by
    simp only [Layout.codeCapacity, Layout.ofGeometry]
    omega
  rw [compose, if_neg (by simp [Layout.ofGeometry]), if_neg hcapacity, if_neg (by omega),
    if_neg (by omega), herase]
  exact ⟨_, rfl⟩

/-- A size below that of any memory has a decimal form. -/
theorem isWritable_of_lt {size : Nat} (h : size < memoryBound) :
    Numeral.isWritable size = true := by
  have hmemory : memoryBound ≤ 10 ^ 13 := by decide
  have hdigits : 13 ≤ Numeral.maxDigits := by decide
  rw [Numeral.isWritable, decide_eq_true_eq, Int.natAbs_natCast]
  generalize Numeral.maxDigits = digits at hdigits ⊢
  calc size < 10 ^ 13 := by omega
    _ ≤ 10 ^ digits := Nat.pow_le_pow_right (by decide) hdigits

/-! ## The parts of a composed image -/

theorem toList_code (hsize : image.artifactSize = artifact.size)
    (hdata : image.data.data.toList = composedBytes g artifact) :
    image.code.data.toList = artifact.data.toList := by
  rw [code, hsize, show (0 : Int) = ((0 : Nat) : Int) from rfl, Bytes.toList_slice, hdata,
    composedBytes, List.drop_zero, ← Bytes.length_toList, List.take_left]

theorem toList_gap (hlayout : image.layout = Layout.ofGeometry g)
    (hsize : image.artifactSize = artifact.size)
    (hdata : image.data.data.toList = composedBytes g artifact)
    (hfits : artifact.size ≤ g.metadataOffset) :
    image.gap.data.toList = List.replicate (g.metadataOffset - artifact.size) erasedByte := by
  have hoff := g.metadataOffset_add_blockSize
  have hlen := Bytes.length_toList artifact
  rw [gap, hsize, hlayout, show (Layout.ofGeometry g).metadataOffset = (g.metadataOffset : Int) from
    rfl, Bytes.toList_slice, hdata, composedBytes, List.take_append, List.drop_append,
    List.drop_eq_nil_of_le (by rw [List.length_take]; omega), List.nil_append, List.take_replicate,
    List.drop_replicate, List.length_take, hlen]
  congr 1
  omega

theorem toList_metadata (hlayout : image.layout = Layout.ofGeometry g)
    (hdata : image.data.data.toList = composedBytes g artifact)
    (hfits : artifact.size ≤ g.metadataOffset) :
    image.metadata.data.toList = List.replicate g.blockSize erasedByte := by
  have hoff := g.metadataOffset_add_blockSize
  have hlen := Bytes.length_toList artifact
  have hstop : (Layout.ofGeometry g).metadata.stop = (g.totalSize : Int) := by
    rw [← hoff]
    rfl
  rw [metadata, hlayout, hstop, show (Layout.ofGeometry g).metadata.offset =
    (g.metadataOffset : Int) from rfl, Bytes.toList_slice,
    List.take_of_length_le (by rw [hdata, length_composedBytes (by omega)]), hdata, composedBytes,
    List.drop_append, List.drop_eq_nil_of_le (by omega), List.nil_append, List.drop_replicate, hlen]
  congr 1
  omega

/-! ## Reading -/

/-- An image as it is read from a device that holds an artifact and is erased elsewhere. The
artifact ends where its own erased bytes start. -/
structure IsComposed (image : Image) (g : Geometry) (artifact : ByteArray) : Prop where
  /-- The layout is that of the device. -/
  layout : image.layout = Layout.ofGeometry g
  /-- The size is that of the artifact without the erased bytes at its end. -/
  artifactSize :
    image.artifactSize = (artifact.data.toList.rdropWhile (· == erasedByte)).length
  /-- The content is the artifact and erased bytes. -/
  data : image.data.data.toList = composedBytes g artifact

theorem rdropWhile_append_replicate (bytes : List UInt8) (n : Nat) :
    (bytes ++ List.replicate n erasedByte).rdropWhile (· == erasedByte) =
      bytes.rdropWhile (· == erasedByte) := by
  induction n with
  | zero => simp
  | succ n ih =>
    rw [List.replicate_succ', ← List.append_assoc, List.rdropWhile_concat_pos _ _ _ (by simp), ih]

/-- The content of a composed image is read back as it was composed. -/
theorem ofBytes_of_composed {data : ByteArray} (hsize : artifact.size ≤ g.metadataOffset)
    (hdata : data.data.toList = composedBytes g artifact) :
    ∃ image, ofBytes data g = .ok image ∧ image.IsComposed g artifact := by
  have hoff := g.metadataOffset_add_blockSize
  have htotal : data.size = g.totalSize := by
    rw [← Bytes.length_toList, hdata, length_composedBytes (by omega)]
  rw [ofBytes, if_neg (by simp [htotal])]
  refine ⟨_, rfl, rfl, ?_, hdata⟩
  have htake : data.data.toList.take g.metadataOffset =
      artifact.data.toList ++ List.replicate (g.metadataOffset - artifact.size) erasedByte := by
    rw [hdata, composedBytes, List.take_append, Bytes.length_toList,
      List.take_of_length_le (by rw [Bytes.length_toList]; exact hsize), List.take_replicate]
    congr 2
    omega
  dsimp only
  rw [Bytes.trimBelow_eq _ _ (by omega), htake, rdropWhile_append_replicate]

end Image

end NorFlash
