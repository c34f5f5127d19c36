import NorFlash.Proofs.Image.Regions
import NorFlash.Proofs.ImageFile

/-!
# Reading and composing are inverse

The content of a device does not tell where an artifact ends that ends in erased bytes. An image
that is read ends it as early as possible (`Image.IsRead`), and there is no other place where it
could end after a programmed byte with only erased bytes up to the metadata (`Image.SplitsAt`). Up
to these bytes, reading undoes composing, and composing undoes reading where the metadata is erased
(`Image.reading_inverts_composing`).
-/

namespace NorFlash

namespace Image

variable {g : Geometry} {artifact data : ByteArray} {image : Image} {n : Nat}

/-! ## Where an artifact ends -/

/-- The artifact of an image may be taken to end after `n` bytes: it does not end in an erased byte
then, and all bytes from there up to the metadata are erased. -/
def SplitsAt (image : Image) (n : Int) : Prop :=
  { image with artifactSize := n }.code.data.toList.getLast? ≠ some erasedByte ∧
    isErased { image with artifactSize := n }.gap = true

theorem toList_code_of_size (hsize : image.artifactSize = n) :
    image.code.data.toList = image.data.data.toList.take n := by
  rw [code, hsize, show (0 : Int) = ((0 : Nat) : Int) from rfl, Bytes.toList_slice, List.drop_zero]

theorem size_code_of_size (hsize : image.artifactSize = n) (hn : n ≤ image.data.size) :
    image.code.size = n := by
  rw [← Bytes.length_toList, toList_code_of_size hsize, List.length_take, Bytes.length_toList,
    Nat.min_eq_left hn]

theorem toList_gap_of_size (hlayout : image.layout = Layout.ofGeometry g)
    (hsize : image.artifactSize = n) :
    image.gap.data.toList = (image.data.data.toList.take g.metadataOffset).drop n := by
  rw [gap, hsize, hlayout, show (Layout.ofGeometry g).metadataOffset = (g.metadataOffset : Int) from
    rfl, Bytes.toList_slice]

theorem toList_metadata_of_layout (hlayout : image.layout = Layout.ofGeometry g)
    (hdata : image.data.size = g.totalSize) :
    image.metadata.data.toList = image.data.data.toList.drop g.metadataOffset := by
  have hstop : (Layout.ofGeometry g).metadata.stop = (g.totalSize : Int) := by
    rw [← g.metadataOffset_add_blockSize]
    rfl
  rw [metadata, hlayout, hstop, show (Layout.ofGeometry g).metadata.offset =
    (g.metadataOffset : Int) from rfl, Bytes.toList_slice, ← hdata, ← Bytes.length_toList,
    List.take_length]

/-- The parts make up the content where the artifact ends before the metadata. -/
theorem parts_of_size (hlayout : image.layout = Layout.ofGeometry g)
    (hdata : image.data.size = g.totalSize) (hsize : image.artifactSize = n)
    (hn : n ≤ g.metadataOffset) : image.code ++ image.gap ++ image.metadata = image.data := by
  have htake : image.data.data.toList.take n =
      (image.data.data.toList.take g.metadataOffset).take n := by
    rw [List.take_take, Nat.min_eq_left hn]
  refine Bytes.eq_of_toList_eq ?_
  rw [ByteArray.data_append, ByteArray.data_append, Array.toList_append, Array.toList_append,
    toList_code_of_size hsize, toList_gap_of_size hlayout hsize,
    toList_metadata_of_layout hlayout hdata, htake, List.take_append_drop, List.take_append_drop]

/-- The first `n` bytes end in an erased byte exactly if the byte before place `n` is one. -/
theorem getLast?_take_ne_erased_iff {b : ByteArray} (hn : n ≤ b.size) :
    (b.data.toList.take n).getLast? ≠ some erasedByte ↔
      ∀ i, n = i + 1 → Bytes.byte b i ≠ erasedByte := by
  cases n with
  | zero => simp
  | succ i =>
    have hi : i < b.size := hn
    have hlast : (b.data.toList.take (i + 1)).getLast? = some (Bytes.byte b i) := by
      rw [List.getLast?_take, if_neg (Nat.succ_ne_zero i), Nat.add_sub_cancel,
        Bytes.getElem?_toList_eq_ite, if_pos hi, Option.some_or]
    rw [hlast, ne_eq, Option.some_inj]
    constructor
    · rintro hne j hj
      obtain rfl := Nat.succ.inj hj
      exact hne
    · intro h
      exact h i rfl

/-- The byte before a place and the bytes from there on decide whether an artifact may end there. -/
theorem splitsAt_iff (hlayout : image.layout = Layout.ofGeometry g)
    (hdata : g.metadataOffset ≤ image.data.size) (hn : n ≤ g.metadataOffset) :
    image.SplitsAt n ↔
      (∀ i, n = i + 1 → Bytes.byte image.data i ≠ erasedByte) ∧
        ∀ k, n ≤ k → k < g.metadataOffset → Bytes.byte image.data k = erasedByte := by
  refine and_congr ?_ ?_
  · rw [toList_code_of_size rfl]
    exact getLast?_take_ne_erased_iff (Nat.le_trans hn hdata)
  · rw [isErased_iff_byte, gap, hlayout]
    dsimp only
    rw [show (Layout.ofGeometry g).metadataOffset = (g.metadataOffset : Int) from rfl]
    constructor
    · intro h k hle hlt
      have hk := h (k - n)
      rwa [Bytes.byte_slice, if_pos (by omega), Nat.add_sub_cancel' hle] at hk
    · intro h k
      rw [Bytes.byte_slice]
      split
      · exact h _ (by omega) (by omega)
      · rfl

/-- There is one place at most where an artifact may end: between two of them, the byte before the
later one would be erased and programmed. -/
theorem le_of_splitsAt {m : Nat} (hlayout : image.layout = Layout.ofGeometry g)
    (hdata : g.metadataOffset ≤ image.data.size) (hm : m ≤ g.metadataOffset)
    (hn : n ≤ g.metadataOffset) (hfirst : image.SplitsAt m) (hsecond : image.SplitsAt n) :
    n ≤ m := by
  obtain ⟨-, herased⟩ := (splitsAt_iff hlayout hdata hm).1 hfirst
  obtain ⟨hlast, -⟩ := (splitsAt_iff hlayout hdata hn).1 hsecond
  by_contra hlt
  obtain ⟨i, rfl⟩ : ∃ i, n = i + 1 := ⟨n - 1, by omega⟩
  exact hlast i rfl (herased i (by omega) (by omega))

/-! ## Reading -/

/-- An image as it is read from the content of a device. -/
structure IsRead (image : Image) (g : Geometry) (content : ByteArray) : Prop where
  /-- The layout is that of the device. -/
  layout : image.layout = Layout.ofGeometry g
  /-- The content is kept. -/
  data : image.data = content
  /-- The parts make up the content. -/
  parts : image.code ++ image.gap ++ image.metadata = content
  /-- The gap is erased. -/
  gap : isErased image.gap = true
  /-- The code does not end in an erased byte. -/
  last : image.code.data.toList.getLast? ≠ some erasedByte
  /-- The artifact has the size of the code. -/
  size : image.artifactSize = image.code.size
  /-- The artifact ends before the metadata. -/
  below : 0 ≤ image.artifactSize ∧ image.artifactSize ≤ g.metadataOffset
  /-- It could end nowhere else. -/
  unique : ∀ n : Int, 0 ≤ n → n ≤ g.metadataOffset → (image.SplitsAt n ↔ n = image.artifactSize)

theorem splitsAt_ofContent (h : data.size = g.totalSize) :
    (ofContent g data).SplitsAt (ofContent g data).artifactSize := by
  have hoff := g.metadataOffset_add_blockSize
  obtain ⟨hle, hafter, hlast⟩ := Bytes.trimBelow_spec data erasedByte (n := g.metadataOffset)
    (by omega)
  refine (splitsAt_iff rfl (by simp only [ofContent]; omega) hle).2 ⟨fun i hi => ?_, ?_⟩
  · have hbyte := hlast i hi
    rwa [Bytes.getElem?_toList_eq_ite, if_pos (by omega), ne_eq, Option.some_inj] at hbyte
  · intro k hle hlt
    have hbyte := hafter k hle hlt
    rw [Bytes.byte]
    simp only [ofContent, hbyte, Option.getD_some]

/-- What the content of a device is read as. -/
theorem isRead_ofContent (h : data.size = g.totalSize) : (ofContent g data).IsRead g data := by
  have hoff := g.metadataOffset_add_blockSize
  have hdata : g.metadataOffset ≤ data.size := by omega
  obtain ⟨hle, -, -⟩ := Bytes.trimBelow_spec data erasedByte hdata
  have hsplits := splitsAt_ofContent h
  refine ⟨rfl, rfl, parts_of_size rfl h rfl hle, hsplits.2, hsplits.1, ?_,
    ⟨Int.natCast_nonneg _, Int.ofNat_le.2 hle⟩, fun n hzero hn => ⟨fun hother => ?_, ?_⟩⟩
  · rw [size_code_of_size rfl (Nat.le_trans hle hdata)]
    rfl
  · obtain ⟨n, rfl⟩ := Int.eq_ofNat_of_zero_le hzero
    have hn := Int.ofNat_le.1 hn
    exact congrArg Nat.cast (Nat.le_antisymm (le_of_splitsAt rfl hdata hle hn hsplits hother)
      (le_of_splitsAt rfl hdata hn hle hother hsplits))
  · rintro rfl
    exact hsplits

theorem of_ofBytes_eq_ok (h : ofBytes data g = .ok image) :
    data.size = g.totalSize ∧ image.IsRead g data := by
  have hsize : data.size = g.totalSize := by
    by_contra hne
    rw [ofBytes, if_pos hne] at h
    cases h
  rw [ofBytes_eq hsize] at h
  obtain rfl := Except.ok.inj h
  exact ⟨hsize, isRead_ofContent hsize⟩

/-! ## Both ways -/

theorem IsRead.size_code_le (hread : image.IsRead g data) :
    image.code.size ≤ g.metadataOffset := by
  have hbelow := hread.below.2
  rw [hread.size] at hbelow
  exact Int.ofNat_le.1 hbelow

/-- What is read with erased metadata is the code and erased bytes. -/
theorem IsRead.toList_data (hread : image.IsRead g data) (hsize : data.size = g.totalSize)
    (hmetadata : isErased image.metadata = true) :
    data.data.toList = composedBytes g image.code := by
  have hparts := congrArg (·.data.toList) hread.parts
  have hgap := hread.gap
  rw [isErased, Bytes.all_iff] at hgap hmetadata
  simp only [ByteArray.data_append, Array.toList_append] at hparts
  rw [List.eq_replicate_of_mem hgap, List.eq_replicate_of_mem hmetadata, List.append_assoc,
    ← List.replicate_add, Bytes.length_toList, Bytes.length_toList] at hparts
  have hlen := congrArg List.length hparts
  rw [List.length_append, List.length_replicate, Bytes.length_toList, Bytes.length_toList] at hlen
  have herased : image.gap.size + image.metadata.size = g.totalSize - image.code.size := by
    rw [← hsize]
    omega
  rw [composedBytes, ← hparts, herased]

/-- Composing by the layout of the device undoes reading where the metadata is erased. -/
theorem compose_of_isRead (hread : image.IsRead g data) (hsize : data.size = g.totalSize)
    (hmetadata : isErased image.metadata = true) (hmemory : g.totalSize < memoryBound) :
    compose image.layout g image.code = .ok image := by
  obtain ⟨composed, hcomposed⟩ := exists_compose_eq_ok hread.size_code_le hmemory
  obtain ⟨-, hlayout, hcode, hdata⟩ := of_compose_eq_ok hcomposed
  have hsame : composed = image := by
    have hbytes : composed.data = image.data := by
      refine Bytes.eq_of_toList_eq ?_
      rw [hdata, hread.data, hread.toList_data hsize hmetadata]
    cases composed
    cases image
    simp only [mk.injEq]
    exact ⟨hlayout.trans hread.layout.symm, hcode.trans hread.size.symm, hbytes⟩
  rw [hread.layout, hcomposed, hsame]

/-- Reading undoes composing up to the erased bytes at the end of the artifact. -/
theorem toList_code_of_isComposed (h : image.IsComposed g artifact) :
    image.code.data.toList = artifact.data.toList.rdropWhile (· == erasedByte) := by
  have hbegins : artifact.data.toList.rdropWhile (· == erasedByte) <+: image.data.data.toList := by
    rw [h.data, composedBytes]
    exact (List.rdropWhile_prefix _ _).trans (List.prefix_append _ _)
  rw [toList_code_of_size h.artifactSize]
  exact (List.prefix_iff_eq_take.1 hbegins).symm

/-- **Reading inverts composing.** Content of another size than that of the device is refused as bad
data. All other content is read as an image that keeps it and ends the artifact at the only place
where it ends in a programmed byte, or is empty, and is followed by erased bytes up to the metadata;
where the metadata is erased as well, the code is planned by the layout of the image, and the image
composed of it is the one that was read. The other way round, what is read from the image of an
artifact that fits has as code the artifact without the erased bytes at its end. An image for a
device that is larger than any memory is not made. -/
theorem reading_inverts_composing (g : Geometry) :
    (∀ data, data.size ≠ g.totalSize →
      ofBytes data g = .error (.wrongSize data.size g.totalSize) ∧
      (Failure.ofImage (.wrongSize data.size g.totalSize)).kind = .data) ∧
    (∀ data, data.size = g.totalSize →
      ∃ image, ofBytes data g = .ok image ∧ image.IsRead g data ∧
        (isErased image.metadata = true →
          Layout.plan g image.artifactSize = .ok image.layout ∧
          compose image.layout g image.code =
            if g.totalSize < memoryBound then .ok image
            else .error (if indexBound ≤ g.totalSize then .beyondIndex else .beyondMemory))) ∧
    ∀ artifact : ByteArray, artifact.size ≤ g.metadataOffset →
      Layout.plan g artifact.size = .ok (Layout.ofGeometry g) ∧
      if g.totalSize < memoryBound then
        ∃ composed image, compose (Layout.ofGeometry g) g artifact = .ok composed ∧
          ofBytes composed.data g = .ok image ∧ image.IsRead g composed.data ∧
          image.code.data.toList = artifact.data.toList.rdropWhile (· == erasedByte)
      else
        compose (Layout.ofGeometry g) g artifact =
          .error (if indexBound ≤ g.totalSize then .beyondIndex else .beyondMemory) := by
  refine ⟨fun data hsize => ⟨by rw [ofBytes, if_pos hsize], rfl⟩, fun data hsize => ?_,
    fun artifact hfits => ⟨Layout.plan_of_le hfits, ?_⟩⟩
  · have hread := isRead_ofContent hsize
    refine ⟨_, ofBytes_eq hsize, hread, fun hmetadata => ?_⟩
    have hfits : (ofContent g data).code.size ≤ g.metadataOffset := hread.size_code_le
    refine ⟨?_, ?_⟩
    · rw [hread.size, hread.layout]
      exact Layout.plan_of_le hfits
    · split
      · next hmemory => exact compose_of_isRead hread hsize hmetadata hmemory
      · next hmemory =>
        rw [hread.layout]
        exact compose_of_memoryBound_le hfits (Nat.le_of_not_lt hmemory)
  · split
    · next hmemory =>
      obtain ⟨composed, hcomposed⟩ := exists_compose_eq_ok hfits hmemory
      obtain ⟨-, -, -, hdata⟩ := of_compose_eq_ok hcomposed
      obtain ⟨image, himage, hback⟩ := ofBytes_of_composed hfits hdata
      exact ⟨composed, image, hcomposed, himage, (of_ofBytes_eq_ok himage).2,
        toList_code_of_isComposed hback⟩
    · next hmemory => exact compose_of_memoryBound_le hfits (Nat.le_of_not_lt hmemory)

/-- An artifact of three bytes is read back as its first two, as its last one is erased, and these
have the same image. -/
theorem reading_inverts_composing_three_bytes :
    (⟨#[1, 2, 0xFF]⟩ : ByteArray).size ≤ smallDevice.metadataOffset ∧
      ∃ composed image, compose (Layout.ofGeometry smallDevice) smallDevice ⟨#[1, 2, 0xFF]⟩ =
          .ok composed ∧
        ofBytes composed.data smallDevice = .ok image ∧ image.code.data.toList = [1, 2] ∧
        compose image.layout smallDevice image.code = .ok image ∧ image.data = composed.data := by
  obtain ⟨-, hreads, hcomposes⟩ := reading_inverts_composing smallDevice
  have hfits : (⟨#[1, 2, 0xFF]⟩ : ByteArray).size ≤ smallDevice.metadataOffset := by decide
  obtain ⟨-, hback⟩ := hcomposes _ hfits
  rw [if_pos (by decide)] at hback
  obtain ⟨composed, image, hcomposed, himage, hread, hcode⟩ := hback
  have hholds := holdsOnly_of_compose hcomposed
  obtain ⟨image', himage', -, hagain⟩ := hreads _ hholds.size
  obtain rfl := Except.ok.inj (himage.symm.trans himage')
  have hmetadata : isErased image.metadata = true := by
    rw [metadata, hread.layout, hread.data, ← hholds.layout]
    exact hholds.metadata
  obtain ⟨-, hsame⟩ := hagain hmetadata
  rw [if_pos (by decide)] at hsame
  exact ⟨hfits, composed, image, hcomposed, himage, hcode, hsame, hread.data⟩

/-- A byte fits on a device of more bytes than an index has and is planned for it, but there is no
image of it to read back. -/
theorem no_image_to_read_back :
    (⟨#[1]⟩ : ByteArray).size ≤ hugeDevice.metadataOffset ∧
      Layout.plan hugeDevice (⟨#[1]⟩ : ByteArray).size = .ok (Layout.ofGeometry hugeDevice) ∧
      ¬ ∃ composed image,
        compose (Layout.ofGeometry hugeDevice) hugeDevice ⟨#[1]⟩ = .ok composed ∧
          ofBytes composed.data hugeDevice = .ok image := by
  have hfits : (⟨#[1]⟩ : ByteArray).size ≤ hugeDevice.metadataOffset := by decide
  refine ⟨hfits, Layout.plan_of_le hfits, ?_⟩
  rintro ⟨composed, -, hcomposed, -⟩
  rw [compose_of_memoryBound_le hfits (by decide)] at hcomposed
  cases hcomposed

end Image

end NorFlash
