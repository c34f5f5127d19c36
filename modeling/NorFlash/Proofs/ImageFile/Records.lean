import NorFlash.Proofs.Artifact
import NorFlash.Proofs.Fit
import NorFlash.Proofs.Image
import NorFlash.Proofs.ImageFile

/-!
# Records as an artifact and as an image

A file of Intel HEX records can be taken in two ways: as an artifact, which starts at the lowest
address of the records, and as the content of a device, which starts at address zero. Both are
windows of one memory, erased where the records leave gaps. So records from address zero on that end
below the metadata describe the device that is composed of them (`Image.composedBytes_span`), and
other records describe it moved up. For a device that no memory holds, neither way leads to its
content. `Image.records_taken_alike` puts both ways side by side, and `Image.records_without_data`
shows where they part: a file without data is an empty artifact, and no device.
-/

namespace NorFlash

namespace Image

open IntelHex (Memory)

variable {s : Setting} {path : Path} {g : Geometry} {w : World} {mode low high : Nat}
  {content : ByteArray} {memory : Memory}

/-! ## Records on a device -/

/-- Records from address zero on that end below the metadata describe the device that is composed of
them. -/
theorem composedBytes_span (hlow : memory.minKey? = some 0) (hhigh : memory.maxKey? = some high)
    (hfits : high < g.metadataOffset) :
    composedBytes g memory.span = (memory.flatten 0 g.totalSize).data.toList := by
  have hoff := g.metadataOffset_add_blockSize
  have hsize : memory.span.size = high + 1 := Memory.size_span_of_keys hlow hhigh
  have hlen := Bytes.length_toList memory.span
  refine List.ext_getElem? fun i => ?_
  by_cases hi : i < g.totalSize
  · rw [Memory.getElem?_flatten memory 0 hi, Nat.zero_add, composedBytes]
    by_cases hin : i ≤ high
    · rw [List.getElem?_append_left (by omega), Memory.getElem?_span hlow hhigh (by omega),
        Nat.zero_add]
    · rw [List.getElem?_append_right (by omega), List.getElem?_replicate, if_pos (by omega),
        Memory.getElem?_of_maxKey?_lt hhigh (Nat.lt_of_not_le hin)]
      rfl
  · rw [List.getElem?_eq_none (by rw [length_composedBytes (by omega)]; omega),
      List.getElem?_eq_none (by rw [Bytes.length_toList, Memory.size_flatten]; omega)]

/-- Records on a device describe its content. -/
theorem flattenRecords_of_keys (hlow : memory.minKey? = some low)
    (hhigh : memory.maxKey? = some high) (hin : high < g.totalSize)
    (hsmall : g.totalSize < memoryBound) :
    flattenRecords path g memory = .ok (memory.flatten 0 g.totalSize) := by
  rw [flattenRecords, hlow, hhigh]
  dsimp only
  rw [if_neg (Nat.not_le.2 hin), if_neg (Nat.not_le.2 hsmall)]

/-- Records without data describe no content. -/
theorem flattenRecords_of_no_keys (hlow : memory.minKey? = none) :
    flattenRecords path g memory = .ok ByteArray.empty := by
  rw [flattenRecords, hlow]

theorem decode_of_memory (hpath : path.isHex = true) (hmemory : Memory.ofFile content = .ok memory) :
    decode path g content = flattenRecords path g memory := by
  rw [decode, if_pos hpath, hmemory]

/-- The image in a file of records on a device. -/
theorem runOn_read_of_keys (hpath : path.isHex = true) (hnull : Action.hasNull path.render = false)
    (hfile : w.tree.status s.directory path.render = .ok (.file mode content))
    (hmemory : Memory.ofFile content = .ok memory) (hlow : memory.minKey? = some low)
    (hhigh : memory.maxKey? = some high) (hin : high < g.totalSize)
    (hsmall : g.totalSize < memoryBound) :
    (read s path g).runOn w = (.ok (ofContent g (memory.flatten 0 g.totalSize)), w) := by
  have hdecode : decode path g content = .ok (memory.flatten 0 g.totalSize) := by
    rw [decode_of_memory hpath hmemory, flattenRecords_of_keys hlow hhigh hin hsmall]
  rw [runOn_read hnull hfile hdecode, ofBytes_eq (Memory.size_flatten memory 0 g.totalSize)]

/-- A file is read as the device with the content `data`, unless it is larger than any memory. -/
structure ReadsAs (s : Setting) (path : Path) (g : Geometry) (w : World) (data : ByteArray) :
    Prop where
  /-- The image is read. -/
  image : g.totalSize < memoryBound →
    ∃ image, (read s path g).runOn w = (.ok image, w) ∧ image.data = data
  /-- There is no room for the image. -/
  beyond : memoryBound ≤ g.totalSize → (read s path g).runOn w = (.error (.slip .noMemory), w)

theorem readsAs_of_keys (hpath : path.isHex = true) (hnull : Action.hasNull path.render = false)
    (hfile : w.tree.status s.directory path.render = .ok (.file mode content))
    (hmemory : Memory.ofFile content = .ok memory) (hlow : memory.minKey? = some low)
    (hhigh : memory.maxKey? = some high) (hin : high < g.totalSize) :
    ReadsAs s path g w (memory.flatten 0 g.totalSize) where
  image := fun hsmall =>
    ⟨_, runOn_read_of_keys hpath hnull hfile hmemory hlow hhigh hin hsmall, rfl⟩
  beyond := fun hlarge =>
    runOn_read_of_decode_error hnull hfile
      (decode_of_isBeyondMemory ⟨hpath, ⟨memory, low, high, hmemory, hlow, hhigh, hin⟩, hlarge⟩)

/-- A file of records without data is refused, as content that is too short. -/
theorem runOn_read_of_no_keys (hpath : path.isHex = true)
    (hnull : Action.hasNull path.render = false)
    (hfile : w.tree.status s.directory path.render = .ok (.file mode content))
    (hmemory : Memory.ofFile content = .ok memory) (hlow : memory.minKey? = none) :
    (read s path g).runOn w = (.error (Failure.wrongSize 0 g.totalSize).worded, w) := by
  have hdecode : decode path g content = .ok ByteArray.empty := by
    rw [decode_of_memory hpath hmemory, flattenRecords_of_no_keys hlow]
  have hpos : g.totalSize ≠ 0 := by
    have hblock := g.blockSize_le_totalSize
    have := g.blockSize_pos
    omega
  have hwrong : ofBytes ByteArray.empty g = .error (.wrongSize 0 g.totalSize) :=
    if_pos hpos.symm
  rw [runOn_read hnull hfile hdecode, hwrong]
  rfl

/-- Records describe content as long as a device only where a memory holds the device. -/
theorem totalSize_lt_of_flattenRecords {data : ByteArray}
    (h : flattenRecords path g memory = .ok data) (hsize : data.size = g.totalSize) :
    g.totalSize < memoryBound := by
  rw [flattenRecords] at h
  split at h
  · split at h
    · cases h
    · split at h
      · cases h
      · next hsmall => exact Nat.lt_of_not_le hsmall
  · -- records without data give no content, and no device is that short
    cases h
    have hblock := g.blockSize_le_totalSize
    have hpos := g.blockSize_pos
    have hempty : ByteArray.empty.size = 0 := rfl
    omega

/-- Records are read as an image only for a device that a memory holds. -/
theorem totalSize_lt_of_read {image : Image} (hpath : path.isHex = true)
    (h : (read s path g).runOn w = (.ok image, w)) : g.totalSize < memoryBound := by
  obtain ⟨content, w₁, hread, hrest⟩ := Action.of_runOn_bind_ok h
  obtain ⟨data, w₂, hdata, himage⟩ := Action.of_runOn_bind_ok hrest
  have hdecode : decode path g content = .ok data :=
    (Action.of_runOn_ofExcept_ok hdata).1
  have hbytes : ofBytes data g = .ok image :=
    (Action.of_runOn_ofExcept_ok himage).1
  have hsize : data.size = g.totalSize := by
    by_contra hne
    rw [ofBytes, if_pos hne] at hbytes
    cases hbytes
  rw [decode, if_pos hpath] at hdecode
  split at hdecode
  · exact totalSize_lt_of_flattenRecords hdecode hsize
  · cases hdecode

/-! ## Records as an artifact -/

/-- An artifact has a place on a device, and the device that is composed of it has the content
`data`, unless it is larger than any memory. -/
structure ComposesTo (g : Geometry) (artifact data : ByteArray) : Prop where
  /-- The artifact is planned by the layout of the device. -/
  planned : Layout.plan g artifact.size = .ok (Layout.ofGeometry g)
  /-- The image is made. -/
  composed : g.totalSize < memoryBound →
    ∃ image, compose (Layout.ofGeometry g) g artifact = .ok image ∧ image.data = data
  /-- There is no room to make the image. -/
  beyond : memoryBound ≤ g.totalSize → compose (Layout.ofGeometry g) g artifact =
    .error (if indexBound ≤ g.totalSize then .beyondIndex else .beyondMemory)

theorem composesTo_of_toList {artifact data : ByteArray} (hfits : artifact.size ≤ g.metadataOffset)
    (hdata : data.data.toList = composedBytes g artifact) : ComposesTo g artifact data where
  planned := Layout.plan_of_le hfits
  composed := fun hsmall => by
    obtain ⟨image, himage⟩ := exists_compose_eq_ok hfits hsmall
    obtain ⟨-, -, -, hmade⟩ := of_compose_eq_ok himage
    exact ⟨image, himage, Bytes.eq_of_toList_eq (hmade.trans hdata.symm)⟩
  beyond := compose_of_memoryBound_le hfits

/-- **Records are taken alike as an artifact and as an image.** Where the records start at address
zero and end below the metadata, the device that is composed of them is the one that is read, with
what the records hold at each address and all else erased; one that no memory holds is neither
composed nor read. Wherever they start, the artifact is what stands on the device from their lowest
address to their highest one. A file without data is an artifact without a byte, of which an erased
device is composed, and it is refused as an image. -/
theorem records_taken_alike (g : Geometry) (hpath : path.isHex = true)
    (hnull : Action.hasNull path.render = false)
    (hfile : w.tree.status s.directory path.render = .ok (.file mode content))
    (hmemory : Memory.ofFile content = .ok memory) :
    ∃ artifact, (Provider.ofFile s path).runOn w = (.ok artifact, w) ∧
      (∀ high, memory.minKey? = some 0 → memory.maxKey? = some high → high < g.metadataOffset →
        ∃ data, ReadsAs s path g w data ∧ ComposesTo g artifact data ∧
          data.size = g.totalSize ∧
          ∀ x < g.totalSize, data.data.toList[x]? = some (memory[x]?.getD erasedByte)) ∧
      (∀ low high, memory.minKey? = some low → memory.maxKey? = some high →
        artifact.size = high + 1 - low ∧
        (∀ i, low + i ≤ high →
          artifact.data.toList[i]? = some (memory[low + i]?.getD erasedByte)) ∧
        (high < g.totalSize → ∃ data, ReadsAs s path g w data ∧
          ∀ i, low + i ≤ high → artifact.data.toList[i]? = data.data.toList[low + i]?)) ∧
      (memory.minKey? = none → artifact = ByteArray.empty ∧
        ComposesTo g artifact (Bytes.filled g.totalSize erasedByte) ∧
        (read s path g).runOn w = (.error (Failure.wrongSize 0 g.totalSize).worded, w)) := by
  refine ⟨memory.span, Provider.runOn_ofFile_of_memory hpath hnull hfile hmemory,
    fun high hlow hhigh hfits => ?zero, fun low high hlow hhigh => ?moved, fun hlow => ?none⟩
  case zero =>
    have hoff := g.metadataOffset_add_blockSize
    have hsize : memory.span.size = high + 1 := Memory.size_span_of_keys hlow hhigh
    refine ⟨_, readsAs_of_keys hpath hnull hfile hmemory hlow hhigh (by omega), ?_,
      Memory.size_flatten memory 0 g.totalSize, fun x hx => ?_⟩
    · exact composesTo_of_toList (by omega) (composedBytes_span hlow hhigh hfits).symm
    · exact (Memory.getElem?_flatten memory 0 hx).trans (by rw [Nat.zero_add]; rfl)
  case moved =>
    refine ⟨Memory.size_span_of_keys hlow hhigh, fun i hi => Memory.getElem?_span hlow hhigh hi,
      fun hin => ⟨_, readsAs_of_keys hpath hnull hfile hmemory hlow hhigh hin, fun i hi => ?_⟩⟩
    have hget := Memory.getElem?_flatten memory 0 (Nat.lt_of_le_of_lt hi hin)
    rw [Nat.zero_add] at hget
    exact (Memory.getElem?_span hlow hhigh hi).trans hget.symm
  case none =>
    have hspan := Memory.span_of_no_keys hlow
    refine ⟨hspan, ?_, runOn_read_of_no_keys hpath hnull hfile hmemory hlow⟩
    rw [hspan]
    exact composesTo_of_toList (Nat.zero_le _) (Bytes.toList_filled g.totalSize erasedByte)

/-! ## Small files -/

/-- A file of records. -/
def recordsTree (text : String) : FileTree :=
  ⟨[(["x.hex"], .file 0o644 text.toUTF8)]⟩

theorem status_recordsTree (text : String) :
    (recordsTree text).status Setting.atRoot.directory (Path.ofString "x.hex").render =
      .ok (.file 0o644 text.toUTF8) := by
  have htext : (Path.ofString "x.hex").render = "x.hex" := by decide
  have hlocate : (recordsTree text).locate [] true "x.hex" = .ok (.entry ["x.hex"]) :=
    FileTree.locate_root ⟨by decide, by decide, by decide⟩ (by decide) rfl (by simp)
  rw [htext]
  exact FileTree.status_eq_ok_iff.2 ⟨_, hlocate, rfl⟩

/-- Records are read, and the addresses they give data for are known. -/
theorem exists_memory_of_keys (keys : List Nat)
    (h : (Memory.ofFile content).toOption.map (·.keys) = some keys) :
    ∃ memory, Memory.ofFile content = .ok memory ∧ memory.minKey? = keys.head? ∧
      memory.maxKey? = keys.getLast? := by
  cases hmemory : Memory.ofFile content with
  | error fault =>
    rw [hmemory] at h
    cases h
  | ok memory =>
    rw [hmemory] at h
    obtain rfl := Option.some.inj h
    exact ⟨memory, rfl, Std.TreeMap.minKey?_eq_head?_keys, Std.TreeMap.maxKey?_eq_getLast?_keys⟩

/-- Records out of order, with a hole between them, are taken alike on a small device. -/
theorem records_taken_alike_with_hole :
    let text := ":020004000102F7\n:0100000007F8\n:00000001FF\n"
    let w := World.ofTree (recordsTree text)
    ∃ memory artifact image, Memory.ofFile text.toUTF8 = .ok memory ∧
      memory.minKey? = some 0 ∧ memory.maxKey? = some 5 ∧
      (Provider.ofFile .atRoot (Path.ofString "x.hex")).runOn w = (.ok artifact, w) ∧
      (read .atRoot (Path.ofString "x.hex") smallDevice).runOn w = (.ok image, w) ∧
      ComposesTo smallDevice artifact image.data := by
  intro text w
  obtain ⟨memory, hmemory, hlow, hhigh⟩ : ∃ memory, Memory.ofFile text.toUTF8 = .ok memory ∧
      memory.minKey? = some 0 ∧ memory.maxKey? = some 5 :=
    exists_memory_of_keys [0, 4, 5] (by decide +kernel)
  obtain ⟨artifact, hartifact, hzero, -⟩ := records_taken_alike (w := w) smallDevice
    (by decide) (by decide) (status_recordsTree text) hmemory
  obtain ⟨_, hreads, hcomposes, -⟩ := hzero 5 hlow hhigh (by decide)
  obtain ⟨image, himage, rfl⟩ := hreads.image (by decide)
  exact ⟨memory, artifact, image, hmemory, hlow, hhigh, hartifact, himage, hcomposes⟩

/-- Records without data are an artifact of which an erased device is composed, and no image of that
device. -/
theorem records_without_data :
    let text := ":00000001FF\n"
    let w := World.ofTree (recordsTree text)
    (∃ memory, Memory.ofFile text.toUTF8 = .ok memory ∧ memory.minKey? = none) ∧
      (Provider.ofFile .atRoot (Path.ofString "x.hex")).runOn w = (.ok ByteArray.empty, w) ∧
      ComposesTo smallDevice ByteArray.empty (Bytes.filled 64 erasedByte) ∧
      (read .atRoot (Path.ofString "x.hex") smallDevice).runOn w =
        (.error (Failure.wrongSize 0 64).worded, w) := by
  intro text w
  obtain ⟨memory, hmemory, hlow, -⟩ : ∃ memory, Memory.ofFile text.toUTF8 = .ok memory ∧
      memory.minKey? = none ∧ memory.maxKey? = none :=
    exists_memory_of_keys [] (by decide +kernel)
  have hartifact : (Provider.ofFile .atRoot (Path.ofString "x.hex")).runOn w =
      (.ok memory.span, w) :=
    Provider.runOn_ofFile_of_memory (by decide) (by decide) (status_recordsTree text) hmemory
  have hread := runOn_read_of_no_keys (w := w) (g := smallDevice) (by decide) (by decide)
    (status_recordsTree text) hmemory hlow
  rw [Memory.span_of_no_keys hlow] at hartifact
  exact ⟨⟨memory, hmemory, hlow⟩, hartifact,
    composesTo_of_toList (Nat.zero_le _) (Bytes.toList_filled 64 erasedByte), hread⟩

end Image

end NorFlash
