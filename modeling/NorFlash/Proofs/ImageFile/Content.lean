import NorFlash.Proofs.ImageFile.Records
import NorFlash.Proofs.IntelHex.Stored

/-!
# The image in a file of records

What the records of a file give is a map from addresses to bytes (`IntelHex.Memory.Describes`), and
the image that is read has each of these bytes at its address and is erased elsewhere
(`Image.IsDeviceOf`). It is refused if the records give a byte for an address beyond the device, so
that none of them is lost, or if they give none at all (`Image.read_records`); and there is no room
for a device that is larger than any memory.
-/

namespace NorFlash

namespace Image

open IntelHex (Memory)
open IntelHex.Memory (Describes)

variable {s : Setting} {path : Path} {g : Geometry} {w : World} {mode : Nat}
  {content : ByteArray} {memory : Memory} {image : Image}

/-! ## The device that records describe -/

/-- An image is that of a device with given bytes at their addresses, erased elsewhere. -/
structure IsDeviceOf (g : Geometry) (bytes : Nat → UInt8 → Prop) (i : Image) : Prop where
  /-- It has the size of the device. -/
  size : i.data.size = g.totalSize
  /-- Each byte stands at its address. -/
  byte : ∀ x b, bytes x b → i.data.data.toList[x]? = some b
  /-- All else is erased. -/
  erased : ∀ x < g.totalSize, (∀ b, ¬ bytes x b) → i.data.data.toList[x]? = some erasedByte
  /-- Its layout is that of the device. -/
  layout : i.layout = Layout.ofGeometry g
  /-- Its artifact ends below the metadata. -/
  below : 0 ≤ i.artifactSize ∧ i.artifactSize ≤ g.metadataOffset
  /-- The artifact ends with a byte that is not erased, if it has any. -/
  last : ∀ x : Nat, i.artifactSize = x + 1 → i.data.data.toList[x]? ≠ some erasedByte
  /-- From the artifact to the metadata all is erased. -/
  gap : ∀ x : Nat, i.artifactSize ≤ x → x < g.metadataOffset →
    i.data.data.toList[x]? = some erasedByte

theorem isDeviceOf_flatten (hmemory : Memory.ofFile content = .ok memory)
    (hin : ∀ x b, Describes content x b → x < g.totalSize) :
    (ofContent g (memory.flatten 0 g.totalSize)).IsDeviceOf g (Describes content) := by
  have hview : ∀ x < g.totalSize, (memory.flatten 0 g.totalSize).data.toList[x]? =
      some (memory[x]?.getD erasedByte) := by
    intro x hx
    have hget := Memory.getElem?_flatten memory 0 hx
    rwa [Nat.zero_add] at hget
  have hoff := g.metadataOffset_add_blockSize
  have hsize := Memory.size_flatten memory 0 g.totalSize
  obtain ⟨hbelow, hgap, hlast⟩ := Bytes.trimBelow_spec (memory.flatten 0 g.totalSize) erasedByte
    (n := g.metadataOffset) (by omega)
  refine ⟨hsize, ?_, ?_, rfl, ⟨Int.natCast_nonneg _, Int.ofNat_le.2 hbelow⟩, ?_, ?_⟩
  · intro x b hb
    rw [ofContent, hview x (hin x b hb), (Memory.getElem?_ofFile hmemory).2 hb]
    rfl
  · intro x hx hnone
    have hfree : memory[x]? = none := by
      refine Option.eq_none_iff_forall_ne_some.2 ?_
      intro b hb
      exact hnone b ((Memory.getElem?_ofFile hmemory).1 hb)
    rw [ofContent, hview x hx, hfree]
    rfl
  · intro x hx
    exact hlast x (Int.ofNat.inj hx)
  · intro x hx hin
    exact hgap x (Int.ofNat_le.1 hx) hin

/-! ## Reading -/

/-- Records without data leave a memory without addresses. -/
theorem minKey?_of_dataless (hmemory : Memory.ofFile content = .ok memory)
    (hnone : ∀ x b, ¬ Describes content x b) : memory.minKey? = none := by
  refine Memory.minKey?_eq_none ?_
  intro x
  refine Option.eq_none_iff_forall_ne_some.2 ?_
  intro b hb
  exact hnone x b ((Memory.getElem?_ofFile hmemory).1 hb)

/-- Records that reach beyond the device are refused. -/
theorem runOn_read_of_outside {low high : Nat} (hpath : path.isHex = true)
    (hnull : Action.hasNull path.render = false)
    (hfile : w.tree.status s.directory path.render = .ok (.file mode content))
    (hmemory : Memory.ofFile content = .ok memory) (hlow : memory.minKey? = some low)
    (hhigh : memory.maxKey? = some high) (hout : g.totalSize ≤ high) :
    (read s path g).runOn w =
      (.error (Failure.outsideFlash path low high g.totalSize).worded, w) := by
  have hdecode : decode path g content = .error (.outsideFlash path low high g.totalSize) := by
    rw [decode_of_memory hpath hmemory, flattenRecords, hlow, hhigh]
    exact if_pos hout
  rw [read, Action.runOn_bind_ok (runOn_readFile hnull hfile), hdecode]
  rfl

/-- Records on the device are read as the device with their bytes, if a memory holds it. -/
theorem runOn_read_of_within (hpath : path.isHex = true)
    (hnull : Action.hasNull path.render = false)
    (hfile : w.tree.status s.directory path.render = .ok (.file mode content))
    (hmemory : Memory.ofFile content = .ok memory) (hsome : ∃ x b, Describes content x b)
    (hin : ∀ x b, Describes content x b → x < g.totalSize) :
    (g.totalSize < memoryBound → ∃ image, (read s path g).runOn w = (.ok image, w) ∧
      image.IsDeviceOf g (Describes content)) ∧
    (memoryBound ≤ g.totalSize → (read s path g).runOn w = (.error (.slip .noMemory), w)) := by
  obtain ⟨x, b, hb⟩ := hsome
  obtain ⟨low, high, hlow, hhigh, -, ⟨c, hc⟩, -⟩ :=
    Memory.exists_keys ((Memory.getElem?_ofFile hmemory).2 hb)
  have hhighIn : high < g.totalSize := hin high c ((Memory.getElem?_ofFile hmemory).1 hc)
  refine ⟨fun hsmall => ?_, (readsAs_of_keys hpath hnull hfile hmemory hlow hhigh hhighIn).beyond⟩
  exact ⟨_, runOn_read_of_keys hpath hnull hfile hmemory hlow hhigh hhighIn hsmall,
    isDeviceOf_flatten hmemory hin⟩

/-- Records that reach beyond the device are refused with the lowest and the highest address that
they give a byte for. -/
theorem exists_runOn_read_of_beyond (hpath : path.isHex = true)
    (hnull : Action.hasNull path.render = false)
    (hfile : w.tree.status s.directory path.render = .ok (.file mode content))
    (hmemory : Memory.ofFile content = .ok memory)
    (hout : ∃ x b, Describes content x b ∧ g.totalSize ≤ x) :
    ∃ low high, (∃ b, Describes content low b) ∧ (∃ b, Describes content high b) ∧
      (∀ x b, Describes content x b → low ≤ x ∧ x ≤ high) ∧ g.totalSize ≤ high ∧
      (read s path g).runOn w =
        (.error (Failure.outsideFlash path low high g.totalSize).worded, w) := by
  have hholds : ∀ {x b}, memory[x]? = some b ↔ Describes content x b :=
    Memory.getElem?_ofFile hmemory
  obtain ⟨x, b, hb, hx⟩ := hout
  obtain ⟨low, high, hlow, hhigh, ⟨c, hc⟩, ⟨d, hd⟩, hbetween⟩ := Memory.exists_keys (hholds.2 hb)
  have hhighOut : g.totalSize ≤ high := hx.trans (hbetween x b (hholds.2 hb)).2
  refine ⟨low, high, ⟨c, hholds.1 hc⟩, ⟨d, hholds.1 hd⟩, ?_, hhighOut, ?_⟩
  · intro y e he
    exact hbetween y e (hholds.2 he)
  · exact runOn_read_of_outside hpath hnull hfile hmemory hlow hhigh hhighOut

/-- What becomes of a file of records that are accepted. -/
structure ReadsRecords (s : Setting) (path : Path) (g : Geometry) (w : World)
    (content : ByteArray) : Prop where
  /-- The records give one byte at most for an address. -/
  functional : ∀ x b c, Describes content x b → Describes content x c → b = c
  /-- Records on the device are read as the device with their bytes, if a memory holds it. -/
  image : (∃ x b, Describes content x b) → (∀ x b, Describes content x b → x < g.totalSize) →
    g.totalSize < memoryBound →
    ∃ image, (read s path g).runOn w = (.ok image, w) ∧ image.IsDeviceOf g (Describes content)
  /-- There is no room for a device that is larger than any memory. -/
  beyond : (∃ x b, Describes content x b) → (∀ x b, Describes content x b → x < g.totalSize) →
    memoryBound ≤ g.totalSize → (read s path g).runOn w = (.error (.slip .noMemory), w)
  /-- Records that reach beyond the device are refused with their lowest and highest address. -/
  outside : (∃ x b, Describes content x b ∧ g.totalSize ≤ x) →
    ∃ low high, (∃ b, Describes content low b) ∧ (∃ b, Describes content high b) ∧
      (∀ x b, Describes content x b → low ≤ x ∧ x ≤ high) ∧ g.totalSize ≤ high ∧
      (read s path g).runOn w =
        (.error (Failure.outsideFlash path low high g.totalSize).worded, w)
  /-- Records without data are refused as content that is too short. -/
  dataless : (∀ x b, ¬ Describes content x b) →
    (read s path g).runOn w = (.error (Failure.wrongSize 0 g.totalSize).worded, w)
  /-- These are all that are refused as bad data. -/
  refused : (∃ failure, ((read s path g).runOn w).1 = .error failure ∧ failure.kind = .data) ↔
    (∃ x b, Describes content x b ∧ g.totalSize ≤ x) ∨ ∀ x b, ¬ Describes content x b
  /-- An erased device is read only of records that erase a part of it: none of their bytes is
  anything else, and none is meant for an address beyond it. -/
  blank : ∀ image, ((read s path g).runOn w).1 = .ok image →
    (∀ b ∈ image.data.data.toList, b = erasedByte) →
    ∀ x b, Describes content x b → x < g.totalSize ∧ b = erasedByte

/-- **What a file of records is read as.** Each byte of the records comes to its place on the device
and no other one does, and a file with a byte that has no place there is refused; so is a file
without data. Only for a device that is larger than any memory nothing comes of records that have
their place there. -/
theorem read_records (g : Geometry) (hpath : path.isHex = true)
    (hnull : Action.hasNull path.render = false)
    (hfile : w.tree.status s.directory path.render = .ok (.file mode content))
    (haccepted : ∃ memory, Memory.ofFile content = .ok memory) :
    ReadsRecords s path g w content := by
  obtain ⟨memory, hmemory⟩ := haccepted
  have hwithin := runOn_read_of_within (g := g) hpath hnull hfile hmemory
  have houtside := exists_runOn_read_of_beyond (g := g) hpath hnull hfile hmemory
  have hdataless : (∀ x b, ¬ Describes content x b) →
      (read s path g).runOn w = (.error (Failure.wrongSize 0 g.totalSize).worded, w) := by
    intro hnone
    exact runOn_read_of_no_keys hpath hnull hfile hmemory (minKey?_of_dataless hmemory hnone)
  refine ⟨?_, fun hsome hin => (hwithin hsome hin).1, fun hsome hin => (hwithin hsome hin).2,
    houtside, hdataless, ⟨?_, ?_⟩, ?_⟩
  · intro x b c hb hc
    have hsame := (Memory.getElem?_ofFile hmemory).2 hb
    exact Option.some.inj (hsame.symm.trans ((Memory.getElem?_ofFile hmemory).2 hc))
  · rintro ⟨failure, hfailure, hkind⟩
    by_contra hcontra
    obtain ⟨hin, hsome⟩ := not_or.1 hcontra
    push Not at hin hsome
    obtain ⟨himage, hbeyond⟩ := hwithin hsome hin
    rcases Nat.lt_or_ge g.totalSize memoryBound with hsmall | hlarge
    · obtain ⟨image, hread, -⟩ := himage hsmall
      rw [hread] at hfailure
      cases hfailure
    · rw [hbeyond hlarge] at hfailure
      obtain rfl := Except.error.inj hfailure
      cases hkind
  · rintro (hout | hnone)
    · obtain ⟨low, high, -, -, -, -, hread⟩ := houtside hout
      exact ⟨_, by rw [hread], Failure.kind_worded_of_data rfl⟩
    · exact ⟨_, by rw [hdataless hnone], Failure.kind_worded_of_data rfl⟩
  · intro image hread hblank x b hb
    have hin : ∀ y c, Describes content y c → y < g.totalSize := by
      intro y c hc
      by_contra hout
      obtain ⟨low, high, -, -, -, -, hrefusal⟩ := houtside ⟨y, c, hc, by omega⟩
      rw [hrefusal] at hread
      cases hread
    obtain ⟨himage, hbeyond⟩ := hwithin ⟨x, b, hb⟩ hin
    have hsmall : g.totalSize < memoryBound := by
      refine Nat.lt_of_not_le fun hlarge => ?_
      rw [hbeyond hlarge] at hread
      cases hread
    obtain ⟨other, hother, hdevice⟩ := himage hsmall
    rw [hother] at hread
    obtain rfl := Except.ok.inj hread
    exact ⟨hin x b hb, hblank b (List.mem_of_getElem? (hdevice.byte x b hb))⟩

/-! ## Small files -/

/-- What a file gives is read off the entries of its memory. -/
theorem exists_memory_of_entries {text : String} {entries : List (Nat × UInt8)}
    (h : (Memory.ofFile text.toUTF8).toOption.map (·.toList) = some entries) :
    (∃ memory, Memory.ofFile text.toUTF8 = .ok memory) ∧
      ∀ x b, Describes text.toUTF8 x b ↔ (x, b) ∈ entries := by
  cases hmemory : Memory.ofFile text.toUTF8 with
  | error fault =>
    rw [hmemory] at h
    cases h
  | ok memory =>
    rw [hmemory] at h
    refine ⟨⟨memory, rfl⟩, ?_⟩
    intro x b
    rw [← Option.some.inj h, Std.TreeMap.mem_toList_iff_getElem?_eq_some,
      Memory.getElem?_ofFile hmemory]

/-- Records out of order, with a hole between them, are read as the small device with their
bytes. -/
theorem read_records_with_hole :
    let text := ":020004000102F7\n:0100000007F8\n:00000001FF\n"
    let w := World.ofTree (recordsTree text)
    ReadsRecords .atRoot (Path.ofString "x.hex") smallDevice w text.toUTF8 ∧
      ∃ image, (read .atRoot (Path.ofString "x.hex") smallDevice).runOn w = (.ok image, w) ∧
        image.data.data.toList[0]? = some 7 ∧ image.data.data.toList[3]? = some erasedByte ∧
        image.data.data.toList[4]? = some 1 := by
  intro text w
  have hentries : (Memory.ofFile text.toUTF8).toOption.map (·.toList) =
      some [(0, 7), (4, 1), (5, 2)] := by
    decide +kernel
  obtain ⟨haccepted, hgives⟩ := exists_memory_of_entries hentries
  have hreads : ReadsRecords .atRoot (Path.ofString "x.hex") smallDevice w text.toUTF8 :=
    read_records smallDevice (by decide) (by decide) (status_recordsTree text) haccepted
  have hin : ∀ x b, Describes text.toUTF8 x b → x < smallDevice.totalSize := by
    intro x b hb
    have hmem := (hgives x b).1 hb
    have htotal : smallDevice.totalSize = 64 := rfl
    simp only [List.mem_cons, List.not_mem_nil, or_false, Prod.mk.injEq] at hmem
    omega
  obtain ⟨image, hread, hdevice⟩ :=
    hreads.image ⟨0, 7, (hgives 0 7).2 (by decide)⟩ hin (by decide)
  refine ⟨hreads, image, hread, ?_, ?_, ?_⟩
  · exact hdevice.byte 0 7 ((hgives 0 7).2 (by decide))
  · refine hdevice.erased 3 (by decide) ?_
    intro b hb
    simpa using (hgives 3 b).1 hb
  · exact hdevice.byte 4 1 ((hgives 4 1).2 (by decide))

/-- A file of records that sets a base and gives no byte is accepted as records, and refused as an
image. -/
theorem read_base_without_data :
    let text := ":020000042000DA\n:00000001FF\n"
    let w := World.ofTree (recordsTree text)
    (∃ memory, Memory.ofFile text.toUTF8 = .ok memory) ∧
      (∀ x b, ¬ Describes text.toUTF8 x b) ∧
      (read .atRoot (Path.ofString "x.hex") smallDevice).runOn w =
        (.error (Failure.wrongSize 0 64).worded, w) := by
  intro text w
  have hentries : (Memory.ofFile text.toUTF8).toOption.map (·.toList) = some [] := by
    decide +kernel
  obtain ⟨haccepted, hgives⟩ := exists_memory_of_entries hentries
  obtain ⟨memory, hmemory⟩ := haccepted
  have hnone : ∀ x b, ¬ Describes text.toUTF8 x b := by
    intro x b hb
    simpa using (hgives x b).1 hb
  refine ⟨⟨memory, hmemory⟩, hnone, ?_⟩
  exact runOn_read_of_no_keys (g := smallDevice) (by decide) (by decide)
    (status_recordsTree text) hmemory (minKey?_of_dataless hmemory hnone)

end Image

end NorFlash
