import NorFlash.Proofs.Image.Regions

/-!
# Erasing a range

What erasing does to a buffer (`Image.ErasedBetween`), for bounds of any sign and order: either all
bytes between them become erased and no other byte changes, or the range is refused
(`Image.erase_outcome`). The metadata of an image is erased last, so that it reads as erased by any
layout, whatever was copied over it before (`Image.metadata_erased`).
-/

namespace NorFlash

variable {layout : Layout} {g : Geometry} {artifact buffer data : ByteArray} {image : Image}

namespace Image

/-! ## Buffers -/

/-- A buffer before and after the bytes from `start` up to `stop` were erased. -/
structure ErasedBetween (start stop : Int) (before after : ByteArray) : Prop where
  /-- The size is kept. -/
  size : after.size = before.size
  /-- Each byte of the range is there, and it is erased. -/
  inside : ∀ k : Nat, start ≤ k → k < stop → after.data.toList[k]? = some erasedByte
  /-- All other bytes are kept. -/
  outside : ∀ k : Nat, ¬ (start ≤ k ∧ k < stop) → after.data.toList[k]? = before.data.toList[k]?

/-- What a buffer holds after a range of it was to be erased. -/
def afterErase (buffer : ByteArray) (start stop : Int) : ByteArray :=
  match erase buffer start stop with
  | .ok data => data
  | .error _ => buffer

theorem erasedBetween_of_erase {start stop : Int} (h : erase buffer start stop = .ok data) :
    ErasedBetween start stop buffer data := by
  obtain ⟨hbounds, hsize, hbyte⟩ := of_erase_eq_ok h
  refine ⟨hsize, fun k hstart hstop => ?_, fun k hout => ?_⟩
  · rw [Bytes.getElem?_toList_eq_ite, if_pos (by omega), hbyte, if_pos ⟨hstart, hstop⟩]
  · rw [Bytes.getElem?_toList_eq_ite, Bytes.getElem?_toList_eq_ite, hsize, hbyte, if_neg hout]

/-- A range is erased if its bounds are in order and lie in the buffer, and it is refused as bad
data otherwise, which leaves the buffer as it is. -/
theorem erase_outcome (buffer : ByteArray) (start stop : Int) :
    if 0 ≤ start ∧ start ≤ stop ∧ stop ≤ buffer.size then
      erase buffer start stop = .ok (afterErase buffer start stop) ∧
        ErasedBetween start stop buffer (afterErase buffer start stop)
    else
      erase buffer start stop = .error (.eraseRange start stop) ∧
        (Failure.ofImage (.eraseRange start stop)).kind = .data ∧
        afterErase buffer start stop = buffer := by
  rw [afterErase]
  split
  · next hbounds =>
    have herase : ∃ data, erase buffer start stop = .ok data := by
      rw [erase, if_pos hbounds]
      exact ⟨_, rfl⟩
    obtain ⟨data, hdata⟩ := herase
    rw [hdata]
    exact ⟨rfl, erasedBetween_of_erase hdata⟩
  · next hbounds =>
    have hrefused : erase buffer start stop = .error (.eraseRange start stop) := by
      rw [erase, if_neg hbounds]
    rw [hrefused]
    exact ⟨rfl, rfl, rfl⟩

/-! ## Metadata -/

/-- The content of an image is the programmed device with its metadata region erased. -/
theorem erase_of_compose (h : compose layout g artifact = .ok image) :
    image.layout = layout ∧
      erase (programmed layout g artifact) layout.metadata.offset layout.metadata.stop =
        .ok image.data := by
  obtain ⟨haccepts, -⟩ := of_compose_by_regions h
  have hindex : memoryBound ≤ indexBound := by decide
  have hmemory := haccepts.memory
  have hcapacity := haccepts.capacity
  rw [compose, if_neg (by simp [haccepts.total, haccepts.block]), if_neg (by omega),
    if_neg (by omega), if_neg (by omega)] at h
  cases herase : erase (programmed layout g artifact) layout.metadata.offset
      layout.metadata.stop with
  | error fault =>
    rw [herase] at h
    cases h
  | ok data =>
    rw [herase] at h
    obtain rfl := Except.ok.inj h
    exact ⟨rfl, rfl⟩

/-- A slice of erased bytes that lies in its string. -/
theorem toList_slice_of_erasedBetween {i j : Nat} (hij : i ≤ j) (hj : j ≤ buffer.size)
    (h : ErasedBetween i j buffer data) :
    (Bytes.slice data i j).data.toList = List.replicate (j - i) erasedByte := by
  have hsize : (Bytes.slice data i j).size = j - i := by
    rw [Bytes.size_slice, h.size]
    omega
  refine List.ext_getElem? fun k => ?_
  rw [Bytes.getElem?_toList_eq_ite, hsize, List.getElem?_replicate]
  split
  · next hk =>
    have hbyte := h.inside (i + k) (by omega) (by omega)
    rw [Bytes.byte_slice, if_pos (by omega), Bytes.byte, hbyte, Option.getD_some]
  · rfl

/-- **The metadata is erased.** By any layout for which there is an image, whether its regions
overlap, are displaced or lie beyond the device, the metadata has the size of its region and is
erased, also where the artifact was copied over it, and every byte outside of the region is as it
was after the copy. The reason is what erasing does to any buffer: bounds that are in order and lie
in it are those of exactly the bytes that become erased, and all others are refused as bad data,
which leaves the buffer as it is. -/
theorem metadata_erased (layout : Layout) (g : Geometry) (artifact : ByteArray) :
    (∀ image, compose layout g artifact = .ok image →
      (image.metadata.size : Int) = layout.metadata.size ∧
      image.metadata.data.toList = List.replicate layout.metadata.size.toNat erasedByte ∧
      image.data = afterErase (programmed layout g artifact) layout.metadata.offset
        layout.metadata.stop ∧
      ErasedBetween layout.metadata.offset layout.metadata.stop (programmed layout g artifact)
        image.data) ∧
    ∀ buffer start stop,
      if 0 ≤ start ∧ start ≤ stop ∧ stop ≤ buffer.size then
        erase buffer start stop = .ok (afterErase buffer start stop) ∧
          ErasedBetween start stop buffer (afterErase buffer start stop)
      else
        erase buffer start stop = .error (.eraseRange start stop) ∧
          (Failure.ofImage (.eraseRange start stop)).kind = .data ∧
          afterErase buffer start stop = buffer := by
  refine ⟨fun image h => ?_, erase_outcome⟩
  obtain ⟨haccepts, -⟩ := of_compose_by_regions h
  obtain ⟨hlayout, herase⟩ := erase_of_compose h
  have herased := erasedBetween_of_erase herase
  -- both bounds are places in the content
  have hordered := haccepts.ordered
  have hends := haccepts.ends
  obtain ⟨i, hi⟩ := Int.eq_ofNat_of_zero_le haccepts.metadata
  obtain ⟨j, hj⟩ := Int.eq_ofNat_of_zero_le (Int.le_trans haccepts.metadata hordered)
  have hstop : layout.metadata.stop = layout.metadata.offset + layout.metadata.size := rfl
  have hsize : layout.metadata.size = ((j - i : Nat) : Int) := by omega
  have hmetadata : image.metadata.data.toList = List.replicate (j - i) erasedByte := by
    rw [metadata, hlayout, hi, hj]
    rw [hi, hj] at herased
    exact toList_slice_of_erasedBetween (by omega) (by omega) herased
  refine ⟨?_, ?_, ?_, herased⟩
  · rw [← Bytes.length_toList, hmetadata, List.length_replicate, hsize]
  · rw [hmetadata, hsize, Int.toNat_natCast]
  · rw [afterErase, herase]

/-- The last two of three bytes are lost to metadata that lies over them, and the first one is
kept. -/
theorem metadata_erased_over_artifact :
    let layout : Layout := ⟨smallDevice, ⟨0, 48⟩, ⟨1, 2⟩⟩
    ∃ image, compose layout smallDevice ⟨#[1, 2, 3]⟩ = .ok image ∧
      image.metadata.data.toList = [erasedByte, erasedByte] ∧
      image.data.data.toList[0]? = some 1 := by
  intro layout
  have haccepts : layout.Accepts smallDevice ⟨#[1, 2, 3]⟩ := by
    refine ⟨rfl, rfl, by decide, by decide, by decide, by decide, ?_⟩
    have hsize := totalSize_le_size_programmed layout smallDevice ⟨#[1, 2, 3]⟩
    have htotal : layout.metadata.stop ≤ (smallDevice.totalSize : Int) := by decide
    omega
  obtain ⟨image, h⟩ := exists_compose_iff.2 haccepts
  obtain ⟨-, hmetadata, -, herased⟩ := (metadata_erased layout smallDevice ⟨#[1, 2, 3]⟩).1 image h
  refine ⟨image, h, hmetadata, ?_⟩
  rw [herased.outside 0 (by decide), toList_programmed_position]
  rfl

end Image

end NorFlash
