import NorFlash.Proofs.Fit

/-!
# Images by other regions

`Image.compose` takes any layout for a device of the right sizes, also one whose regions were not
derived from the device. The bytes of the image it makes are known one by one (`Image.byteAt`), and
so are the layouts that have an image at all (`Layout.Accepts`) and those whose image has the size
of the device, the artifact as its code and an erased gap (`Layout.Suits`, `compose_by_regions`).
The layout of a device is one of these. Others are not, and they have an image nevertheless: one in
which the artifact was moved or erased in part, or one that is longer than the device.
-/

namespace NorFlash

variable {layout : Layout} {g : Geometry} {artifact : ByteArray} {image : Image}

/-! ## Splicing at any bounds -/

/-- A splice keeps what is below its first bound and from its last bound on. -/
theorem Bytes.toList_splice_position (b new : ByteArray) (start stop : Int) :
    (splice b start stop new).data.toList =
      b.data.toList.take (position b.size start) ++ new.data.toList ++
        b.data.toList.drop (max (position b.size start) (position b.size stop)) := by
  have hlen := length_toList b
  simp only [splice, ByteArray.data_append, Array.toList_append, toList_extract, List.drop_zero]
  rw [← hlen, List.take_length]

/-- The byte `k` of a string, erased where there is none. -/
def Bytes.byte (b : ByteArray) (k : Nat) : UInt8 :=
  b.data.toList[k]?.getD erasedByte

theorem Bytes.byte_of_lt {b : ByteArray} {k : Nat} (h : k < b.size) : Bytes.byte b k = b[k] := by
  rw [Bytes.byte, getElem_toList b k h]
  rfl

theorem Bytes.byte_of_le {b : ByteArray} {k : Nat} (h : b.size ≤ k) :
    Bytes.byte b k = erasedByte := by
  rw [Bytes.byte, List.getElem?_eq_none (by rwa [length_toList])]
  rfl

/-- A string has its bytes below its size and none above. -/
theorem Bytes.getElem?_toList_eq_ite (b : ByteArray) (k : Nat) :
    b.data.toList[k]? = if k < b.size then some (Bytes.byte b k) else none := by
  split
  · next h => rw [getElem_toList b k h, Bytes.byte_of_lt h]
  · next h => rw [List.getElem?_eq_none (by rw [length_toList]; omega)]

/-- Two strings of one size are equal if their bytes are. -/
theorem Bytes.eq_of_byte {a b : ByteArray} (hsize : a.size = b.size)
    (h : ∀ k < a.size, Bytes.byte a k = Bytes.byte b k) : a = b := by
  refine ByteArray.ext_getElem hsize fun k ha hb => ?_
  rw [← Bytes.byte_of_lt ha, ← Bytes.byte_of_lt hb, h k ha]

theorem Bytes.byte_slice (b : ByteArray) (i j k : Nat) :
    Bytes.byte (slice b i j) k = if i + k < j then Bytes.byte b (i + k) else erasedByte := by
  rw [Bytes.byte, toList_slice, List.getElem?_drop]
  split
  · next h =>
    rw [List.getElem?_take_of_lt h]
    rfl
  · next h =>
    rw [List.getElem?_eq_none (by rw [List.length_take]; omega)]
    rfl

theorem Bytes.size_slice (b : ByteArray) (i j : Nat) : (slice b i j).size = min j b.size - i := by
  rw [← length_toList, toList_slice, List.length_drop, List.length_take, length_toList]

theorem Image.isErased_iff_byte {b : ByteArray} :
    isErased b = true ↔ ∀ k, Bytes.byte b k = erasedByte := by
  rw [isErased, Bytes.all_iff]
  constructor
  · intro h k
    rcases Nat.lt_or_ge k b.size with hk | hk
    · have hmem : b[k] ∈ b.data.toList := List.mem_of_getElem? (Bytes.getElem_toList b k hk)
      rw [Bytes.byte_of_lt hk, h _ hmem]
    · exact Bytes.byte_of_le hk
  · intro h y hy
    obtain ⟨k, hk⟩ := List.getElem?_of_mem hy
    rw [← h k, Bytes.byte, hk, Option.getD_some]

/-! ## Where an artifact goes -/

namespace Layout

/-- The place on a device where an artifact is copied to. -/
def start (layout : Layout) (g : Geometry) : Nat :=
  Bytes.position g.totalSize layout.code.offset

/-- The place from which on a device stays as it is when an artifact is copied to it. -/
def finish (layout : Layout) (g : Geometry) (artifact : ByteArray) : Nat :=
  max (layout.start g) (Bytes.position g.totalSize (layout.code.offset + artifact.size))

/-- The artifact lies on the device. Its place may count from the end of the device. -/
def Inside (layout : Layout) (g : Geometry) (artifact : ByteArray) : Prop :=
  artifact.size = 0 ∨
    (0 ≤ layout.code.offset ∧ layout.code.offset + artifact.size ≤ g.totalSize) ∨
    (-(g.totalSize : Int) ≤ layout.code.offset ∧ layout.code.offset + artifact.size < 0)

/-- A layout by which an image of an artifact is composed. -/
structure Accepts (layout : Layout) (g : Geometry) (artifact : ByteArray) : Prop where
  /-- The layout was planned for a device of this size. -/
  total : layout.geometry.totalSize = g.totalSize
  /-- The layout was planned for a device of these blocks. -/
  block : layout.geometry.blockSize = g.blockSize
  /-- The artifact is not longer than the code region. -/
  capacity : artifact.size ≤ layout.codeCapacity
  /-- There is memory for the device. -/
  memory : g.totalSize < Image.memoryBound
  /-- The metadata starts on the device. -/
  metadata : 0 ≤ layout.metadata.offset
  /-- The metadata is not reversed. -/
  ordered : layout.metadata.offset ≤ layout.metadata.stop
  /-- The metadata ends where the content ends at the latest. -/
  ends : layout.metadata.stop ≤ (Image.programmed layout g artifact).size

/-- A layout by which the image of an artifact is a whole device that starts with the artifact. -/
structure Suits (layout : Layout) (g : Geometry) (artifact : ByteArray) : Prop where
  /-- The artifact lies on the device. -/
  inside : layout.Inside g artifact
  /-- Each programmed byte of the artifact is copied to the start and kept when the metadata is
  erased. -/
  kept : ∀ k, Bytes.byte artifact k ≠ erasedByte →
    (layout.code.offset = 0 ∨ layout.code.offset = -(g.totalSize : Int)) ∧
      ¬ (layout.metadata.offset ≤ k ∧ k < layout.metadata.stop)

end Layout

namespace Image

/-! ## The bytes of an image -/

/-- The content of a device after an artifact was copied to the start of the code region. -/
theorem toList_programmed_position (layout : Layout) (g : Geometry) (artifact : ByteArray) :
    (programmed layout g artifact).data.toList =
      List.replicate (layout.start g) erasedByte ++ artifact.data.toList ++
        List.replicate (g.totalSize - layout.finish g artifact) erasedByte := by
  have hfilled := Bytes.toList_filled g.totalSize erasedByte
  have hsize : (Bytes.filled g.totalSize erasedByte).size = g.totalSize := by
    rw [← Bytes.length_toList, hfilled, List.length_replicate]
  rw [programmed, Bytes.toList_splice_position, hsize, hfilled, List.take_replicate,
    Nat.min_eq_left (Bytes.position_le _ _), List.drop_replicate]
  rfl

theorem size_programmed (layout : Layout) (g : Geometry) (artifact : ByteArray) :
    (programmed layout g artifact).size =
      layout.start g + artifact.size + (g.totalSize - layout.finish g artifact) := by
  rw [← Bytes.length_toList, toList_programmed_position]
  simp only [List.length_append, List.length_replicate, Bytes.length_toList]

/-- The content is never shorter than the device. -/
theorem totalSize_le_size_programmed (layout : Layout) (g : Geometry) (artifact : ByteArray) :
    g.totalSize ≤ (programmed layout g artifact).size := by
  rw [size_programmed, Layout.finish, Layout.start]
  simp only [Bytes.position]
  split <;> split <;> omega

/-- The content has the size of the device exactly if the artifact lies on the device. -/
theorem size_programmed_iff :
    (programmed layout g artifact).size = g.totalSize ↔ layout.Inside g artifact := by
  have hpos : 0 < g.totalSize := Nat.lt_of_lt_of_le g.blockSize_pos g.blockSize_le_totalSize
  rw [size_programmed, Layout.finish, Layout.start, Layout.Inside]
  generalize layout.code.offset = off
  generalize artifact.size = n
  simp only [Bytes.position]
  split <;> split <;> omega

theorem byte_programmed (k : Nat) :
    Bytes.byte (programmed layout g artifact) k =
      if k < layout.start g then erasedByte else Bytes.byte artifact (k - layout.start g) := by
  have hlen := Bytes.length_toList artifact
  rw [Bytes.byte, toList_programmed_position, List.append_assoc, List.getElem?_append,
    List.length_replicate]
  split
  · next h => rw [List.getElem?_replicate_of_lt h, Option.getD_some]
  · rw [List.getElem?_append]
    split
    · rfl
    · next h =>
      rw [Bytes.byte_of_le (by omega), List.getElem?_replicate]
      split <;> rfl

/-- A buffer after the bytes from `start` up to `stop` were erased. -/
theorem of_erase_eq_ok {buffer data : ByteArray} {start stop : Int}
    (h : erase buffer start stop = .ok data) :
    (0 ≤ start ∧ start ≤ stop ∧ stop ≤ buffer.size) ∧ data.size = buffer.size ∧
      ∀ k, Bytes.byte data k =
        if start ≤ k ∧ k < stop then erasedByte else Bytes.byte buffer k := by
  rw [erase] at h
  split at h
  · next hbounds =>
    obtain rfl := Except.ok.inj h
    obtain ⟨a, rfl⟩ := Int.eq_ofNat_of_zero_le hbounds.1
    obtain ⟨b, rfl⟩ := Int.eq_ofNat_of_zero_le (Int.le_trans hbounds.1 hbounds.2.1)
    have hlen := Bytes.length_toList buffer
    have hlist := Bytes.toList_splice buffer (Bytes.filled ((b : Int) - (a : Int)).toNat erasedByte)
      (i := a) (j := b) (by omega) (by omega)
    rw [Bytes.toList_filled, List.append_assoc] at hlist
    have htake : (buffer.data.toList.take a).length = a := by
      rw [List.length_take]
      omega
    refine ⟨hbounds, ?_, fun k => ?_⟩
    · rw [← Bytes.length_toList, hlist]
      simp only [List.length_append, List.length_replicate, List.length_take, List.length_drop]
      omega
    · rw [Bytes.byte, hlist, List.getElem?_append, htake]
      split
      · next hk =>
        rw [List.getElem?_take_of_lt hk, if_neg (by omega)]
        rfl
      · rw [List.getElem?_append, List.length_replicate]
        split
        · rw [List.getElem?_replicate_of_lt ‹_›, if_pos (by omega), Option.getD_some]
        · rw [List.getElem?_drop, if_neg (by omega), Bytes.byte]
          congr 2
          omega
  · cases h

/-- The byte `k` of the image of an artifact. -/
def byteAt (layout : Layout) (g : Geometry) (artifact : ByteArray) (k : Nat) : UInt8 :=
  if (layout.metadata.offset ≤ k ∧ k < layout.metadata.stop) ∨ k < layout.start g then erasedByte
  else Bytes.byte artifact (k - layout.start g)

/-- What the layout, the artifact and the image composed of them have to do with each other. -/
theorem of_compose_by_regions (h : compose layout g artifact = .ok image) :
    layout.Accepts g artifact ∧ image.layout = layout ∧ image.artifactSize = artifact.size ∧
      image.data.size = (programmed layout g artifact).size ∧
      ∀ k, Bytes.byte image.data k = byteAt layout g artifact k := by
  rw [compose] at h
  split at h
  · simp at h
  next hsizes =>
  split at h
  · simp at h
  next hcapacity =>
  split at h
  · simp at h
  split at h
  · simp at h
  next hmemory =>
  cases herase : erase (programmed layout g artifact) layout.metadata.offset
      layout.metadata.stop with
  | error fault =>
    rw [herase] at h
    cases h
  | ok data =>
    rw [herase] at h
    obtain rfl := Except.ok.inj h
    obtain ⟨⟨hstart, hordered, hends⟩, hsize, hat⟩ := of_erase_eq_ok herase
    refine ⟨⟨?_, ?_, by omega, by omega, hstart, hordered, hends⟩, rfl, rfl, hsize, fun k => ?_⟩
    · by_contra hne
      exact hsizes (.inl hne)
    · by_contra hne
      exact hsizes (.inr hne)
    · simp only [hat, byte_programmed, byteAt]
      by_cases hmeta : layout.metadata.offset ≤ k ∧ k < layout.metadata.stop
      · rw [if_pos hmeta, if_pos (.inl hmeta)]
      · simp only [hmeta, false_or, if_false]

/-- An image is composed exactly by the layouts that are accepted. -/
theorem exists_compose_iff :
    (∃ image, compose layout g artifact = .ok image) ↔ layout.Accepts g artifact := by
  constructor
  · rintro ⟨image, h⟩
    exact (of_compose_by_regions h).1
  · intro h
    have hindex : memoryBound ≤ indexBound := by decide
    have hmemory := h.memory
    have hcapacity := h.capacity
    rw [compose, if_neg (by simp [h.total, h.block]), if_neg (by omega), if_neg (by omega),
      if_neg (by omega), erase, if_pos ⟨h.metadata, h.ordered, h.ends⟩]
    exact ⟨_, rfl⟩

/-! ## What an image promises -/

/-- An image is a whole device that starts with an artifact, and what follows the artifact up to
the metadata is erased. -/
structure Faithful (image : Image) (g : Geometry) (artifact : ByteArray) : Prop where
  /-- The content has the size of the device. -/
  size : image.data.size = g.totalSize
  /-- The code is the artifact. -/
  code : image.code = artifact
  /-- The gap is erased. -/
  gap : isErased image.gap = true

theorem code_eq_iff (h : compose layout g artifact = .ok image) :
    image.code = artifact ↔
      ∀ k < artifact.size, byteAt layout g artifact k = Bytes.byte artifact k := by
  obtain ⟨-, -, hsize, hdata, hat⟩ := of_compose_by_regions h
  have hle : artifact.size ≤ image.data.size := by
    rw [hdata, size_programmed]
    omega
  have hcode : ∀ k < artifact.size, Bytes.byte image.code k = byteAt layout g artifact k := by
    intro k hk
    rw [code, hsize, show (0 : Int) = ((0 : Nat) : Int) from rfl, Bytes.byte_slice, Nat.zero_add,
      if_pos hk, hat]
  have hsame : image.code.size = artifact.size := by
    rw [code, hsize, show (0 : Int) = ((0 : Nat) : Int) from rfl, Bytes.size_slice]
    omega
  constructor
  · intro heq k hk
    rw [← hcode k hk, heq]
  · intro heq
    refine Bytes.eq_of_byte hsame fun k hk => ?_
    rw [hsame] at hk
    rw [hcode k hk, heq k hk]

theorem gap_erased_iff (h : compose layout g artifact = .ok image) :
    isErased image.gap = true ↔
      ∀ k, artifact.size ≤ k → (k : Int) < layout.metadata.offset →
        byteAt layout g artifact k = erasedByte := by
  obtain ⟨haccepts, hlayout, hsize, -, hat⟩ := of_compose_by_regions h
  obtain ⟨m, hm⟩ := Int.eq_ofNat_of_zero_le haccepts.metadata
  have hgap : ∀ k, Bytes.byte image.gap k =
      if artifact.size + k < m then byteAt layout g artifact (artifact.size + k)
      else erasedByte := by
    intro k
    rw [gap, hsize, hlayout, Layout.metadataOffset, hm, Bytes.byte_slice, hat]
  rw [isErased_iff_byte]
  constructor
  · intro herased k hle hlt
    have hk := herased (k - artifact.size)
    rwa [hgap, Nat.add_sub_cancel' hle, if_pos (by omega)] at hk
  · intro herased k
    rw [hgap]
    split
    · exact herased _ (by omega) (by omega)
    · rfl

/-- Where an artifact is copied to another place than the start, the code is the artifact only if
all its bytes are erased: each byte would be equal to an erased one or to one before it. -/
theorem erased_of_displaced (hstart : 0 < layout.start g)
    (h : ∀ k < artifact.size, byteAt layout g artifact k = Bytes.byte artifact k) (k : Nat) :
    Bytes.byte artifact k = erasedByte := by
  induction k using Nat.strong_induction_on with
  | _ k ih =>
    rcases Nat.lt_or_ge k artifact.size with hk | hk
    · rw [← h k hk, byteAt]
      split
      · rfl
      · exact ih _ (by omega)
    · exact Bytes.byte_of_le hk

/-- The code is the artifact and the gap is erased exactly if every programmed byte is copied to
its place and kept. -/
theorem contents_iff (h : compose layout g artifact = .ok image) :
    (image.code = artifact ∧ isErased image.gap = true) ↔
      ∀ k, Bytes.byte artifact k ≠ erasedByte →
        layout.start g = 0 ∧ ¬ (layout.metadata.offset ≤ k ∧ k < layout.metadata.stop) := by
  rw [code_eq_iff h, gap_erased_iff h]
  constructor
  · rintro ⟨hcode, -⟩ k hk
    have hsize : k < artifact.size := by
      by_contra hle
      exact hk (Bytes.byte_of_le (Nat.le_of_not_lt hle))
    have hstart : layout.start g = 0 := by
      by_contra hne
      exact hk (erased_of_displaced (Nat.pos_of_ne_zero hne) hcode k)
    refine ⟨hstart, fun hmeta => hk ?_⟩
    rw [← hcode k hsize, byteAt, if_pos (.inl hmeta)]
  · intro hkept
    -- a byte of the image is one of the artifact in its place, or erased
    have hbyte : ∀ k, byteAt layout g artifact k = Bytes.byte artifact k := by
      intro k
      by_cases hstart : layout.start g = 0
      · rw [byteAt, hstart]
        split
        · next hmeta =>
          by_contra hne
          exact (hkept k (Ne.symm hne)).2 (by omega)
        · rw [Nat.sub_zero]
      · have herased : ∀ k, Bytes.byte artifact k = erasedByte := by
          intro k
          by_contra hne
          exact hstart (hkept k hne).1
        rw [byteAt, herased, herased, ite_self]
    refine ⟨fun k _ => hbyte k, fun k hle _ => ?_⟩
    rw [hbyte, Bytes.byte_of_le hle]

/-- On the device, the place that an artifact is copied to is the start from one end or the
other. -/
theorem start_eq_zero_iff (hinside : layout.Inside g artifact) (hsize : 0 < artifact.size) :
    layout.start g = 0 ↔
      layout.code.offset = 0 ∨ layout.code.offset = -(g.totalSize : Int) := by
  rw [Layout.Inside] at hinside
  rw [Layout.start, Bytes.position]
  split <;> omega

/-- The image of an artifact is faithful exactly if the layout suits the artifact. -/
theorem faithful_iff (h : compose layout g artifact = .ok image) :
    image.Faithful g artifact ↔ layout.Suits g artifact := by
  obtain ⟨-, -, -, hsize, -⟩ := of_compose_by_regions h
  have hpos : ∀ {k}, Bytes.byte artifact k ≠ erasedByte → 0 < artifact.size := by
    intro k hk
    by_contra hzero
    exact hk (Bytes.byte_of_le (by omega))
  constructor
  · intro hfaithful
    have hinside := size_programmed_iff.1 (hsize.symm.trans hfaithful.size)
    refine ⟨hinside, fun k hk => ?_⟩
    obtain ⟨hstart, hmeta⟩ := (contents_iff h).1 ⟨hfaithful.code, hfaithful.gap⟩ k hk
    exact ⟨(start_eq_zero_iff hinside (hpos hk)).1 hstart, hmeta⟩
  · intro hsuits
    obtain ⟨hcode, hgap⟩ := (contents_iff h).2 fun k hk =>
      ⟨(start_eq_zero_iff hsuits.inside (hpos hk)).2 (hsuits.kept k hk).1, (hsuits.kept k hk).2⟩
    exact ⟨hsize.trans (size_programmed_iff.2 hsuits.inside), hcode, hgap⟩

/-- An image by the layout of a device is faithful on each device that it is composed for. -/
theorem faithful_of_derived {g' : Geometry}
    (h : compose (Layout.ofGeometry g') g artifact = .ok image) : image.Faithful g artifact := by
  obtain ⟨haccepts, -⟩ := of_compose_by_regions h
  have htotal : g.totalSize = g'.totalSize := haccepts.total.symm
  rw [compose_congr htotal haccepts.block.symm] at h
  have hholds := holdsOnly_of_compose h
  exact ⟨hholds.size.trans htotal.symm, hholds.code, hholds.gap⟩

/-- **Images by any regions.** An image that is composed is a whole device with the artifact as its
code and an erased gap exactly if the layout suits the artifact, and it has the size of the device
exactly if the artifact lies on the device. A layout is refused exactly if it is not accepted, for
which its regions do not matter as long as there is room for the artifact and the metadata lies in
the content. The layout of a device, which is the one that the program plans, has faithful images
only. -/
theorem compose_by_regions (layout : Layout) (g : Geometry) (artifact : ByteArray) :
    (∀ image, compose layout g artifact = .ok image →
      (image.Faithful g artifact ↔ layout.Suits g artifact) ∧
      (image.data.size = g.totalSize ↔ layout.Inside g artifact)) ∧
    ((∃ fault, compose layout g artifact = .error fault) ↔ ¬ layout.Accepts g artifact) ∧
    (∀ g' image, layout = Layout.ofGeometry g' → compose layout g artifact = .ok image →
      image.Faithful g artifact) := by
  refine ⟨fun image h => ⟨faithful_iff h, ?_⟩, ?_, ?_⟩
  · obtain ⟨-, -, -, hsize, -⟩ := of_compose_by_regions h
    rw [hsize, size_programmed_iff]
  · rw [← exists_compose_iff]
    cases compose layout g artifact <;> simp
  · rintro g' image rfl h
    exact faithful_of_derived h

/-! ## Other layouts -/

/-- A layout of the small device with its own metadata and a code region that starts elsewhere. -/
def codeFrom (offset : Int) : Layout :=
  ⟨smallDevice, ⟨offset, 48⟩, ⟨48, 16⟩⟩

theorem accepts_codeFrom (offset : Int) (artifact : ByteArray) (h : artifact.size ≤ 48) :
    (codeFrom offset).Accepts smallDevice artifact where
  total := rfl
  block := rfl
  capacity := Int.ofNat_le.2 h
  memory := by decide
  metadata := Int.natCast_nonneg 48
  ordered := Int.le_add_of_nonneg_right (Int.natCast_nonneg 16)
  ends := Int.ofNat_le.2 (totalSize_le_size_programmed (codeFrom offset) smallDevice artifact)

/-- A code region that starts as far before the end as the device is long is the derived one. -/
theorem compose_from_the_end :
    ∃ image, compose (codeFrom (-64)) smallDevice ⟨#[1, 2]⟩ = .ok image ∧
      image.Faithful smallDevice ⟨#[1, 2]⟩ := by
  obtain ⟨hfaithful, hrefused, -⟩ := compose_by_regions (codeFrom (-64)) smallDevice ⟨#[1, 2]⟩
  obtain ⟨image, h⟩ := exists_compose_iff.2 (accepts_codeFrom (-64) ⟨#[1, 2]⟩ (by decide))
  refine ⟨image, h, (hfaithful image h).1.2 ⟨.inr (.inr (by decide)), fun k hk => ?_⟩⟩
  have hlt : k < 2 := by
    by_contra hle
    exact hk (Bytes.byte_of_le (Nat.le_of_not_lt hle))
  refine ⟨.inr rfl, fun hmeta => ?_⟩
  simp only [codeFrom] at hmeta
  omega

/-- Two bytes are copied to the second block instead of the start, and beyond the end of the
device. Both layouts are taken. -/
theorem compose_elsewhere :
    (∃ image, compose (codeFrom 16) smallDevice ⟨#[1, 2]⟩ = .ok image ∧
      image.code ≠ ⟨#[1, 2]⟩ ∧ isErased image.gap = false) ∧
    (∃ image, compose (codeFrom 63) smallDevice ⟨#[1, 2]⟩ = .ok image ∧ image.data.size = 65) := by
  constructor
  · obtain ⟨image, h⟩ := exists_compose_iff.2 (accepts_codeFrom 16 ⟨#[1, 2]⟩ (by decide))
    refine ⟨image, h, fun hcode => ?_, ?_⟩
    · exact absurd ((code_eq_iff h).1 hcode 0 (by decide)) (by decide)
    · rw [← Bool.not_eq_true, gap_erased_iff h]
      exact fun herased => absurd (herased 16 (by decide) (by decide)) (by decide)
  · obtain ⟨image, h⟩ := exists_compose_iff.2 (accepts_codeFrom 63 ⟨#[1, 2]⟩ (by decide))
    obtain ⟨-, -, -, hsize, -⟩ := of_compose_by_regions h
    exact ⟨image, h, by rw [hsize, size_programmed]; decide⟩

end Image

end NorFlash
