import NorFlash.ImageFile
import NorFlash.Proofs.Action
import NorFlash.Proofs.FileTree.Locate
import NorFlash.Proofs.TrialLog

/-!
# Judging image files

What `Image.check` accepts. A file that is taken as it is passes exactly when it has the size of the
device and the whole words of its metadata block hold a log (`runOn_check_flat`). Bytes after the
last whole word are judged only where the block is erased as a whole, so a log in a block that is
not made of whole words may be followed by programmed bytes.

Records are laid out on the whole device before anything is judged. For a device that no memory
holds this fails in a way that a check does not expect (`IsBeyondMemory`); on all other files it
answers (`runOn_check_file`).
-/

namespace NorFlash.Image

open TrialLog (Holds wordSize)

/-! ## Metadata -/

/-- The metadata block in the content of a device. -/
def metadataBytes (g : Geometry) (content : ByteArray) : List UInt8 :=
  content.data.toList.drop g.metadataOffset

/-- The whole words of the metadata block in the content of a device. -/
def metadataWords (g : Geometry) (content : ByteArray) : List UInt8 :=
  (metadataBytes g content).take (wordSize * (g.blockSize / wordSize))

/-- The bytes of the metadata block after its last whole word. -/
def partialWord (g : Geometry) (content : ByteArray) : List UInt8 :=
  (metadataBytes g content).drop (wordSize * (g.blockSize / wordSize))

theorem holds_nil_of_erased {bytes : List UInt8} (h : ∀ b ∈ bytes, b = erasedByte) :
    Holds bytes [] :=
  ⟨bytes.length, by rw [← List.eq_replicate_of_mem h]; rfl⟩

/-- Metadata passes when it is consistent as a log; erased metadata is an empty log. -/
theorem checkMetadata_eq (i : Image) :
    i.checkMetadata =
      if (TrialLog.scan i.metadata).isConsistent? i.metadata = some true then .ok ()
      else .error (.badMetadata i.layout.metadataOffset (TrialLog.scan i.metadata).nextIndex) := by
  rw [checkMetadata]
  split
  · next herased =>
    rw [isErased, Bytes.all_iff] at herased
    have hholds :
        Holds (i.metadata.data.toList.take (wordSize * (i.metadata.size / wordSize))) [] :=
      holds_nil_of_erased fun b hb => herased b (List.mem_of_mem_take hb)
    rw [if_pos ((TrialLog.isConsistent?_scan_iff _).2 ⟨[], hholds⟩)]
  · obtain ⟨verdict, hverdict⟩ :
        ∃ b, (TrialLog.scan i.metadata).isConsistent? i.metadata = some b :=
      ⟨_, TrialLog.isConsistent?_scan i.metadata⟩
    simp only [hverdict]
    cases verdict <;> rfl

/-! ## Content taken as it is -/

/-- The image in the content of a device. -/
def ofContent (g : Geometry) (content : ByteArray) : Image :=
  ⟨Layout.ofGeometry g, Bytes.trimBelow content erasedByte g.metadataOffset, content⟩

theorem ofBytes_eq {g : Geometry} {content : ByteArray} (h : content.size = g.totalSize) :
    ofBytes content g = .ok (ofContent g content) := by
  rw [ofBytes, if_neg (by simp [h])]
  rfl

theorem toList_metadata_ofContent {g : Geometry} {content : ByteArray}
    (h : content.size = g.totalSize) :
    (ofContent g content).metadata.data.toList = metadataBytes g content := by
  have hstop : (Layout.ofGeometry g).metadata.stop = (g.totalSize : Int) := by
    rw [← g.metadataOffset_add_blockSize]
    rfl
  rw [metadata]
  simp only [ofContent, hstop]
  rw [show (Layout.ofGeometry g).metadata.offset = (g.metadataOffset : Int) from rfl,
    Bytes.toList_slice, ← h, ← Bytes.length_toList, List.take_length]
  rfl

theorem size_metadata_ofContent {g : Geometry} {content : ByteArray}
    (h : content.size = g.totalSize) : (ofContent g content).metadata.size = g.blockSize := by
  have hoff := g.metadataOffset_add_blockSize
  rw [← Bytes.length_toList, toList_metadata_ofContent h, metadataBytes, List.length_drop,
    Bytes.length_toList]
  omega

theorem consistent_ofContent_iff {g : Geometry} {content : ByteArray}
    (h : content.size = g.totalSize) :
    (TrialLog.scan (ofContent g content).metadata).isConsistent? (ofContent g content).metadata
        = some true ↔ ∃ trials, Holds (metadataWords g content) trials := by
  rw [TrialLog.isConsistent?_scan_iff, size_metadata_ofContent h, toList_metadata_ofContent h]
  rfl

/-! ## Runs of the check -/

variable {s : Setting} {path : Path} {g : Geometry} {w : World}

theorem runOn_readFile {mode : Nat} {content : ByteArray}
    (hnull : Action.hasNull path.render = false)
    (hfile : w.tree.status s.directory path.render = .ok (.file mode content)) :
    (Action.readFile s path).runOn w = (.ok content, w) := by
  have hread : w.tree.read s.directory path.render = .ok content := by
    rw [FileTree.read, hfile]
  simp only [Action.readFile, hnull, Bool.false_eq_true, if_false]
  rw [Action.runOn_bind_ok (Action.runOn_tree w), hread]
  rfl

/-- Only a file is read. -/
theorem of_runOn_readFile {content : ByteArray}
    (h : ((Action.readFile s path).runOn w).1 = .ok content) :
    Action.hasNull path.render = false ∧
      ∃ mode, w.tree.status s.directory path.render = .ok (.file mode content) := by
  rw [Action.readFile] at h
  split at h
  · cases h
  · next hnull =>
    refine ⟨Bool.eq_false_iff.2 hnull, FileTree.read_eq_ok_iff.1 ?_⟩
    rw [Action.runOn_bind_ok (Action.runOn_tree w)] at h
    cases hread : w.tree.read s.directory path.render with
    | ok data =>
      rw [hread] at h
      exact congrArg Except.ok (Except.ok.inj h)
    | error errno =>
      rw [hread] at h
      cases h

/-- No image is read where the path leads to nothing. -/
theorem runOn_read_of_locate {errno : Errno} (hnull : Action.hasNull path.render = false)
    (hlocate : w.tree.locate s.directory true path.render = .error errno) :
    (read s path g).runOn w = (.error (.file (.file (.of errno path.render))), w) := by
  have hread : w.tree.read s.directory path.render = .error errno := by
    rw [FileTree.read, FileTree.status, FileTree.find, hlocate]
  have hfail : (Action.readFile s path).runOn w =
      (.error (.file (.file (.of errno path.render))), w) := by
    simp only [Action.readFile, hnull, Bool.false_eq_true, if_false]
    rw [Action.runOn_bind_ok (Action.runOn_tree w), hread]
    rfl
  rw [read, Action.runOn_bind_error hfail]

/-- An image is read from what is decoded of a file. -/
theorem runOn_read {mode : Nat} {content data : ByteArray}
    (hnull : Action.hasNull path.render = false)
    (hfile : w.tree.status s.directory path.render = .ok (.file mode content))
    (hdecode : decode path g content = .ok data) :
    (read s path g).runOn w =
      match ofBytes data g with
      | .ok image => (.ok image, w)
      | .error fault => (.error (Failure.ofImage fault).worded, w) := by
  rw [read, Action.runOn_bind_ok (runOn_readFile hnull hfile), hdecode,
    Action.runOn_bind_ok (Action.runOn_ofExcept_ok w id data)]
  cases ofBytes data g with
  | ok image => exact Action.runOn_ofExcept_ok w _ image
  | error fault => exact Action.runOn_ofExcept_error w _ fault

/-- A check ends with an answer unless the reading of the file slips. -/
theorem runOn_check (s : Setting) (path : Path) (g : Geometry) (w : World) :
    (check s path g).runOn w =
      match (examine s path g).runOn w with
      | (.ok (), w') => (.ok true, w')
      | (.error failure, w') =>
        if failure.kind = .slip then (.error failure, w')
        else (.ok false,
          { w' with log := w'.log ++ [⟨.error, "Exception: " ++ failure.message⟩] }) := by
  rw [check, Action.runOn_bind_ok (Action.runOn_attempt _)]
  cases (examine s path g).runOn w with
  | mk result w' =>
    cases result with
    | ok _ => rfl
    | error failure =>
      by_cases hslip : failure.kind = .slip
      · simp only [if_pos hslip]
        rfl
      · simp only [if_neg hslip]
        rfl

/-- The verdict on content that is taken as it is. -/
def verdict (g : Geometry) (content : ByteArray) : Bool :=
  decide (content.size = g.totalSize ∧
    (TrialLog.scan (ofContent g content).metadata).isConsistent? (ofContent g content).metadata
      = some true)

/-- The image in the content of a device is judged once it is read. -/
theorem runOn_check_of_read {data : ByteArray}
    (hread : (read s path g).runOn w =
      match ofBytes data g with
      | .ok image => (.ok image, w)
      | .error fault => (.error (Failure.ofImage fault).worded, w)) :
    ∃ log, (check s path g).runOn w = (.ok (verdict g data), { w with log := log }) := by
  by_cases hsize : data.size = g.totalSize
  · rw [ofBytes_eq hsize] at hread
    by_cases hlog : (TrialLog.scan (ofContent g data).metadata).isConsistent?
        (ofContent g data).metadata = some true
    · have hmeta : (ofContent g data).checkMetadata = .ok () := by
        rw [checkMetadata_eq, if_pos hlog]
      have hverdict : verdict g data = true := by
        rw [verdict, decide_eq_true_iff]
        exact ⟨hsize, hlog⟩
      rw [runOn_check, examine, Action.runOn_bind_ok hread, hmeta,
        Action.runOn_bind_ok (Action.runOn_ofExcept_ok w id ()), hverdict]
      exact ⟨_, rfl⟩
    · have hmeta : (ofContent g data).checkMetadata = .error (.badMetadata
          (ofContent g data).layout.metadataOffset
          (TrialLog.scan (ofContent g data).metadata).nextIndex) := by
        rw [checkMetadata_eq, if_neg hlog]
      have hverdict : verdict g data = false := by
        rw [verdict, decide_eq_false_iff_not]
        exact fun h => hlog h.2
      rw [runOn_check, examine, Action.runOn_bind_ok hread, hmeta,
        Action.runOn_bind_error (Action.runOn_ofExcept_error w id _), hverdict]
      exact ⟨_, rfl⟩
  · have hwrong : (read s path g).runOn w =
        (.error (Failure.wrongSize data.size g.totalSize).worded, w) := by
      rw [hread, ofBytes, if_pos hsize]
      rfl
    have hverdict : verdict g data = false := by
      rw [verdict, decide_eq_false_iff_not]
      exact fun h => hsize h.1
    have hkind : (Failure.wrongSize data.size g.totalSize).worded.kind ≠ .slip :=
      Failure.kind_worded_ne_slip (by simp [Failure.kind])
    rw [runOn_check, examine, Action.runOn_bind_error hwrong, hverdict]
    simp only [if_neg hkind]
    exact ⟨_, rfl⟩

theorem runOn_check_flat {mode : Nat} {content : ByteArray} (hpath : path.isHex = false)
    (hnull : Action.hasNull path.render = false)
    (hfile : w.tree.status s.directory path.render = .ok (.file mode content)) :
    ∃ log, (check s path g).runOn w = (.ok (verdict g content), { w with log := log }) := by
  have hdecode : decode path g content = .ok content := by
    rw [decode, hpath, if_neg Bool.false_ne_true]
  exact runOn_check_of_read (runOn_read hnull hfile hdecode)

/-- A file holds records with data, all of it on a device that no memory holds. -/
structure IsBeyondMemory (path : Path) (g : Geometry) (content : ByteArray) : Prop where
  /-- The file is read as records. -/
  hex : path.isHex = true
  /-- They give data for addresses of the device. -/
  data : ∃ memory low high, IntelHex.Memory.ofFile content = .ok memory ∧
    memory.minKey? = some low ∧ memory.maxKey? = some high ∧ high < g.totalSize
  /-- The device is larger than any memory. -/
  large : memoryBound ≤ g.totalSize

theorem not_isBeyondMemory_of_lt {content : ByteArray} (h : g.totalSize < memoryBound) :
    ¬ IsBeyondMemory path g content :=
  fun hbeyond => Nat.not_le.2 h hbeyond.large

/-- A path leads to such a file. -/
structure LacksMemory (s : Setting) (t : FileTree) (path : Path) (g : Geometry) : Prop where
  /-- The text of the path is one for the system. -/
  text : Action.hasNull path.render = false
  /-- It leads to records that fill a device that no memory holds. -/
  file : ∃ content, t.read s.directory path.render = .ok content ∧ IsBeyondMemory path g content

/-- There is no room for such a device. -/
theorem decode_of_isBeyondMemory {content : ByteArray} (h : IsBeyondMemory path g content) :
    decode path g content = .error (.slip .noMemory) := by
  obtain ⟨memory, low, high, hmemory, hlow, hhigh, hin⟩ := h.data
  rw [decode, if_pos h.hex, hmemory]
  dsimp only
  rw [flattenRecords, hlow, hhigh]
  dsimp only
  rw [if_neg (Nat.not_le.2 hin), if_pos h.large]

/-- The verdict on a file with this content: what describes no device is refused. -/
def judge (path : Path) (g : Geometry) (content : ByteArray) : Bool :=
  match decode path g content with
  | .ok data => verdict g data
  | .error _ => false

/-- All other failures to describe a device are expected. -/
theorem kind_of_decode_error {content : ByteArray} {failure : Failure}
    (h : decode path g content = .error failure) (hroom : ¬ IsBeyondMemory path g content) :
    failure.kind ≠ .slip := by
  rw [decode] at h
  split at h
  · next hhex =>
    split at h
    · next memory hmemory =>
      rw [flattenRecords] at h
      split at h
      · next low high hlow hhigh =>
        split at h
        · obtain rfl := Except.error.inj h
          simp [Failure.kind]
        · next hin =>
          split at h
          · next hlarge =>
            exact absurd ⟨hhex, ⟨memory, low, high, hmemory, hlow, hhigh, Nat.lt_of_not_le hin⟩,
              hlarge⟩ hroom
          · simp at h
      · simp at h
    · next fault _ =>
      obtain rfl := Except.error.inj h
      cases fault <;> simp [Failure.kind, ReadFault.ofMemory]
  · simp at h

/-- An image is not read from what describes no device. -/
theorem runOn_read_of_decode_error {mode : Nat} {content : ByteArray} {failure : Failure}
    (hnull : Action.hasNull path.render = false)
    (hfile : w.tree.status s.directory path.render = .ok (.file mode content))
    (hdecode : decode path g content = .error failure) :
    (read s path g).runOn w = (.error failure.worded, w) := by
  rw [read, Action.runOn_bind_ok (runOn_readFile hnull hfile), hdecode,
    Action.runOn_bind_error (Action.runOn_ofExcept_error w id failure)]
  rfl

/-- No image is read where there is no room for the device. -/
theorem runOn_read_of_lacksMemory (h : LacksMemory s w.tree path g) :
    (read s path g).runOn w = (.error (.slip .noMemory), w) := by
  obtain ⟨content, hread, hbeyond⟩ := h.file
  obtain ⟨mode, hfile⟩ := FileTree.read_eq_ok_iff.1 hread
  exact runOn_read_of_decode_error h.text hfile (decode_of_isBeyondMemory hbeyond)

/-- A check of a file answers, unless there is no room for the device. -/
theorem runOn_check_file {mode : Nat} {content : ByteArray}
    (hnull : Action.hasNull path.render = false)
    (hfile : w.tree.status s.directory path.render = .ok (.file mode content))
    (hroom : ¬ IsBeyondMemory path g content) :
    ∃ log, (check s path g).runOn w = (.ok (judge path g content), { w with log := log }) := by
  cases hdecode : decode path g content with
  | ok data =>
    rw [judge, hdecode]
    exact runOn_check_of_read (runOn_read hnull hfile hdecode)
  | error failure =>
    have hread := runOn_read_of_decode_error hnull hfile hdecode
    have hexpected := Failure.kind_worded_ne_slip (kind_of_decode_error hdecode hroom)
    rw [judge, hdecode, runOn_check, examine, Action.runOn_bind_error hread]
    simp only [if_neg hexpected]
    exact ⟨_, rfl⟩

/-- A path that leads to nothing is refused. -/
theorem runOn_check_of_locate {errno : Errno} (hnull : Action.hasNull path.render = false)
    (hlocate : w.tree.locate s.directory true path.render = .error errno) :
    ∃ log, (check s path g).runOn w = (.ok false, { w with log := log }) := by
  rw [runOn_check, examine, Action.runOn_bind_error (runOn_read_of_locate hnull hlocate)]
  exact ⟨_, rfl⟩

theorem verdict_iff (g : Geometry) (content : ByteArray) :
    verdict g content = true ↔
      content.size = g.totalSize ∧ ∃ trials, Holds (metadataWords g content) trials := by
  rw [verdict, decide_eq_true_iff]
  exact and_congr_right fun h => consistent_ofContent_iff h

theorem holds_metadataBytes_iff {g : Geometry} {content : ByteArray}
    (h : content.size = g.totalSize) (trials : List Bank) :
    Holds (metadataBytes g content) trials ↔
      Holds (metadataWords g content) trials ∧ ∀ b ∈ partialWord g content, b = erasedByte := by
  have hlen : (metadataBytes g content).length = g.blockSize := by
    rw [← toList_metadata_ofContent h, Bytes.length_toList, size_metadata_ofContent h]
  rw [TrialLog.holds_iff, hlen]
  rfl

theorem partialWord_eq_nil {g : Geometry} {content : ByteArray} (h : content.size = g.totalSize)
    (hblock : wordSize ∣ g.blockSize) : partialWord g content = [] := by
  have hlen : (metadataBytes g content).length = g.blockSize := by
    rw [← toList_metadata_ofContent h, Bytes.length_toList, size_metadata_ofContent h]
  rw [partialWord, Nat.mul_div_cancel' hblock, ← hlen, List.drop_length]

/-- **What the check of a flat file accepts.** It always answers, and the answer is yes exactly when
the file has the size of the device and the whole words of its metadata block hold a log. So the
answer is the one that the whole block calls for unless the file passes with a programmed byte
after the last whole word, which a block made of whole words has no room for. -/
theorem check_flat {mode : Nat} {content : ByteArray} (hpath : path.isHex = false)
    (hnull : Action.hasNull path.render = false)
    (hfile : w.tree.status s.directory path.render = .ok (.file mode content)) :
    ∃ accepted log, (check s path g).runOn w = (.ok accepted, { w with log := log }) ∧
      (accepted = true ↔
        content.size = g.totalSize ∧ ∃ trials, Holds (metadataWords g content) trials) ∧
      ((accepted = true ↔
          content.size = g.totalSize ∧ ∃ trials, Holds (metadataBytes g content) trials) ↔
        (accepted = true → ∀ b ∈ partialWord g content, b = erasedByte)) ∧
      (wordSize ∣ g.blockSize →
        (accepted = true ↔
          content.size = g.totalSize ∧ ∃ trials, Holds (metadataBytes g content) trials)) := by
  obtain ⟨log, hrun⟩ := runOn_check_flat (g := g) hpath hnull hfile
  have hiff := verdict_iff g content
  have hexact : (verdict g content = true ↔
      content.size = g.totalSize ∧ ∃ trials, Holds (metadataBytes g content) trials) ↔
        (verdict g content = true → ∀ b ∈ partialWord g content, b = erasedByte) := by
    constructor
    · intro h hyes
      obtain ⟨hsize, trials, htrials⟩ := h.1 hyes
      exact ((holds_metadataBytes_iff hsize trials).1 htrials).2
    · intro herased
      rw [hiff] at herased ⊢
      refine and_congr_right fun hsize => exists_congr fun trials => ?_
      rw [holds_metadataBytes_iff hsize]
      exact ⟨fun h => ⟨h, herased ⟨hsize, trials, h⟩⟩, fun h => h.1⟩
  refine ⟨verdict g content, log, hrun, hiff, hexact, fun hblock => hexact.2 fun hyes b hb => ?_⟩
  rw [partialWord_eq_nil (hiff.1 hyes).1 hblock] at hb
  exact absurd hb List.not_mem_nil

/-! ## A file that is judged -/

/-- A tree that holds one file. -/
def imageTree (content : ByteArray) : FileTree :=
  ⟨[(["x.img"], .file 0o644 content)]⟩

theorem status_imageTree (content : ByteArray) :
    (World.ofTree (imageTree content)).tree.status Setting.atRoot.directory
      (Path.render ⟨.relative, ["x.img"]⟩) = .ok (.file 0o644 content) := by
  have htext : Path.render ⟨.relative, ["x.img"]⟩ = "x.img" := by decide
  have hparts : FileTree.components "x.img" = ["x.img"] := by decide
  have hstart : FileTree.startOf "x.img" [] = [] := by decide
  have hsize : "x.img".utf8ByteSize = 5 := by decide
  simp [FileTree.status, FileTree.find, FileTree.locate, FileTree.walk, FileTree.get?, imageTree,
    FileTree.maxPath, FileTree.maxName, World.ofTree, Setting.atRoot, htext, hparts,
    hstart, hsize]

/-- The content of a device of two blocks of eight bytes on which both banks were tried. -/
def triedContent : ByteArray :=
  ⟨#[0xFF, 0xFF, 0xFF, 0xFF, 0xFF, 0xFF, 0xFF, 0xFF, 0, 0, 0, 0, 0x11, 0x11, 0x11, 0x11]⟩

/-- The content of a device of two blocks of six bytes with programmed bytes after a trial. -/
def partialContent : ByteArray :=
  ⟨#[0xFF, 0xFF, 0xFF, 0xFF, 0xFF, 0xFF, 0x11, 0x11, 0x11, 0x11, 0, 0]⟩

theorem check_flat_tried :
    ∃ log, (check Setting.atRoot ⟨.relative, ["x.img"]⟩ ⟨8, 2, none, by decide, by decide⟩).runOn
      (World.ofTree (imageTree triedContent)) = (.ok true, ⟨imageTree triedContent, log, []⟩) := by
  obtain ⟨accepted, log, hrun, hiff, -, -⟩ :=
    check_flat (g := ⟨8, 2, none, by decide, by decide⟩) (by decide) (by decide)
      (status_imageTree triedContent)
  have haccepted : accepted = true := hiff.2 ⟨by decide, [.b, .a], 0, by decide⟩
  exact ⟨log, haccepted ▸ hrun⟩

/-- A check passes a block of six bytes in which programmed bytes follow the one word of the log. -/
theorem check_partial_word :
    (∃ log, (check Setting.atRoot ⟨.relative, ["x.img"]⟩ ⟨6, 2, none, by decide, by decide⟩).runOn
      (World.ofTree (imageTree partialContent))
        = (.ok true, ⟨imageTree partialContent, log, []⟩)) ∧
      ¬ ∃ trials,
        Holds (metadataBytes ⟨6, 2, none, by decide, by decide⟩ partialContent) trials := by
  constructor
  · have hverdict : verdict ⟨6, 2, none, by decide, by decide⟩ partialContent = true :=
      (verdict_iff _ _).2 ⟨by decide, [.a], 0, by decide⟩
    obtain ⟨log, hrun⟩ := runOn_check_flat (g := ⟨6, 2, none, by decide, by decide⟩)
      (by decide) (by decide) (status_imageTree partialContent)
    rw [hverdict] at hrun
    exact ⟨log, hrun⟩
  · rintro ⟨trials, h⟩
    have herased := ((holds_metadataBytes_iff (by decide) trials).1 h).2
    exact absurd (herased 0 (by decide)) (by decide)

end NorFlash.Image
