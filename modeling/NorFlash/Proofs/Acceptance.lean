import NorFlash.Proofs.ReadBack

/-!
# Judging a composed image

The encoding of an image is chosen by a flag, and the check decodes a file by the suffix of its
name. Where the two agree the check accepts each composed image but one: records without data
describe no device. Where they do not, it depends on the content of the image (`Image.IsAccepted`):
the text of records may have the size of a device whose metadata block is shorter than a word, and
an artifact may itself be made of records. `runOn_check_of_compose` puts this together with what
`Moved` says about the path.
-/

namespace NorFlash

open FileTree IntelHex

namespace Image

variable {g : Geometry} {artifact : ByteArray} {image : Image} {path : Path}

/-- The image of an artifact is one to accept, where it is written as records or not and the file is
read as records or not. -/
def IsAccepted (path : Path) (g : Geometry) (artifact : ByteArray) : Bool → Bool → Prop
  | true, true => artifact.size ≠ 0
  | false, false => True
  -- The text of the records has the size of the device, and no word fits into its last block.
  | true, false =>
    g.blockSize < TrialLog.wordSize ∧
      ∃ document, Document.ofBytes? 0 artifact.data.toList = some document ∧
        document.render.length = g.totalSize
  -- The artifact itself is made of records, the last of which stands before any erased byte.
  | false, true =>
    ∃ memory data,
      Memory.runLines 1 (Utf8.read (composedBytes g artifact).toByteArray).lines .empty =
        .ok (.atRecord memory) ∧
      flattenRecords path g memory = .ok data ∧ verdict g data = true

/-! ## The device itself -/

/-- A device that holds an artifact and is erased elsewhere passes. -/
theorem verdict_of_composed {data : ByteArray} (hfits : artifact.size ≤ g.metadataOffset)
    (hdata : data.data.toList = composedBytes g artifact) : verdict g data = true := by
  have hoff := g.metadataOffset_add_blockSize
  have hsize : data.size = g.totalSize := by
    rw [← Bytes.length_toList, hdata, length_composedBytes (by omega)]
  refine (verdict_iff g data).2 ⟨hsize, [], holds_nil_of_erased fun b hb => ?_⟩
  have herased : metadataBytes g data = List.replicate g.blockSize erasedByte := by
    rw [metadataBytes, hdata, composedBytes, List.drop_append,
      List.drop_eq_nil_of_le (by rw [Bytes.length_toList]; exact hfits), List.nil_append,
      List.drop_replicate, Bytes.length_toList]
    congr 1
    omega
  rw [metadataWords, herased] at hb
  exact List.eq_of_mem_replicate (List.mem_of_mem_take hb)

/-! ## Records where a device is expected -/

/-- No byte of a text of records is one of a log. -/
theorem not_mem_log_of_render {document : Document} {b : UInt8}
    (h : b ∈ (String.ofList document.render).toUTF8.data.toList) :
    ¬ (b = 0x11 ∨ b = 0 ∨ b = erasedByte) := by
  rw [Utf8.toList_toUTF8 document.plain_render] at h
  obtain ⟨c, hc, rfl⟩ := List.mem_map.1 h
  rcases Document.mem_render hc with rfl | ⟨hlow, hhigh⟩
  · decide
  · have hbyte : (Utf8.plainByte c).toNat = c.toNat := by
      rw [Utf8.plainByte, UInt8.toNat_ofNat', Nat.mod_eq_of_lt (by omega)]
    rintro (hbad | hbad | hbad)
    · rw [hbad] at hbyte
      simp only [UInt8.reduceToNat] at hbyte
      omega
    · rw [hbad] at hbyte
      simp only [UInt8.reduceToNat] at hbyte
      omega
    · rw [hbad] at hbyte
      simp only [erasedByte, UInt8.reduceToNat] at hbyte
      omega

/-- A text of records passes as a device only where no word of it is looked at. -/
theorem verdict_render_iff (document : Document) :
    verdict g (String.ofList document.render).toUTF8 = true ↔
      g.blockSize < TrialLog.wordSize ∧ document.render.length = g.totalSize := by
  have hsize : (String.ofList document.render).toUTF8.size = document.render.length := by
    rw [← Bytes.length_toList, Utf8.toList_toUTF8 document.plain_render, List.length_map]
  have hoff := g.metadataOffset_add_blockSize
  have hlen := Bytes.length_toList (String.ofList document.render).toUTF8
  rw [verdict_iff, hsize, and_comm]
  refine and_congr_left fun htotal => ⟨?_, fun hshort => ⟨[], ?_⟩⟩
  · rintro ⟨trials, htrials⟩
    by_contra hlong
    have hwords : 0 < (metadataWords g (String.ofList document.render).toUTF8).length := by
      rw [metadataWords, metadataBytes, List.length_take, List.length_drop, hlen, hsize]
      simp only [TrialLog.wordSize] at hlong ⊢
      omega
    obtain ⟨b, hb⟩ := List.exists_mem_of_length_pos hwords
    exact not_mem_log_of_render (List.mem_of_mem_drop (List.mem_of_mem_take hb))
      (htrials.mem b hb)
  · rw [metadataWords, Nat.div_eq_of_lt hshort]
    exact holds_nil_of_erased (by simp)

/-! ## A device where records are expected -/

/-- A file with a byte that no character has describes a memory only by an end record before it. -/
theorem ofFile_eq_ok_iff {bytes : ByteArray} {memory : Memory}
    (h : erasedByte ∈ bytes.data.toList) :
    Memory.ofFile bytes = .ok memory ↔
      Memory.runLines 1 (Utf8.read bytes).lines .empty = .ok (.atRecord memory) := by
  obtain ⟨fault, hfault⟩ := Option.isSome_iff_exists.1 (Utf8.isSome_fault_read h)
  rw [Memory.ofFile, Memory.ofText, hfault]
  cases Memory.runLines 1 (Utf8.read bytes).lines .empty with
  | error fault => simp
  | ok ended => cases ended <;> simp

theorem judge_composed_iff {content : ByteArray} (hpath : path.isHex = true)
    (hfits : artifact.size ≤ g.metadataOffset)
    (hcontent : content.data.toList = composedBytes g artifact) :
    judge path g content = true ↔ IsAccepted path g artifact false true := by
  have hoff := g.metadataOffset_add_blockSize
  have hblock := g.blockSize_pos
  have herased : erasedByte ∈ content.data.toList := by
    rw [hcontent, composedBytes]
    exact List.mem_append_right _ (List.mem_replicate.2 ⟨by omega, rfl⟩)
  have heq : (composedBytes g artifact).toByteArray = content :=
    Bytes.eq_of_toList_eq (by rw [List.toList_data_toByteArray, hcontent])
  simp only [judge, decode, hpath, if_true, IsAccepted, heq, ← ofFile_eq_ok_iff herased]
  cases Memory.ofFile content with
  | error fault => simp
  | ok memory =>
    cases hflat : flattenRecords path g memory with
    | error failure => simp [hflat]
    | ok data => simp [hflat]

/-- A device of one block of text at most never passes as a file of records. -/
theorem not_isAccepted_of_le (hfits : artifact.size ≤ g.metadataOffset)
    (hsize : g.totalSize ≤ Utf8.blockSize) : ¬ IsAccepted path g artifact false true := by
  have hoff := g.metadataOffset_add_blockSize
  have hblock := g.blockSize_pos
  have hlist : (composedBytes g artifact).toByteArray.data.toList = composedBytes g artifact :=
    List.toList_data_toByteArray
  have herased : 0xFF ∈ (composedBytes g artifact).toByteArray.data.toList := by
    rw [hlist, composedBytes]
    exact List.mem_append_right _ (List.mem_replicate.2 ⟨by omega, rfl⟩)
  have hlength : (composedBytes g artifact).toByteArray.size ≤ Utf8.blockSize := by
    rw [← Bytes.length_toList, hlist, length_composedBytes (by omega)]
    exact hsize
  rintro ⟨memory, -, hrun, -⟩
  rw [Utf8.Text.lines, Utf8.chars_read herased hlength, Utf8.isSome_fault_read herased] at hrun
  simp [Utf8.linesFrom, Memory.runLines] at hrun

/-! ## All cases -/

/-- The records of a composed image are those of its artifact. -/
theorem hexText?_eq (hlayout : image.layout = Layout.ofGeometry g)
    (hsize : image.artifactSize = artifact.size)
    (hdata : image.data.data.toList = composedBytes g artifact) :
    image.hexText? = (Document.ofBytes? 0 artifact.data.toList).map
      fun document => String.ofList document.render := by
  have hbase : image.layout.code.offset = 0 := by rw [hlayout]; rfl
  rw [hexText?, hbase, Bytes.toList_eq, toList_code hsize hdata]

/-- What the check makes of a composed image as it is encoded. -/
theorem judge_encode_iff {hexOutput : Bool} {bytes : ByteArray}
    (hhex : hexOutput = true → artifact.size ≤ 0x100000000)
    (hcompose : compose (Layout.ofGeometry g) g artifact = .ok image)
    (hencode : ∀ w, (Composer.encode hexOutput image).runOn w = (.ok bytes, w)) :
    judge path g bytes = true ↔ IsAccepted path g artifact hexOutput path.isHex := by
  obtain ⟨hfits, hlayout, hartifact, hdata⟩ := of_compose_eq_ok hcompose
  by_cases hsuffix : path.isHex = hexOutput
  · obtain ⟨data, hdecode, hcontent⟩ := decode_of_encode hsuffix hhex hcompose hencode
    rw [judge, hdecode, hsuffix]
    cases hexOutput with
    | false => simp [IsAccepted, verdict_of_composed hfits hcontent]
    | true =>
      by_cases hempty : artifact.size = 0
      · have hnone : data.size = 0 := by
          rw [← Bytes.length_toList, hcontent, if_pos ⟨rfl, hempty⟩, List.length_nil]
        have hblock := g.blockSize_pos
        have hle := g.blockSize_le_totalSize
        have hrefused : ¬ verdict g data = true := by
          rw [verdict_iff, hnone]
          omega
        simp [IsAccepted, hempty, hrefused]
      · rw [if_neg (by simp [hempty])] at hcontent
        simp [IsAccepted, hempty, verdict_of_composed hfits hcontent]
  · cases hexOutput with
    | false =>
      have hpath : path.isHex = true := by simpa using hsuffix
      have hbytes : image.data = bytes := by
        simpa [Composer.encode] using hencode (.ofTree .empty)
      rw [hpath]
      exact judge_composed_iff hpath hfits (hbytes ▸ hdata)
    | true =>
      have hpath : path.isHex = false := by simpa using hsuffix
      obtain ⟨text, -, htext, -⟩ := exists_hexText?_of_composed hlayout hartifact hdata (hhex rfl)
      have hbytes : text.toUTF8 = bytes := by
        simpa [Composer.encode, htext] using hencode (.ofTree .empty)
      rw [hexText?_eq hlayout hartifact hdata, Option.map_eq_some_iff] at htext
      obtain ⟨document, hdocument, rfl⟩ := htext
      have hdecode : decode path g bytes = .ok bytes := by
        rw [decode, hpath, if_neg Bool.false_ne_true]
      rw [judge, hdecode, hpath]
      dsimp only
      rw [← hbytes, verdict_render_iff]
      simp [IsAccepted, hdocument]

end Image

/-! ## Composing and checking -/

variable {s : Setting} {provider : Provider} {g : Geometry} {text : String} {hexOutput : Bool}
  {artifact : ByteArray} {report : Report} {w w₁ w' : World}

/-- A check of an output that a run of `compose` has put in place always answers. -/
theorem runOn_check_of_compose {output : Path} (hp : output.IsProper)
    (hprovider : provider.runOn w = (.ok artifact, w₁))
    (hhex : hexOutput = true → artifact.size ≤ 0x100000000)
    (hcompose : (compose s provider g (some output) hexOutput).runOn w = (.ok report, w')) :
    ∃ accepted log,
      (Image.check s output g).runOn w' = (.ok accepted, { w' with log := log }) ∧
      (accepted = true ↔
        w'.tree.test s.directory output.parent.render Node.isDirectory = .ok true ∧
          Image.IsAccepted output g artifact hexOutput output.isHex) := by
  obtain ⟨image, bytes, place, himage, hencode, hmoved⟩ := moved_of_compose hp hprovider hcompose
  rcases hmoved.parent_cases hp with ⟨hparent, hlocate⟩ | ⟨hparent, hlocate⟩
  · have hfile : w'.tree.status s.directory output.render = .ok (.file outputMode bytes) :=
      status_eq_ok_iff.2 ⟨_, hlocate true, by rw [hmoved.put, if_pos rfl]⟩
    have hroom : ¬ Image.IsBeyondMemory output g bytes :=
      Image.not_isBeyondMemory_of_lt (Image.totalSize_lt_of_compose himage)
    obtain ⟨log, hcheck⟩ := Image.runOn_check_file hmoved.text hfile hroom
    refine ⟨_, log, hcheck, ?_⟩
    rw [Image.judge_encode_iff hhex himage hencode, hparent]
    simp
  · obtain ⟨log, hcheck⟩ := Image.runOn_check_of_locate (g := g) hmoved.text (hlocate true)
    refine ⟨false, log, hcheck, ?_⟩
    rw [hparent]
    simp

/-- **What the check makes of a composed image.** It accepts the image exactly if the parent of the
output still leads to a directory and the image, encoded as the flag says, is one to accept for the
suffix of the output. The parent does so unless the output led to a link without which its parent
leads to no directory. -/
theorem composed_accepted_iff
    (hprovider : provider.runOn w = (.ok artifact, w₁))
    (hhex : hexOutput = true → artifact.size ≤ 0x100000000)
    (hcompose : (compose s provider g (some (Path.ofString text)) hexOutput).runOn w =
      (.ok report, w')) :
    let output := Path.ofString text
    let made := ((Action.ensureDirectories s output.parent).runOn w₁).2.tree
    (∃ accepted log,
      (Image.check s output g).runOn w' = (.ok accepted, { w' with log := log }) ∧
      (accepted = true ↔
        w'.tree.test s.directory output.parent.render Node.isDirectory = .ok true ∧
          Image.IsAccepted output g artifact hexOutput output.isHex)) ∧
    ((∀ loc target, made.find s.directory false output.render = .ok loc →
        made.get? loc = some (.link target) →
        (made.erase loc).test s.directory output.parent.render Node.isDirectory = .ok true) →
      w'.tree.test s.directory output.parent.render Node.isDirectory = .ok true) := by
  have hp := Path.isProper_ofString text
  obtain ⟨_, _, place, -, -, hmoved⟩ := moved_of_compose hp hprovider hcompose
  exact ⟨runOn_check_of_compose hp hprovider hhex hcompose, hmoved.parent_of_find⟩

/-! ## Images that are accepted, and images that are not -/

theorem find_free_ne_ok (loc : Location) : FileTree.empty.find [] false "o.hex" ≠ .ok loc := by
  intro hfind
  have hlocate := find_eq_ok_iff.1 hfind
  simp [locate_free (t := .empty) rfl] at hlocate

/-- Two bytes are accepted as the records that they are written as. -/
theorem composed_accepted_two_bytes :
    ∃ report w', (compose .atRoot (pure ⟨#[1, 2]⟩) smallDevice (some (Path.ofString "o.hex"))
        true).runOn (.ofTree .empty) = (.ok report, w') ∧
      ∃ log, (Image.check .atRoot (Path.ofString "o.hex") smallDevice).runOn w' =
        (.ok true, { w' with log := log }) := by
  have htext : (Path.ofString "o.hex").render = "o.hex" := by decide
  have hdirectory : (Path.ofString "o.hex").parent.render = "." := by decide
  have hrecords : (Path.ofString "o.hex").isHex = true := by decide
  have hprovider := Action.runOn_pure (.ofTree .empty) (⟨#[1, 2]⟩ : ByteArray)
  obtain ⟨report, w', hrun⟩ := exists_runOn_compose (g := smallDevice) true hprovider
    (by decide) (by decide) (fun _ => by decide) exists_runOn_persist_empty
  have hmade : (Action.ensureDirectories .atRoot (Path.ofString "o.hex").parent).runOn
      (.ofTree .empty) = (.ok (), .ofTree .empty) :=
    Action.runOn_ensureDirectories hdirectory (by decide) (locate_here _ false) (test_here _)
  obtain ⟨⟨accepted, log, hcheck, hiff⟩, hparent⟩ :=
    composed_accepted_iff hprovider (fun _ => by decide) hrun
  rw [hmade, htext] at hparent
  rw [hrecords] at hiff
  have hsome : (ByteArray.mk #[1, 2]).size ≠ 0 := by decide
  have haccepted : accepted = true :=
    hiff.2 ⟨hparent fun loc _ hfind => absurd hfind (find_free_ne_ok loc), hsome⟩
  exact ⟨report, w', hrun, log, haccepted ▸ hcheck⟩

/-- An image that is not one to accept is refused. -/
theorem runOn_check_refused {output : Path} (hp : output.IsProper)
    (hprovider : provider.runOn w = (.ok artifact, w₁))
    (hhex : hexOutput = true → artifact.size ≤ 0x100000000)
    (hnot : ¬ Image.IsAccepted output g artifact hexOutput output.isHex)
    (hcompose : (compose s provider g (some output) hexOutput).runOn w = (.ok report, w')) :
    ∃ log, (Image.check s output g).runOn w' = (.ok false, { w' with log := log }) := by
  obtain ⟨accepted, log, hcheck, hiff⟩ := runOn_check_of_compose hp hprovider hhex hcompose
  have hrefused : accepted = false :=
    Bool.eq_false_iff.2 fun haccepted => hnot (hiff.1 haccepted).2
  exact ⟨log, hrefused ▸ hcheck⟩

/-- Runs of `compose` that end with a report though the check refuses their image: one writes the
device as it is into a file that is read as records, the other records without data. -/
theorem composed_refused :
    (∃ report w', (compose .atRoot (pure ⟨#[1, 2]⟩) smallDevice (some (Path.ofString "o.hex"))
        false).runOn (.ofTree .empty) = (.ok report, w') ∧
      ∃ log, (Image.check .atRoot (Path.ofString "o.hex") smallDevice).runOn w' =
        (.ok false, { w' with log := log })) ∧
    ∃ report w', (compose .atRoot (pure ByteArray.empty) smallDevice
        (some (Path.ofString "o.hex")) true).runOn (.ofTree .empty) = (.ok report, w') ∧
      ∃ log, (Image.check .atRoot (Path.ofString "o.hex") smallDevice).runOn w' =
        (.ok false, { w' with log := log }) := by
  have hp := Path.isProper_ofString "o.hex"
  have hrecords : (Path.ofString "o.hex").isHex = true := by decide
  have hbytes := Action.runOn_pure (.ofTree .empty) (⟨#[1, 2]⟩ : ByteArray)
  have hempty := Action.runOn_pure (.ofTree .empty) ByteArray.empty
  obtain ⟨report, w', hrun⟩ := exists_runOn_compose (g := smallDevice) false hbytes
    (by decide) (by decide) (by simp) exists_runOn_persist_empty
  obtain ⟨report₂, w₂, hrun₂⟩ := exists_runOn_compose (g := smallDevice) true hempty
    (by decide) (by decide) (fun _ => by decide) exists_runOn_persist_empty
  refine ⟨⟨report, w', hrun, runOn_check_refused hp hbytes (by simp) ?_ hrun⟩,
    report₂, w₂, hrun₂, runOn_check_refused hp hempty (fun _ => by decide) ?_ hrun₂⟩
  · rw [hrecords]
    exact Image.not_isAccepted_of_le (by decide) (by decide)
  · rw [hrecords]
    exact fun hsome => hsome rfl

end NorFlash
