import NorFlash.Proofs.Artifact
import NorFlash.Proofs.Composer
import NorFlash.Proofs.Image
import NorFlash.Proofs.ImageFile
import NorFlash.Proofs.ImageFile.Records
import NorFlash.Proofs.Persist.Run

/-!
# Reading a composed image back

An image that was composed and put in place is read back as it was composed, flat or as Intel HEX
records (`Image.ReadsBack`), with two exceptions (`runOn_read_of_compose`): a file of records
without data is taken to describe no device, and a path that ran through the link which the file
replaced leads nowhere.
-/

namespace NorFlash

open FileTree

/-! ## The content of the file -/

namespace Image

variable {g : Geometry} {artifact : ByteArray} {image : Image}

/-- The records for a composed artifact of at most 32-bit addresses describe its bytes. -/
theorem exists_hexText?_of_composed (hlayout : image.layout = Layout.ofGeometry g)
    (hsize : image.artifactSize = artifact.size)
    (hdata : image.data.data.toList = composedBytes g artifact)
    (hhex : artifact.size ≤ 0x100000000) :
    ∃ text memory, image.hexText? = some text ∧
      IntelHex.Memory.ofFile text.toUTF8 = .ok memory ∧
      ∀ x : Nat, memory[x]? = artifact.data.toList[x]? := by
  have hcode : image.code = artifact := Bytes.eq_of_toList_eq (toList_code hsize hdata)
  have hbase : image.layout.code.offset = ((0 : Nat) : Int) := by rw [hlayout]; rfl
  obtain ⟨text, memory, htext, hfile, hview⟩ := exists_hexText? hbase (by rw [hcode]; omega)
  refine ⟨text, memory, htext, hfile, fun x => ?_⟩
  rw [hview, if_pos (Nat.zero_le x), Nat.sub_zero, hcode]

/-- A composed image is encoded, as records if the artifact has 32-bit addresses. -/
theorem exists_runOn_encode {hexOutput : Bool}
    (hhex : hexOutput = true → artifact.size ≤ 0x100000000)
    (hcompose : compose (Layout.ofGeometry g) g artifact = .ok image) :
    ∃ bytes, ∀ w, (Composer.encode hexOutput image).runOn w = (.ok bytes, w) := by
  obtain ⟨-, hlayout, hsize, hdata⟩ := of_compose_eq_ok hcompose
  cases hexOutput with
  | false => exact ⟨_, fun _ => rfl⟩
  | true =>
    obtain ⟨text, -, htext, -⟩ := exists_hexText?_of_composed hlayout hsize hdata (hhex rfl)
    refine ⟨text.toUTF8, fun w => ?_⟩
    rw [Composer.encode, if_pos rfl, htext]
    rfl

/-- Records for bytes from offset zero on describe the device that holds them and is erased
elsewhere, unless there are none. -/
theorem flattenRecords_eq {path : Path} {memory : IntelHex.Memory}
    (hfits : artifact.size ≤ g.metadataOffset) (hsmall : g.totalSize < memoryBound)
    (hview : ∀ x : Nat, memory[x]? = artifact.data.toList[x]?) (hne : artifact.size ≠ 0) :
    ∃ data, flattenRecords path g memory = .ok data ∧
      data.data.toList = composedBytes g artifact := by
  have hlen := Bytes.length_toList artifact
  have hoff := g.metadataOffset_add_blockSize
  have hlow : memory.minKey? = some 0 :=
    IntelHex.Memory.minKey?_eq_some
      ((hview 0).trans (List.getElem?_eq_getElem (by omega))) (by omega)
  have hhigh : memory.maxKey? = some (artifact.size - 1) :=
    IntelHex.Memory.maxKey?_eq_some
      ((hview _).trans (List.getElem?_eq_getElem (by omega)))
      fun x hx => (hview x).trans (List.getElem?_eq_none (by omega))
  have hspan : memory.span = artifact :=
    Bytes.eq_of_toList_eq <| IntelHex.Memory.toList_span fun x => by
      rw [hview, if_pos (Nat.zero_le x), Nat.sub_zero]
  refine ⟨_, flattenRecords_of_keys hlow hhigh (by omega) hsmall, ?_⟩
  rw [← composedBytes_span hlow hhigh (by omega), hspan]

/-- What is read from a composed image as it is encoded: the image, unless it is a file of records
without data. -/
theorem decode_of_encode {path : Path} {hexOutput : Bool} {bytes : ByteArray}
    (hsuffix : path.isHex = hexOutput) (hhex : hexOutput = true → artifact.size ≤ 0x100000000)
    (hcompose : compose (Layout.ofGeometry g) g artifact = .ok image)
    (hencode : ∀ w, (Composer.encode hexOutput image).runOn w = (.ok bytes, w)) :
    ∃ data, decode path g bytes = .ok data ∧
      data.data.toList =
        if hexOutput = true ∧ artifact.size = 0 then [] else composedBytes g artifact := by
  obtain ⟨hfits, hlayout, hartifact, hdata⟩ := of_compose_eq_ok hcompose
  cases hexOutput with
  | false =>
    have hbytes : image.data = bytes := by
      simpa [Composer.encode] using hencode (.ofTree .empty)
    refine ⟨bytes, by rw [decode, hsuffix]; rfl, ?_⟩
    rw [← hbytes, hdata, if_neg (by simp)]
  | true =>
    have hlen := Bytes.length_toList artifact
    obtain ⟨text, memory, htext, hfile, hview⟩ :=
      exists_hexText?_of_composed hlayout hartifact hdata (hhex rfl)
    have hbytes : text.toUTF8 = bytes := by
      simpa [Composer.encode, htext] using hencode (.ofTree .empty)
    rw [decode, hsuffix, if_pos rfl, ← hbytes, hfile]
    by_cases hempty : artifact.size = 0
    · rw [if_pos ⟨rfl, hempty⟩]
      refine ⟨_, flattenRecords_of_no_keys (IntelHex.Memory.minKey?_eq_none fun x => ?_), rfl⟩
      rw [hview, List.getElem?_eq_none (by omega)]
    · rw [if_neg (by simp [hempty])]
      exact flattenRecords_eq hfits (totalSize_lt_of_compose hcompose) hview hempty

end Image

/-! ## Composing and reading -/

/-- A path is read as the image of an artifact, and nothing changes. -/
def Image.ReadsBack (s : Setting) (path : Path) (g : Geometry) (artifact : ByteArray)
    (w : World) : Prop :=
  ∃ image, (Image.read s path g).runOn w = (.ok image, w) ∧ image.IsComposed g artifact

variable {s : Setting} {provider : Provider} {g : Geometry} {text : String} {hexOutput : Bool}
  {artifact : ByteArray} {report : Report} {w w₁ w' : World}

/-- A composed image is put in place as it is encoded. -/
theorem moved_of_compose {output : Path} (hp : output.IsProper)
    (hprovider : provider.runOn w = (.ok artifact, w₁))
    (hcompose : (compose s provider g (some output) hexOutput).runOn w = (.ok report, w')) :
    ∃ image bytes place, Image.compose (Layout.ofGeometry g) g artifact = .ok image ∧
      (∀ w, (Composer.encode hexOutput image).runOn w = (.ok bytes, w)) ∧
      Moved s bytes output ((Action.ensureDirectories s output.parent).runOn w₁).2.tree w'.tree
        place := by
  obtain ⟨image, bytes, w₂, w₃, himage, hencode, hbefore, hpersist, hafter, -⟩ :=
    of_runOn_compose hprovider hcompose
  obtain ⟨-, hcases⟩ := runOn_persist s bytes hp w₂
  rw [hpersist, Action.tree_ensureDirectories hbefore] at hcases
  rcases hcases with ⟨⟨failure, hbad⟩, -⟩ | ⟨place, hmoved, -⟩
  · simp at hbad
  · exact ⟨image, bytes, place, himage, hencode, hafter ▸ hmoved⟩

/-- What is read of an output that a run of `compose` has put in place. -/
theorem runOn_read_of_compose {output : Path} (hp : output.IsProper)
    (hprovider : provider.runOn w = (.ok artifact, w₁)) (hsuffix : output.isHex = hexOutput)
    (hhex : hexOutput = true → artifact.size ≤ 0x100000000)
    (hcompose : (compose s provider g (some output) hexOutput).runOn w = (.ok report, w')) :
    if w'.tree.test s.directory output.parent.render Node.isDirectory = .ok true then
      if hexOutput = true ∧ artifact.size = 0 then
        (Image.read s output g).runOn w' = (.error (Failure.wrongSize 0 g.totalSize).worded, w')
      else Image.ReadsBack s output g artifact w'
    else (Image.read s output g).runOn w' =
      (.error (.file (.file (.of .notDirectory output.render))), w') := by
  obtain ⟨image, bytes, place, himage, hencode, hmoved⟩ :=
    moved_of_compose hp hprovider hcompose
  obtain ⟨hfits, -⟩ := Image.of_compose_eq_ok himage
  rcases hmoved.parent_cases hp with ⟨hparent, hlocate⟩ | ⟨hparent, hlocate⟩
  · rw [if_pos hparent]
    have hfile : w'.tree.status s.directory output.render = .ok (.file outputMode bytes) :=
      status_eq_ok_iff.2 ⟨_, hlocate true, by rw [hmoved.put, if_pos rfl]⟩
    obtain ⟨data, hdecode, hdata⟩ := Image.decode_of_encode hsuffix hhex himage hencode
    have hread := Image.runOn_read hmoved.text hfile hdecode
    split
    · next hempty =>
      rw [if_pos hempty] at hdata
      have hsize : data.size = 0 := by rw [← Bytes.length_toList, hdata, List.length_nil]
      have hother : data.size ≠ g.totalSize := by
        have hblock := g.blockSize_pos
        have hle := g.blockSize_le_totalSize
        omega
      rw [hread, Image.ofBytes, if_pos hother, hsize]
      simp only [Failure.ofImage]
    · next hdevice =>
      rw [if_neg hdevice] at hdata
      obtain ⟨found, hfound, hcomposed⟩ := Image.ofBytes_of_composed hfits hdata
      exact ⟨found, hread.trans (by rw [hfound]), hcomposed⟩
  · rw [if_neg (by simp [hparent])]
    exact Image.runOn_read_of_locate hmoved.text (hlocate true)

theorem Image.not_readsBack (artifact : ByteArray) {path : Path} {failure : Failure}
    (h : (Image.read s path g).runOn w = (.error failure, w)) :
    ¬ Image.ReadsBack s path g artifact w := by
  rintro ⟨image, hread, -⟩
  simp [h] at hread

/-- The image is read back as it was composed exactly if it is no file of records without data and
the parent of the output still leads to a directory, which it does unless the output led to a link
without which its parent leads to no directory. Otherwise the reading fails for the reason that
applies. -/
theorem compose_reads_back_iff
    (hprovider : provider.runOn w = (.ok artifact, w₁))
    (hsuffix : (Path.ofString text).isHex = hexOutput)
    (hhex : hexOutput = true → artifact.size ≤ 0x100000000)
    (hcompose : (compose s provider g (some (Path.ofString text)) hexOutput).runOn w =
      (.ok report, w')) :
    let output := Path.ofString text
    let made := ((Action.ensureDirectories s output.parent).runOn w₁).2.tree
    (Image.ReadsBack s output g artifact w' ↔
      ¬ (hexOutput = true ∧ artifact.size = 0) ∧
        w'.tree.test s.directory output.parent.render Node.isDirectory = .ok true) ∧
    ((∀ loc target, made.find s.directory false output.render = .ok loc →
        made.get? loc = some (.link target) →
        (made.erase loc).test s.directory output.parent.render Node.isDirectory = .ok true) →
      w'.tree.test s.directory output.parent.render Node.isDirectory = .ok true) ∧
    (¬ Image.ReadsBack s output g artifact w' →
      (Image.read s output g).runOn w' =
        (.error (if w'.tree.test s.directory output.parent.render Node.isDirectory = .ok true then
            (Failure.wrongSize 0 g.totalSize).worded
          else .file (.file (.of .notDirectory output.render))), w')) := by
  have hp := Path.isProper_ofString text
  obtain ⟨_, _, place, -, -, hmoved⟩ := moved_of_compose hp hprovider hcompose
  have hrun := runOn_read_of_compose hp hprovider hsuffix hhex hcompose
  dsimp only
  split at hrun
  · next hparent =>
    rw [if_pos hparent]
    split at hrun
    · next hempty =>
      have hnot := Image.not_readsBack artifact hrun
      exact ⟨⟨fun hread => absurd hread hnot, fun hcond => absurd hempty hcond.1⟩,
        fun _ => hparent, fun _ => hrun⟩
    · next hdevice =>
      exact ⟨⟨fun _ => ⟨hdevice, hparent⟩, fun _ => hrun⟩, fun _ => hparent,
        fun hnot => absurd hrun hnot⟩
  · next hlost =>
    rw [if_neg hlost]
    have hnot := Image.not_readsBack artifact hrun
    exact ⟨⟨fun hread => absurd hread hnot, fun hcond => absurd hcond.2 hlost⟩,
      hmoved.parent_of_find, fun _ => hrun⟩

/-- A run of `compose` for an artifact that fits ends with a report wherever the file can be put in
place. -/
theorem exists_runOn_compose {output : Path} (hexOutput : Bool)
    (hprovider : provider.runOn w = (.ok artifact, w₁))
    (hfits : artifact.size ≤ g.metadataOffset) (hmemory : g.totalSize < Image.memoryBound)
    (hhex : hexOutput = true → artifact.size ≤ 0x100000000)
    (hpersist : ∀ bytes log, ∃ w₂,
      (persist s bytes output).runOn { w₁ with log := log } = (.ok (), w₂)) :
    ∃ report w', (compose s provider g (some output) hexOutput).runOn w = (.ok report, w') := by
  have hoff := g.metadataOffset_add_blockSize
  obtain ⟨image, himage⟩ := Image.exists_compose_eq_ok hfits hmemory
  obtain ⟨bytes, hencode⟩ := Image.exists_runOn_encode hhex himage
  exact runOn_compose_of_persist hprovider (Layout.plan_of_le hfits)
    (Image.isWritable_of_lt (by omega)) himage hencode (hpersist bytes)

/-! ## Runs that are read back, and runs that are not -/

theorem locate_here (t : FileTree) (follow : Bool) : t.locate [] follow "." = .ok (.entry []) :=
  locate_eq_ok_iff.2 ⟨by decide, .dot ⟨_, rfl⟩ .here⟩

theorem test_here (t : FileTree) : t.test [] "." Node.isDirectory = .ok true :=
  test_isDirectory_iff.2 ⟨[], locate_here t true, _, rfl⟩

theorem locate_free {t : FileTree} (h : t.get? ["o.hex"] = none) :
    t.locate [] false "o.hex" = .ok (.vacant [] "o.hex") :=
  locate_eq_ok_iff.2 ⟨by decide, .vacant ⟨_, rfl⟩ ⟨by decide, by decide, by decide⟩ h⟩

/-- A file is put in place in the root of the tree where the name of the temporary file is free. -/
theorem exists_runOn_persist_root {t : FileTree} {name mark temporary : String} (data : ByteArray)
    (log : List LogRecord) (htext : (Path.ofString name).render = name)
    (hparent : (Path.ofString name).parent.render = ".")
    (hmark : temporaryPath .atRoot (Path.ofString name) 0 = mark)
    (hnull : Action.hasNull mark = false)
    (hfree : t.locate [] false mark = .ok (.vacant [] temporary))
    (htarget : ∀ node, (t.insert [temporary] node).renameTarget [] name = .ok [name]) :
    ∃ w', (persist .atRoot data (Path.ofString name)).runOn ⟨t, log, []⟩ = (.ok (), w') := by
  have hstatus : (movedTree t [temporary] [name] data).status [] "." =
      .ok (.directory directoryMode) :=
    status_eq_ok_iff.2 ⟨_, locate_here _ true, rfl⟩
  rw [runOn_persist_of_directory htext hparent hmark (by decide) hnull (locate_here _ false)
    (test_here _) hfree (htarget _)]
  simp only [List.nil_append, Setting.atRoot, hstatus]
  exact ⟨_, rfl⟩

theorem exists_runOn_persist_empty (data : ByteArray) (log : List LogRecord) :
    ∃ w', (persist .atRoot data (Path.ofString "o.hex")).runOn ⟨.empty, log, []⟩ =
      (.ok (), w') := by
  have hmark : temporaryPath .atRoot (Path.ofString "o.hex") 0 = "/.o.hex.XXXXXXXX.tmp" := by
    decide +kernel
  have hfree : FileTree.empty.locate [] false "/.o.hex.XXXXXXXX.tmp" =
      .ok (.vacant [] ".o.hex.XXXXXXXX.tmp") :=
    locate_eq_ok_iff.2 ⟨by decide, .vacant ⟨_, rfl⟩ ⟨by decide, by decide, by decide⟩ rfl⟩
  refine exists_runOn_persist_root data log (by decide) (by decide) hmark (by decide) hfree
    fun node => renameTarget_eq_ok_iff.2 ⟨⟨_, locate_free rfl, rfl, ?_⟩, [], "o.hex", by decide,
      by decide, by decide⟩
  rintro ⟨mode, hmode⟩
  exact nomatch hmode

/-- Two bytes are read back from the records that they are written as. -/
theorem compose_reads_back_two_bytes :
    ∃ report w', (compose .atRoot (pure ⟨#[1, 2]⟩) smallDevice (some (Path.ofString "o.hex"))
        true).runOn (.ofTree .empty) = (.ok report, w') ∧
      Image.ReadsBack .atRoot (Path.ofString "o.hex") smallDevice ⟨#[1, 2]⟩ w' := by
  have htext : (Path.ofString "o.hex").render = "o.hex" := by decide
  have hdirectory : (Path.ofString "o.hex").parent.render = "." := by decide
  have hprovider := Action.runOn_pure (.ofTree .empty) (⟨#[1, 2]⟩ : ByteArray)
  obtain ⟨report, w', hrun⟩ := exists_runOn_compose (g := smallDevice) true hprovider
    (by decide) (by decide) (fun _ => by decide) exists_runOn_persist_empty
  have hmade : (Action.ensureDirectories .atRoot (Path.ofString "o.hex").parent).runOn
      (.ofTree .empty) = (.ok (), .ofTree .empty) :=
    Action.runOn_ensureDirectories hdirectory (by decide) (locate_here _ false) (test_here _)
  obtain ⟨hread, hparent, -⟩ := compose_reads_back_iff hprovider (by decide)
    (fun _ => by decide) hrun
  rw [hmade, htext] at hparent
  refine ⟨report, w', hrun, hread.2 ⟨by decide, hparent fun loc target hfind => ?_⟩⟩
  have hfree : FileTree.empty.locate [] false "o.hex" = .ok (.entry loc) := find_eq_ok_iff.1 hfind
  simp [locate_free (t := .empty) rfl] at hfree

/-- A link to the directory that it lies in. -/
def loopTree : FileTree :=
  ⟨[(["l"], .link ".")]⟩

theorem leads_loop {t : FileTree} {follow : Bool} {names : List String} {place : Place}
    (hl : t.get? ["l"] = some (.link ".")) (hend : ¬ (names = [] ∧ follow = false))
    (h : Leads t follow (maxLinks - 1) [] names place) :
    Leads t follow maxLinks [] ("l" :: names) place :=
  .through ⟨_, rfl⟩ ⟨by decide, by decide, by decide⟩ hl hend (by decide) (.dot ⟨_, rfl⟩ h)

theorem locate_name {t : FileTree} {follow : Bool} (node : Node) (hl : t.get? ["l"] = some node)
    (hlink : follow = true → ∀ target, node ≠ .link target) :
    t.locate [] follow "l" = .ok (.entry ["l"]) :=
  locate_root ⟨by decide, by decide, by decide⟩ (by decide) hl hlink

theorem locate_loop {t : FileTree} (hl : t.get? ["l"] = some (.link ".")) :
    t.locate [] false "l/l" = .ok (.entry ["l"]) := by
  have hnames : components "l/l" = ["l", "l"] := by decide
  refine locate_eq_ok_iff.2 ⟨by decide, ?_⟩
  rw [hnames]
  exact leads_loop hl (by simp)
    (.last ⟨_, rfl⟩ ⟨by decide, by decide, by decide⟩ hl (by simp))

theorem test_loopTree : loopTree.test [] "l" Node.isDirectory = .ok true :=
  test_isDirectory_iff.2
    ⟨[], locate_eq_ok_iff.2 ⟨by decide, leads_loop rfl (by simp) .here⟩, _, rfl⟩

theorem exists_runOn_persist_loopTree (data : ByteArray) (log : List LogRecord) :
    ∃ w', (persist .atRoot data (Path.ofString "l/l")).runOn ⟨loopTree, log, []⟩ =
      (.ok (), w') := by
  have htext : (Path.ofString "l/l").render = "l/l" := by decide
  have hparent : (Path.ofString "l/l").parent.render = "l" := by decide
  have hmark : temporaryPath .atRoot (Path.ofString "l/l") 0 = "/l/.l.XXXXXXXX.tmp" := by
    decide +kernel
  have hfree : loopTree.locate [] false "/l/.l.XXXXXXXX.tmp" =
      .ok (.vacant [] ".l.XXXXXXXX.tmp") := by
    have hnames : components "/l/.l.XXXXXXXX.tmp" = ["l", ".l.XXXXXXXX.tmp"] := by decide
    refine locate_eq_ok_iff.2 ⟨by decide, ?_⟩
    rw [hnames]
    exact leads_loop rfl (by simp) (.vacant ⟨_, rfl⟩ ⟨by decide, by decide, by decide⟩ rfl)
  have htarget : ∀ node, (loopTree.insert [".l.XXXXXXXX.tmp"] node).renameTarget [] "l/l" =
      .ok ["l"] := by
    intro node
    have hl : (loopTree.insert [".l.XXXXXXXX.tmp"] node).get? ["l"] = some (.link ".") := rfl
    refine renameTarget_eq_ok_iff.2
      ⟨⟨_, locate_loop hl, rfl, ?_⟩, ["l"], "l", by decide, by decide, by decide⟩
    rintro ⟨mode, hmode⟩
    simp [hl] at hmode
  have hstatus : (movedTree loopTree [".l.XXXXXXXX.tmp"] ["l"] data).status [] "l" =
      .ok (.file outputMode data) :=
    status_eq_ok_iff.2 ⟨["l"], locate_name (.file outputMode data) rfl (by simp), rfl⟩
  rw [runOn_persist_of_directory htext hparent hmark (by decide) (by decide)
    (locate_name (.link ".") rfl (by simp)) test_loopTree hfree (htarget _)]
  simp only [List.nil_append, Setting.atRoot, hstatus]
  exact ⟨_, rfl⟩

/-- An image is not read back from a path whose parent was replaced by the image. -/
theorem not_readsBack_loopTree
    (hcompose : (compose .atRoot (pure artifact) g (some (Path.ofString "l/l")) false).runOn
      (.ofTree loopTree) = (.ok report, w')) :
    ¬ Image.ReadsBack .atRoot (Path.ofString "l/l") g artifact w' := by
  have hp := Path.isProper_ofString "l/l"
  have htext : (Path.ofString "l/l").render = "l/l" := by decide
  have hparent : (Path.ofString "l/l").parent.render = "l" := by decide
  have hprovider := Action.runOn_pure (.ofTree loopTree) artifact
  obtain ⟨_, bytes, place, -, -, hmoved⟩ := moved_of_compose hp hprovider hcompose
  have hmade : (Action.ensureDirectories .atRoot (Path.ofString "l/l").parent).runOn
      (.ofTree loopTree) = (.ok (), .ofTree loopTree) :=
    Action.runOn_ensureDirectories hparent (by decide) (locate_name (.link ".") rfl (by simp))
      test_loopTree
  rw [hmade] at hmoved
  have hlocate := hmoved.locate
  rw [htext] at hlocate
  have hplace : Place.entry ["l"] = place :=
    Except.ok.inj ((locate_loop (t := loopTree) rfl).symm.trans hlocate)
  have hfile : w'.tree.get? ["l"] = some (.file outputMode bytes) := by
    rw [hmoved.put, ← hplace]
    exact if_pos rfl
  have hlost : ¬ w'.tree.test Setting.atRoot.directory "l" Node.isDirectory = .ok true := by
    intro htest
    obtain ⟨loc, hloc, hdir⟩ := test_isDirectory_iff.1 htest
    have hname : w'.tree.locate [] true "l" = .ok (.entry ["l"]) := locate_name _ hfile (by simp)
    obtain rfl : ["l"] = loc := by simpa using hname.symm.trans hloc
    exact hdir.get?_ne_file _ _ hfile
  have hrun := runOn_read_of_compose hp hprovider (by decide) (by simp) hcompose
  rw [hparent, if_neg hlost] at hrun
  exact Image.not_readsBack _ hrun

/-- An image is not read back from records without data. -/
theorem not_readsBack_of_empty {output : Path} (hp : output.IsProper)
    (hprovider : provider.runOn w = (.ok artifact, w₁)) (hsuffix : output.isHex = true)
    (hempty : artifact.size = 0)
    (hcompose : (compose s provider g (some output) true).runOn w = (.ok report, w')) :
    ¬ Image.ReadsBack s output g artifact w' := by
  have hrun := runOn_read_of_compose hp hprovider hsuffix (fun _ => by omega) hcompose
  split at hrun
  · rw [if_pos ⟨rfl, hempty⟩] at hrun
    exact Image.not_readsBack _ hrun
  · exact Image.not_readsBack _ hrun

/-- Runs of `compose` that end with a report though their image is not read back: one writes records
without data, the other replaces the link that its output runs through. -/
theorem compose_not_read_back :
    (∃ report w', (compose .atRoot (pure ByteArray.empty) smallDevice
        (some (Path.ofString "o.hex")) true).runOn (.ofTree .empty) = (.ok report, w') ∧
      ¬ Image.ReadsBack .atRoot (Path.ofString "o.hex") smallDevice ByteArray.empty w') ∧
    ∃ report w', (compose .atRoot (pure ⟨#[1, 2]⟩) smallDevice
        (some (Path.ofString "l/l")) false).runOn (.ofTree loopTree) = (.ok report, w') ∧
      ¬ Image.ReadsBack .atRoot (Path.ofString "l/l") smallDevice ⟨#[1, 2]⟩ w' := by
  have hempty := Action.runOn_pure (.ofTree .empty) ByteArray.empty
  have hbytes := Action.runOn_pure (.ofTree loopTree) (⟨#[1, 2]⟩ : ByteArray)
  obtain ⟨report, w', hrun⟩ := exists_runOn_compose (g := smallDevice) true hempty
    (by decide) (by decide) (fun _ => by decide) exists_runOn_persist_empty
  obtain ⟨report₂, w₂, hrun₂⟩ := exists_runOn_compose (g := smallDevice) false hbytes
    (by decide) (by decide) (by simp) exists_runOn_persist_loopTree
  exact ⟨⟨report, w', hrun,
      not_readsBack_of_empty (Path.isProper_ofString _) hempty (by decide) rfl hrun⟩,
    report₂, w₂, hrun₂, not_readsBack_loopTree hrun₂⟩

end NorFlash
