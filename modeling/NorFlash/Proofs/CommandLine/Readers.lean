import NorFlash.Proofs.CommandLine.ExitCode

/-!
# The two readers of an image

The commands that check an image and that show its boot-trial log read the image in the same way
and judge it each in its own. They end alike where there is no image to judge (`withImage_alike`).
An image that the check accepts has a log that only erased words follow (`TrialLog.IsClean`), so the
two agree on it (`readers_agree`).
-/

namespace NorFlash

/-! ## Logs that nothing follows -/

namespace TrialLog

/-- The trials of a log are all that its block records: the words after them are erased. -/
structure IsClean (log : TrialLog) (block : ByteArray) : Prop where
  /-- No other word ends the log. -/
  strayWord : log.strayWord = none
  /-- Each word of the log is a trial of one of the banks. -/
  total : log.aCount + log.bCount = log.nextIndex
  /-- Each whole word after the log is erased. -/
  erased : ∀ i : Nat, log.nextIndex ≤ i → i < block.size / wordSize →
    Bytes.word? block (i * wordSize) = some erasedWord

theorem isClean_scan {block : ByteArray} (h : (scan block).isConsistent? block = some true) :
    (scan block).IsClean block := by
  have hreads := reads_scan block
  refine ⟨strayWord_of_consistent h, hreads.total, fun i hstart hstop => ?_⟩
  rw [isConsistent?_scan, Option.some.injEq, decide_eq_true_iff] at h
  have hlength : i < (words block.data.toList).length := by
    rwa [length_words, Bytes.length_toList]
  have hafter : (leadingTrials (words block.data.toList)).length ≤ i := by
    rwa [hreads.nextIndex, Int.ofNat_le] at hstart
  rw [word?_eq, List.getElem?_eq_getElem hlength]
  exact congrArg some (h _ (List.mem_drop_iff_getElem.2
    ⟨i - (leadingTrials (words block.data.toList)).length, by omega, by
      simp only [Nat.add_sub_cancel' hafter]⟩))

end TrialLog

namespace CommandLine

open Image (ofContent Expected)

variable {s : Setting} {device : DeviceOptions} {image : Path} {g : Geometry} {w : World}
  {content : ByteArray}

/-! ## Reading an image -/

/-- A path that holds a null character leads to no image. -/
theorem withImage_of_not_isPlain (hplain : ¬ image.IsPlain) (k : Action ExitCode) (w : World) :
    ((withImage s image k).runOn w).1 = .ok .noInput := by
  have hnull : Action.hasNull image.render = true := by
    rwa [Path.isPlain_iff, Bool.not_eq_false] at hplain
  have hfound : (Action.pathExists s image).runOn w = (.ok false, w) := by
    rw [Action.pathExists, Action.testEntry, if_pos hnull, Action.runOn_pure]
  rw [withImage, Action.runOn_bind_ok hfound]
  rfl

/-- The file that a path leads to holds the content of a device, and is read as that. -/
structure IsRead (s : Setting) (device : DeviceOptions) (image : Path) (w : World) (g : Geometry)
    (content : ByteArray) : Prop where
  /-- The options describe the device. -/
  geometry : geometryOf device none = .ok g
  /-- There is something at the path. -/
  status : ∃ node, w.tree.status s.directory image.render = .ok node
  /-- The path holds no null character. -/
  plain : image.IsPlain
  /-- The file holds the content of the device. -/
  found : deviceContentAt? s w.tree image g = some content
  /-- The content has the size of the device. -/
  size : content.size = g.totalSize
  /-- It is read. -/
  read : (Image.read s image g).runOn w = (.ok (ofContent g content), w)

/-- Two commands that look at an image end alike without success, or the image is read. -/
theorem withImage_alike {ends₁ ends₂ : Geometry → ByteArray → Except Failure ExitCode}
    {body₁ body₂ : Action ExitCode} (h₁ : LooksAt s device image w ends₁ body₁)
    (h₂ : LooksAt s device image w ends₂ body₂) :
    (∃ r, r ≠ .ok .success ∧ ((withImage s image body₁).runOn w).1 = r ∧
      ((withImage s image body₂).runOn w).1 = r) ∨
    ∃ g content, IsRead s device image w g content := by
  by_cases hplain : image.IsPlain
  · rw [runOn_withImage hplain, runOn_withImage hplain]
    cases hstatus : w.tree.status s.directory image.render with
    | error errno =>
      left
      dsimp only
      split
      · exact ⟨_, by simp, rfl, rfl⟩
      · exact ⟨_, by simp, rfl, rfl⟩
    | ok node =>
      dsimp only
      rcases geometryOf_cases device with ⟨g, hgeometry, -⟩ | hslip | ⟨fault, hfault⟩
      · by_cases hlacks : Image.LacksMemory s w.tree image g
        · have hrun := Image.runOn_read_of_lacksMemory hlacks
          exact .inl ⟨_, by simp, h₁.beyond g hgeometry hrun, h₂.beyond g hgeometry hrun⟩
        · rcases runOn_read_cases hplain hlacks with ⟨content, hcontent, -, hsize, hrun⟩ |
            ⟨-, failure, hrun, hexpected⟩
          · exact .inr ⟨g, content, hgeometry, ⟨node, hstatus⟩, hplain, hcontent, hsize, hrun⟩
          · exact .inl ⟨_, by simp, h₁.unread g failure hgeometry hrun hexpected,
              h₂.unread g failure hgeometry hrun hexpected⟩
      · exact .inl ⟨_, by simp, h₁.slip hslip, h₂.slip hslip⟩
      · exact .inl ⟨_, by simp, h₁.fault fault hfault, h₂.fault fault hfault⟩
  · exact .inl ⟨_, by simp, withImage_of_not_isPlain hplain body₁ w,
      withImage_of_not_isPlain hplain body₂ w⟩

/-! ## Judging an image -/

/-- The check of an image that is read ends with the verdict on its content. -/
theorem checkImage_of_isRead (hconfig : device.config = .missing)
    (h : IsRead s device image w g content) :
    ((checkImage s image device).runOn w).1 =
      .ok (if Image.verdict g content then .success else .dataError) := by
  obtain ⟨node, hstatus⟩ := h.status
  rw [checkImage, runOn_withImage h.plain, hstatus]
  exact (looksAt_check hconfig image w).read g content h.geometry h.size h.read

/-- The number of words of an image that is read can be written: records are read only for a device
that a memory holds, and otherwise the content is short enough. -/
theorem isWritable_words_of_isRead (h : IsRead s device image w g content)
    (hshort : image.isHex = false → Numeral.isWritable content.size = true) :
    Numeral.isWritable (g.blockSize / TrialLog.wordSize : Nat) = true := by
  have hle : g.blockSize / TrialLog.wordSize ≤ g.totalSize :=
    (Nat.div_le_self _ _).trans g.blockSize_le_totalSize
  refine isWritable_of_le hle ?_
  cases hhex : image.isHex with
  | false =>
    rw [← h.size]
    exact hshort hhex
  | true => exact Image.isWritable_of_lt (Image.totalSize_lt_of_read hhex h.read)

/-- The log of an image that is read is shown. -/
theorem showTrials_of_isRead (hconfig : device.config = .missing) (trials : Int) (json : Bool)
    (h : IsRead s device image w g content)
    (hshort : image.isHex = false → Numeral.isWritable content.size = true) :
    let log := TrialLog.scan (ofContent g content).metadata
    (showTrials s image (some trials) json device).runOn w =
      (.ok .success, { w with printed := w.printed ++ trialLines json trials log }) := by
  intro log
  obtain ⟨node, hstatus⟩ := h.status
  have hfor := runOn_geometryFor (s := s) hconfig w
  rw [h.geometry] at hfor
  have himage : (imageFor s image device).runOn w = (.ok (ofContent g content), w) :=
    (Action.runOn_bind_ok hfor (Image.read s image)).trans h.read
  rw [showTrials, runOn_withImage h.plain, hstatus]
  dsimp only
  rw [runOn_expecting_of_ok himage, runOn_printTrials trials json h.size,
    if_pos (isWritable_words_of_isRead h hshort)]

/-! ## Agreement -/

/-- **The readers of an image agree.** Without a configuration, an image that the check accepts has
a clean log, which is shown together with the bank that the loader tries next; and where no log is
shown, the check ends in the same way. For a file that is taken as it is, this is so if its size has
a decimal form, as all content has that a memory holds. -/
theorem readers_agree (s : Setting) (w : World) {words words' : List String}
    {verbosity verbosity' : Nat} {trials : Int} {json : Bool}
    (hcheck : Arguments.parse words = .ok ⟨verbosity, some (.checkImage image, device)⟩)
    (htrials : Arguments.parse words' =
      .ok ⟨verbosity', some (.showTrials image (some trials) json, device)⟩)
    (hconfig : device.config = .missing)
    (hshort : image.isHex = false → ∀ g content, geometryOf device none = .ok g →
      deviceContentAt? s w.tree image g = some content →
      Numeral.isWritable content.size = true) :
    let checked := (Program.run s words).runOn w
    let shown := (Program.run s words').runOn w
    (checked.1 = .ok (.exit .success) →
      shown.1 = .ok (.exit .success) ∧
        ∃ g content, geometryOf device none = .ok g ∧
          deviceContentAt? s w.tree image g = some content ∧
          let block := (ofContent g content).metadata
          let log := TrialLog.scan block
          log.IsClean block ∧ shown.2.printed = w.printed ++ trialLines json trials log) ∧
    (shown.1 ≠ .ok (.exit .success) → checked.1 = shown.1) := by
  intro checked shown
  let start : World := { w with log := [] }
  have hchecked : checked.1 = ((checkImage s image device).runOn start).1.map .exit :=
    (runOn_run hcheck w).1
  obtain ⟨log, hshown⟩ := runOn_run_command (s := s) htrials w
  have hresult : shown.1 =
      ((showTrials s image (some trials) json device).runOn start).1.map .exit :=
    congrArg Prod.fst hshown
  have hprinted : shown.2.printed =
      ((showTrials s image (some trials) json device).runOn start).2.printed :=
    congrArg (·.2.printed) hshown
  rcases withImage_alike (looksAt_check (s := s) hconfig image start)
    (looksAt_trials hconfig image (some trials) json start) with ⟨r, hr, hfirst, hsecond⟩ |
      ⟨g, content, hread⟩
  · rw [← checkImage] at hfirst
    rw [← showTrials] at hsecond
    rw [hchecked, hresult, hfirst, hsecond]
    exact ⟨fun hsuccess => absurd (map_exit_eq_iff.1 hsuccess) hr, fun _ => rfl⟩
  · have hrun := showTrials_of_isRead hconfig trials json hread fun hflat =>
      hshort hflat g content hread.geometry hread.found
    rw [hrun] at hresult hprinted
    refine ⟨fun hsuccess => ⟨hresult, g, content, hread.geometry, hread.found, ?_, hprinted⟩,
      fun hfail => absurd hresult hfail⟩
    rw [hchecked, map_exit_eq_iff, checkImage_of_isRead hconfig hread] at hsuccess
    cases hverdict : Image.verdict g content with
    | false =>
      rw [hverdict] at hsuccess
      cases hsuccess
    | true =>
      rw [Image.verdict, decide_eq_true_iff] at hverdict
      exact TrialLog.isClean_scan hverdict.2

/-! ## A device on which both banks were tried -/

/-- The sizes of two blocks of eight bytes are given, and nothing else. -/
def triedOptions : DeviceOptions :=
  ⟨.missing, .given 16, .given 8, .missing⟩

/-- On the device that they describe the image is read, and the verdict on it is a yes. -/
theorem exists_isRead_tried :
    ∃ g, IsRead .atRoot triedOptions (Path.ofString "x.img")
        (World.ofTree (Image.imageTree Image.triedContent)) g Image.triedContent ∧
      Image.verdict g Image.triedContent = true := by
  have hpath : Path.ofString "x.img" = ⟨.relative, ["x.img"]⟩ := by decide
  have hplain : (Path.ofString "x.img").IsPlain := Path.isPlain_iff.2 (by decide)
  have hstatus := Image.status_imageTree Image.triedContent
  rw [← hpath] at hstatus
  have hread := FileTree.read_eq_ok_iff.2 ⟨_, hstatus⟩
  refine ⟨⟨8, 2, some Geometry.defaultBase, by decide, by decide⟩,
    ⟨rfl, ⟨_, hstatus⟩, hplain, ?found, rfl, ?read⟩, ?verdict⟩
  case found =>
    rw [deviceContentAt?, hread]
    rfl
  case read =>
    have hdecode : Image.decode (Path.ofString "x.img")
        ⟨8, 2, some Geometry.defaultBase, by decide, by decide⟩ Image.triedContent =
          .ok Image.triedContent :=
      if_neg (by decide)
    rw [Image.runOn_read (Path.isPlain_iff.1 hplain) hstatus hdecode, Image.ofBytes_eq rfl]
  case verdict =>
    exact (Image.verdict_iff _ _).2 ⟨by decide, [.b, .a], 0, by decide⟩

/-- The check accepts the image, and its log is shown. -/
theorem readers_agree_tried :
    let words := ["check", "--flash-size", "16", "--block-size", "8", "x.img"]
    let words' := ["bootmeta", "x.img", "--flash-size", "16", "--block-size", "8", "-j"]
    let w := World.ofTree (Image.imageTree Image.triedContent)
    ((Program.run .atRoot words).runOn w).1 = .ok (.exit .success) ∧
      ((Program.run .atRoot words').runOn w).1 = .ok (.exit .success) := by
  intro words words' w
  have hcheck : Arguments.parse words =
      .ok ⟨0, some (.checkImage (Path.ofString "x.img"), triedOptions)⟩ := by
    decide +kernel
  have htrials : Arguments.parse words' = .ok ⟨0, some (.showTrials (Path.ofString "x.img")
      (some TrialLog.defaultMaxTrials) true, triedOptions)⟩ := by
    decide +kernel
  obtain ⟨g, hread, hverdict⟩ := exists_isRead_tried
  have hshort : Numeral.isWritable Image.triedContent.size = true :=
    Image.isWritable_of_lt (by decide)
  obtain ⟨hagree, -⟩ := readers_agree .atRoot w hcheck htrials rfl
    fun _ g' content hgeometry hcontent => by
      obtain rfl := Except.ok.inj (hread.geometry.symm.trans hgeometry)
      obtain rfl := Option.some.inj (hread.found.symm.trans hcontent)
      exact hshort
  have hchecked : ((Program.run .atRoot words).runOn w).1 = .ok (.exit .success) := by
    rw [(runOn_run hcheck w).1, map_exit_eq_iff]
    refine (checkImage_of_isRead rfl hread).trans ?_
    rw [hverdict]
    rfl
  exact ⟨hchecked, (hagree hchecked).1⟩

end CommandLine

end NorFlash
