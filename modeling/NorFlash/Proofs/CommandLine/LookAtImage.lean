import NorFlash.Proofs.CommandLine.Expecting
import NorFlash.Proofs.CommandLine.ReadImage

/-!
# Looking at an image

How the commands end that look at an image: `checkImage` (`checkImage_settles`) and `showTrials`
(`showTrials_settles`). What both have in common is a body that ends on the content of the device
(`LooksAt`), run where there is an image (`withImage_cases`).
-/

namespace NorFlash.CommandLine

open Image (Expected ofContent)

variable {s : Setting} {device : DeviceOptions} {image : Path} {g : Geometry} {w : World}

/-! ## Commands that look at an image -/

theorem runOn_withImage (hplain : image.IsPlain) (k : Action ExitCode) (w : World) :
    (withImage s image k).runOn w =
      match w.tree.status s.directory image.render with
      | .ok _ => k.runOn w
      | .error errno =>
        if errno.meansAbsent then
          (.ok .noInput,
            { w with printed := w.printed ++ ["File " ++ image.render ++ " doesn't exist"] })
        else (.error (.file (.file (.of errno image.render))), w) := by
  have hfound := Action.runOn_testEntry_of_isPlain (s := s) hplain (fun _ => true) w
  rw [FileTree.test] at hfound
  rw [withImage, Action.pathExists]
  cases hstatus : w.tree.status s.directory image.render with
  | ok node =>
    rw [hstatus] at hfound
    rw [Action.runOn_bind_ok hfound, if_pos rfl]
  | error errno =>
    rw [hstatus] at hfound
    dsimp only at hfound ⊢
    cases hrefused : errno.meansAbsent with
    | true =>
      rw [hrefused, if_pos rfl] at hfound
      rw [Action.runOn_bind_ok hfound, if_pos rfl]
      rfl
    | false =>
      rw [hrefused, if_neg Bool.false_ne_true] at hfound
      rw [Action.runOn_bind_error hfound, if_neg Bool.false_ne_true]

/-- An action looks at the image in a file and ends on its content as `ends` tells. -/
structure LooksAt (s : Setting) (device : DeviceOptions) (image : Path) (w : World)
    (ends : Geometry → ByteArray → Except Failure ExitCode) (body : Action ExitCode) : Prop where
  /-- It ends with a slip if a size has no value. -/
  slip : geometryOf device none = .error (.slip .nullValue) →
    (body.runOn w).1 = .error (.slip .nullValue)
  /-- Sizes of no device are bad data. -/
  fault : ∀ fault, geometryOf device none = .error (.configuration (.geometry fault)) →
    (body.runOn w).1 = .ok .dataError
  /-- It ends with the lack of memory where there is no room for the device. -/
  beyond : ∀ g, geometryOf device none = .ok g →
    (Image.read s image g).runOn w = (.error (.slip .noMemory), w) →
    (body.runOn w).1 = .error (.slip .noMemory)
  /-- An image that cannot be read otherwise is bad data. -/
  unread : ∀ g failure, geometryOf device none = .ok g →
    (Image.read s image g).runOn w = (.error failure, w) → Expected failure →
    (body.runOn w).1 = .ok .dataError
  /-- The content of the device decides otherwise. -/
  read : ∀ g content, geometryOf device none = .ok g → content.size = g.totalSize →
    (Image.read s image g).runOn w = (.ok (ofContent g content), w) →
    (body.runOn w).1 = ends g content

/-! ## Promises and hindrances -/

section

variable {ends : Geometry → ByteArray → Except Failure ExitCode} {body : Action ExitCode}
  {accepts : Geometry → ByteArray → Bool} {r : Except Failure ExitCode}

theorem promisedToLook_of_missing {t : FileTree} {errno : Errno}
    (hstatus : t.status s.directory image.render = .error errno) :
    promisedToLook s t device image accepts = .noInput := by
  unfold promisedToLook
  rw [hstatus]

theorem promisedToLook_of_no_device {t : FileTree} {node : Node} {failure : Failure}
    (hstatus : t.status s.directory image.render = .ok node)
    (hgeometry : geometryOf device none = .error failure) :
    promisedToLook s t device image accepts = .dataError := by
  unfold promisedToLook
  rw [hstatus, geometry?_of_error hgeometry]

/-- On a device, the content decides. -/
theorem promisedToLook_of_device {t : FileTree} {node : Node}
    (hstatus : t.status s.directory image.render = .ok node)
    (hgeometry : geometryOf device none = .ok g) :
    promisedToLook s t device image accepts =
      if (deviceContentAt? s t image g).any (accepts g) then .success else .dataError := by
  unfold promisedToLook
  rw [hstatus, geometry?_of_ok hgeometry]
  dsimp only
  cases deviceContentAt? s t image g with
  | none => rfl
  | some content => rfl

theorem promisedToLook_of_content {t : FileTree} {content : ByteArray}
    (hgeometry : geometryOf device none = .ok g)
    (hcontent : deviceContentAt? s t image g = some content) :
    promisedToLook s t device image accepts =
      if accepts g content then .success else .dataError := by
  obtain ⟨node, hstatus⟩ := status_of_deviceContentAt? hcontent
  rw [promisedToLook_of_device hstatus hgeometry, hcontent, Option.any_some]

/-- Where the device and its content are known, the image is looked at. -/
theorem withImage_of_content {content : ByteArray} (hplain : image.IsPlain)
    (hbody : LooksAt s device image w ends body) (hgeometry : geometryOf device none = .ok g)
    (hcontent : deviceContentAt? s w.tree image g = some content)
    (hdata : leadsToNoData s w.tree image = false)
    (hroom : ¬ Image.LacksMemory s w.tree image g) :
    ((withImage s image body).runOn w).1 = ends g content := by
  obtain ⟨node, hstatus⟩ := status_of_deviceContentAt? hcontent
  rw [runOn_withImage hplain, hstatus]
  rcases runOn_read_cases hplain hroom with ⟨found, hfound, -, hsize, hrun⟩ | ⟨hnone | hblank, -⟩
  · obtain rfl : content = found := Option.some.inj (hcontent.symm.trans hfound)
    exact hbody.read g content hgeometry hsize hrun
  · cases hcontent.symm.trans hnone
  · cases hdata.symm.trans hblank

/-- A hindrance tells how a command ends that looks at an image. -/
theorem withImage_of_hindered (hplain : image.IsPlain)
    (hbody : LooksAt s device image w ends body) (h : LookHindered s w.tree device image r) :
    ((withImage s image body).runOn w).1 = r := by
  rw [runOn_withImage hplain]
  cases h with
  | imageRefused hstatus hrefused =>
    rw [hstatus]
    dsimp only
    rw [hrefused, if_neg Bool.false_ne_true]
  | noSize hstatus hslip =>
    rw [hstatus]
    exact hbody.slip hslip
  | @noData g hgeometry hblank =>
    obtain ⟨content, hcontent, -⟩ := deviceContentAt?_of_noData g hblank
    obtain ⟨node, hstatus⟩ := status_of_deviceContentAt? hcontent
    rw [hstatus]
    have hroom : ¬ Image.LacksMemory s w.tree image g := not_lacksMemory_of_noData hblank
    rcases runOn_read_cases hplain hroom with ⟨found, -, hdata, -⟩ | ⟨-, failure, hrun, hexpected⟩
    · cases hdata.symm.trans hblank
    · exact hbody.unread g failure hgeometry hrun hexpected
  | @largeDevice g hgeometry hlacks =>
    obtain ⟨node, hstatus⟩ := status_of_lacksMemory hlacks
    rw [hstatus]
    exact hbody.beyond g hgeometry (Image.runOn_read_of_lacksMemory hlacks)

/-- A command that accepts erased devices is promised success on a file of records without data. -/
theorem promisedToLook_of_noData {t : FileTree} (hgeometry : geometryOf device none = .ok g)
    (hblank : leadsToNoData s t image = true)
    (haccepts : ∀ content, content.size = g.totalSize →
      (∀ b ∈ content.data.toList, b = erasedByte) → accepts g content = true) :
    promisedToLook s t device image accepts = .success := by
  obtain ⟨content, hcontent, hsize, herased⟩ := deviceContentAt?_of_noData g hblank
  rw [promisedToLook_of_content hgeometry hcontent, haccepts content hsize herased]
  rfl

/-- A hindrance breaks the promise to such a command. -/
theorem LookHindered.ne_promised {t : FileTree} (h : LookHindered s t device image r)
    (haccepts : ∀ g content, content.size = g.totalSize →
      (∀ b ∈ content.data.toList, b = erasedByte) → accepts g content = true) :
    r ≠ .ok (promisedToLook s t device image accepts) := by
  cases h with
  | imageRefused hstatus hrefused => simp
  | noSize hstatus hslip => simp
  | noData hgeometry hblank =>
    rw [promisedToLook_of_noData hgeometry hblank (haccepts _)]
    simp
  | largeDevice hgeometry hlacks => simp

/-- A command that looks at an image keeps its promise, meets a hindrance, or knows the device and
its content. -/
theorem withImage_cases (accepts : Geometry → ByteArray → Bool) (hplain : image.IsPlain)
    (hbody : LooksAt s device image w ends body) :
    ((withImage s image body).runOn w).1 =
        .ok (promisedToLook s w.tree device image accepts) ∨
      (∃ r, LookHindered s w.tree device image r) ∨
      ∃ g content, geometryOf device none = .ok g ∧
        deviceContentAt? s w.tree image g = some content ∧
        leadsToNoData s w.tree image = false ∧ ¬ Image.LacksMemory s w.tree image g := by
  cases hstatus : w.tree.status s.directory image.render with
  | error errno =>
    cases hrefused : errno.meansAbsent with
    | false => exact .inr (.inl ⟨_, .imageRefused hstatus hrefused⟩)
    | true =>
      left
      rw [promisedToLook_of_missing hstatus, runOn_withImage hplain, hstatus]
      dsimp only
      rw [hrefused, if_pos rfl]
  | ok node =>
    rcases geometryOf_cases device with ⟨g, hgeometry, -⟩ | hslip | ⟨fault, hfault⟩
    · by_cases hlacks : Image.LacksMemory s w.tree image g
      · exact .inr (.inl ⟨_, .largeDevice hgeometry hlacks⟩)
      · rcases runOn_read_cases hplain hlacks with ⟨content, hcontent, hdata, -⟩ |
          ⟨hnone | hblank, failure, hrun, hexpected⟩
        · exact .inr (.inr ⟨g, content, hgeometry, hcontent, hdata, hlacks⟩)
        · left
          rw [promisedToLook_of_device hstatus hgeometry, hnone, runOn_withImage hplain, hstatus]
          exact hbody.unread g failure hgeometry hrun hexpected
        · exact .inr (.inl ⟨_, .noData hgeometry hblank⟩)
    · exact .inr (.inl ⟨_, .noSize hstatus hslip⟩)
    · left
      rw [promisedToLook_of_no_device hstatus hfault, runOn_withImage hplain, hstatus]
      exact hbody.fault fault hfault

end

/-! ## Checking an image -/

theorem runOn_printCheck {accepted : Bool} {log : List LogRecord}
    (h : (Image.check s image g).runOn w = (.ok accepted, { w with log := log })) :
    ((printCheck s image g).runOn w).1 = .ok (if accepted then .success else .dataError) := by
  rw [printCheck, Action.runOn_bind_ok h]
  rfl

theorem looksAt_check (hconfig : device.config = .missing) (image : Path) (w : World) :
    LooksAt s device image w
      (fun g content => .ok (if Image.verdict g content then .success else .dataError))
      (expecting [.data] .ofKind (geometryFor s device) (printCheck s image)) := by
  have hfor := runOn_geometryFor (s := s) hconfig w
  constructor
  case slip =>
    intro hslip
    rw [hslip] at hfor
    exact (runOn_expecting_of_error (congrArg Prod.fst hfor) _).1
  case fault =>
    intro fault hfault
    rw [hfault] at hfor
    refine (runOn_expecting_of_error (congrArg Prod.fst hfor) _).1.trans ?_
    rw [endOn, Failure.kind_worded_of_data rfl]
    rfl
  case unread =>
    intro g failure hgeometry hread hexpected
    rw [hgeometry] at hfor
    have hcheck : (Image.check s image g).runOn w = (.ok false,
        { w with log := w.log ++ [⟨.error, "Exception: " ++ failure.message⟩] }) := by
      rw [Image.runOn_check, Image.examine, Action.runOn_bind_error hread]
      simp only [if_neg hexpected]
    rw [runOn_expecting_of_ok hfor]
    exact runOn_printCheck hcheck
  case beyond =>
    intro g hgeometry hread
    rw [hgeometry] at hfor
    have hcheck : (Image.check s image g).runOn w = (.error (.slip .noMemory), w) := by
      rw [Image.runOn_check, Image.examine, Action.runOn_bind_error hread]
      exact if_pos rfl
    rw [runOn_expecting_of_ok hfor, printCheck, Action.runOn_bind_error hcheck]
  case read =>
    intro g content hgeometry hsize hread
    rw [hgeometry] at hfor
    obtain ⟨log, hcheck⟩ := Image.runOn_check_of_content hsize hread
    rw [runOn_expecting_of_ok hfor]
    exact runOn_printCheck hcheck

/-- **Checking an image.** -/
theorem checkImage_settles (hconfig : device.config = .missing) (hplain : image.IsPlain)
    (w : World) :
    Settles (promisedToLook s w.tree device image Image.verdict)
      (LookHindered s w.tree device image) ((checkImage s image device).runOn w).1 := by
  have hbody := looksAt_check (s := s) hconfig image w
  rw [checkImage]
  refine settles_of_cases (fun r hr => withImage_of_hindered hplain hbody hr)
    (fun r hr => hr.ne_promised fun g content => verdict_of_erased) ?_
  rcases withImage_cases Image.verdict hplain hbody with hkept | hhindered |
    ⟨g, content, hgeometry, hcontent, hdata, hroom⟩
  · exact .inl hkept
  · exact .inr hhindered
  · left
    rw [withImage_of_content hplain hbody hgeometry hcontent hdata hroom,
      promisedToLook_of_content hgeometry hcontent]

/-! ## Showing boot trials -/

theorem word?_le {block : ByteArray} {i word : Nat} (h : Bytes.word? block i = some word) :
    word ≤ erasedWord := by
  rw [Bytes.word?] at h
  split at h
  · obtain rfl := Option.some.inj h
    have ha := block[i].toNat_lt
    have hb := block[i + 1].toNat_lt
    have hc := block[i + 2].toNat_lt
    have hd := block[i + 3].toNat_lt
    rw [Bytes.wordOf, erasedWord]
    omega
  · cases h

/-- The word that a log ends with has 32 bits, so it can be written. -/
theorem isWritable_strayWord {block : ByteArray} {word : Int}
    (h : (TrialLog.scan block).strayWord = some word) : Numeral.isWritable word = true := by
  have hreads := TrialLog.reads_scan block
  generalize TrialLog.leadingTrials (TrialLog.words block.data.toList) = trials at hreads
  cases hword : Bytes.word? block (trials.length * TrialLog.wordSize) with
  | none =>
    rw [hreads.atEnd hword] at h
    cases h
  | some n =>
    have hstray := (hreads.after n hword).2
    rw [h] at hstray
    split at hstray
    · cases hstray
    · rw [Option.some.inj hstray]
      exact Image.isWritable_of_lt (Nat.lt_of_le_of_lt (word?_le hword) (by decide))

/-- The counts of a log are at most the number of words of its block, so they can be written if that
number can. -/
theorem all_isWritable_counts_scan (block : ByteArray) :
    (TrialLog.scan block).counts.all Numeral.isWritable =
      Numeral.isWritable (block.size / TrialLog.wordSize : Nat) := by
  have hreads := TrialLog.reads_scan block
  generalize TrialLog.leadingTrials (TrialLog.words block.data.toList) = trials at hreads
  have hcount := TrialLog.count_add_count trials
  have hle := hreads.le_capacity
  rw [hreads.nextIndex, hreads.capacity] at hle
  rw [TrialLog.counts, hreads.aCount, hreads.bCount, hreads.nextIndex, hreads.capacity,
    Bool.eq_iff_iff]
  simp only [List.all_cons, List.all_nil, Bool.and_true, Bool.and_eq_true]
  constructor
  · rintro ⟨-, -, -, hcapacity⟩
    exact hcapacity
  · intro hshort
    exact ⟨isWritable_of_le (by omega) hshort, isWritable_of_le (by omega) hshort,
      isWritable_of_le (by omega) hshort, hshort⟩

/-- An object shows these numbers and a word that is short. -/
theorem all_isWritable_fieldsWith_scan (block : ByteArray) (next : Bank) :
    (((TrialLog.scan block).fieldsWith next).all fun f => Fields.isWritable f.2) =
      (TrialLog.scan block).counts.all Numeral.isWritable := by
  cases hword : (TrialLog.scan block).strayWord with
  | none => simp [TrialLog.fieldsWith, TrialLog.fields, TrialLog.counts, hword, Fields.isWritable]
  | some word =>
    simp [TrialLog.fieldsWith, TrialLog.fields, TrialLog.counts, hword, Fields.isWritable,
      isWritable_strayWord hword]

/-- How a command ends that shows the log of an image. -/
def trialsEnd (maxTrials : Option Int) (g : Geometry) : Except Failure ExitCode :=
  match maxTrials with
  | none => .error (.slip .nullValue)
  | some _ =>
    if Numeral.isWritable (g.blockSize / TrialLog.wordSize : Nat) then .ok .success
    else .error .longNumber

/-- What is printed of a log. -/
def trialLines (json : Bool) (trials : Int) (log : TrialLog) : List String :=
  if json then [(log.fieldsWith (log.nextBank trials)).objectText]
  else log.linesWith (log.nextBank trials)

/-- The log of an image is printed, or its counts are too long. -/
theorem runOn_printTrials (trials : Int) (json : Bool) {content : ByteArray}
    (hsize : content.size = g.totalSize) (w : World) :
    let log := TrialLog.scan (ofContent g content).metadata
    (printTrials (some trials) json (ofContent g content)).runOn w =
      if Numeral.isWritable (g.blockSize / TrialLog.wordSize : Nat) then
        (.ok .success, { w with printed := w.printed ++ trialLines json trials log })
      else (.error .longNumber, w) := by
  intro log
  have hcounts : log.counts.all Numeral.isWritable =
      Numeral.isWritable (g.blockSize / TrialLog.wordSize : Nat) := by
    rw [all_isWritable_counts_scan, Image.size_metadata_ofContent hsize]
  rw [printTrials, trialLines]
  dsimp only
  cases json with
  | false =>
    simp only [Bool.false_eq_true, if_false]
    rw [Action.runOn_bind, runOn_printLog, TrialLog.lines?, hcounts]
    generalize Numeral.isWritable _ = short
    cases short <;> rfl
  | true =>
    simp only [if_true]
    rw [Action.runOn_bind, runOn_printFields, Fields.json?, all_isWritable_fieldsWith_scan, hcounts]
    generalize Numeral.isWritable _ = short
    cases short <;> rfl

theorem looksAt_trials (hconfig : device.config = .missing) (image : Path)
    (maxTrials : Option Int) (json : Bool) (w : World) :
    LooksAt s device image w (fun g _ => trialsEnd maxTrials g)
      (expecting [.data, .missing, .system, .record] (fun _ => .dataError)
        (imageFor s image device) (printTrials maxTrials json)) := by
  have hfor := runOn_geometryFor (s := s) hconfig w
  constructor
  case slip =>
    intro hslip
    rw [hslip] at hfor
    have himage := Action.runOn_bind_error hfor (Image.read s image)
    exact (runOn_expecting_of_error (congrArg Prod.fst himage) _).1
  case fault =>
    intro fault hfault
    rw [hfault] at hfor
    have himage := Action.runOn_bind_error hfor (Image.read s image)
    refine (runOn_expecting_of_error (congrArg Prod.fst himage) _).1.trans ?_
    rw [endOn, Failure.kind_worded_of_data rfl]
    rfl
  case unread =>
    intro g failure hgeometry hread hexpected
    rw [hgeometry] at hfor
    have himage := (Action.runOn_bind_ok hfor (Image.read s image)).trans hread
    refine (runOn_expecting_of_error (congrArg Prod.fst himage) _).1.trans ?_
    rw [endOn, if_pos]
    cases hkind : failure.kind with
    | slip => exact absurd hkind hexpected
    | _ => rfl
  case read =>
    intro g content hgeometry hsize hread
    rw [hgeometry] at hfor
    have himage := (Action.runOn_bind_ok hfor (Image.read s image)).trans hread
    refine (congrArg Prod.fst (runOn_expecting_of_ok himage _)).trans ?_
    cases maxTrials with
    | none => rfl
    | some trials =>
      rw [runOn_printTrials trials json hsize, trialsEnd]
      split <;> rfl
  case beyond =>
    intro g hgeometry hread
    rw [hgeometry] at hfor
    have himage := (Action.runOn_bind_ok hfor (Image.read s image)).trans hread
    exact (runOn_expecting_of_error (congrArg Prod.fst himage) _).1

/-- **Showing boot trials.** -/
theorem showTrials_settles (hconfig : device.config = .missing) (hplain : image.IsPlain)
    (maxTrials : Option Int) (json : Bool) (w : World) :
    Settles (promisedToLook s w.tree device image fun _ _ => true)
      (TrialsHindered s w.tree device image maxTrials)
      ((showTrials s image maxTrials json device).runOn w).1 := by
  have hbody := looksAt_trials (s := s) hconfig image maxTrials json w
  rw [showTrials]
  refine settles_of_cases (fun r hr => ?_) (fun r hr => ?_) ?_
  · cases hr with
    | look hlook => exact withImage_of_hindered hplain hbody hlook
    | noTrials hgeometry hcontent hdata hroom hempty =>
      rw [withImage_of_content hplain hbody hgeometry hcontent hdata hroom, hempty]
      rfl
    | longCapacity hgeometry hcontent hdata hroom htrials hlong =>
      rw [withImage_of_content hplain hbody hgeometry hcontent hdata hroom, htrials, trialsEnd,
        hlong]
      rfl
  · cases hr with
    | look hlook => exact hlook.ne_promised fun _ _ _ _ => rfl
    | _ => simp
  · rcases withImage_cases (fun _ _ => true) hplain hbody with hkept | ⟨r, hr⟩ |
      ⟨g, content, hgeometry, hcontent, hdata, hroom⟩
    · exact .inl hkept
    · exact .inr ⟨r, .look hr⟩
    · rw [withImage_of_content hplain hbody hgeometry hcontent hdata hroom,
        promisedToLook_of_content hgeometry hcontent]
      cases maxTrials with
      | none => exact .inr ⟨_, .noTrials hgeometry hcontent hdata hroom rfl⟩
      | some trials =>
        rw [trialsEnd]
        cases hlong : Numeral.isWritable (g.blockSize / TrialLog.wordSize : Nat) with
        | true => exact .inl rfl
        | false => exact .inr ⟨_, .longCapacity hgeometry hcontent hdata hroom rfl hlong⟩

end NorFlash.CommandLine
