import NorFlash.Proofs.CommandLine.Expecting
import NorFlash.Proofs.CommandLine.MakeImage

/-!
# Making an image without a configuration

How a command ends that makes an image: each step of it that fails has a failure of its own kind,
and the kind decides on the exit code. An image that is composed is put in place or not
(`placeable`), and if it is, the command ends as `ending` tells.
-/

namespace NorFlash

/-! ## Runs of the steps -/

section

variable {s : Setting} {provider : Provider} {g : Geometry} (output : Path) (hexOutput : Bool)
  {artifact : ByteArray} {w w₁ : World}

theorem runOn_composeSteps_of_planFor_error {failure : Failure}
    (hprovider : provider.runOn w = (.ok artifact, w₁))
    (hplan : (planFor g artifact.size).runOn w₁ = (.error failure, w₁)) :
    (composeSteps s provider g output hexOutput).runOn w = (.error failure, w₁) := by
  rw [composeSteps, Action.runOn_bind_ok hprovider, Action.runOn_bind_error hplan]

/-- An artifact that fits on a device that is larger than any memory is planned and not composed. -/
theorem runOn_composeSteps_of_large (hprovider : provider.runOn w = (.ok artifact, w₁))
    (hfits : artifact.size ≤ g.metadataOffset) (hshort : Numeral.isWritable artifact.size = true)
    (hlarge : Image.memoryBound ≤ g.totalSize) :
    let run := (composeSteps s provider g output hexOutput).runOn w
    run.1 = .error (.slip (if Image.indexBound ≤ g.totalSize then .wideAddress else .noMemory)) ∧
      run.2.tree = w₁.tree := by
  dsimp only
  obtain ⟨log, hplan⟩ := runOn_planFor (Layout.plan_of_le hfits) hshort w₁
  rw [composeSteps, Action.runOn_bind_ok hprovider, Action.runOn_bind_ok hplan,
    Image.compose_of_memoryBound_le hfits hlarge,
    Action.runOn_bind_error (Action.runOn_ofExcept_error ..)]
  split
  · exact ⟨rfl, rfl⟩
  · exact ⟨rfl, rfl⟩

/-- An artifact that fits on a device in memory is composed, and the steps end as the putting in
place of its image does. -/
theorem runOn_composeSteps_of_fits (hprovider : provider.runOn w = (.ok artifact, w₁))
    (hfits : artifact.size ≤ g.metadataOffset) (hsmall : g.totalSize < Image.memoryBound)
    (hhex : hexOutput = true → artifact.size ≤ 0x100000000) :
    let run := (composeSteps s provider g output hexOutput).runOn w
    ∃ image bytes, Image.compose (Layout.ofGeometry g) g artifact = .ok image ∧
      (∀ w, (Composer.encode hexOutput image).runOn w = (.ok bytes, w)) ∧
      run.1 = ((persist s bytes output).runOn w₁).1.map (fun _ =>
        Report.ofLayout (Layout.ofGeometry g) image.artifactSize (some output)) ∧
      run.2.tree = ((persist s bytes output).runOn w₁).2.tree := by
  dsimp only
  have hoff := g.metadataOffset_add_blockSize
  obtain ⟨log, hplan⟩ := runOn_planFor (Layout.plan_of_le hfits)
    (Image.isWritable_of_lt (Nat.lt_of_le_of_lt (by omega) hsmall)) w₁
  obtain ⟨image, himage⟩ := Image.exists_compose_eq_ok hfits hsmall
  obtain ⟨bytes, hencode⟩ := Image.exists_runOn_encode hhex himage
  -- What was noted has no bearing on the putting in place.
  obtain ⟨hresult, hafter⟩ : ((persist s bytes output).runOn { w₁ with log := log }).1 =
      ((persist s bytes output).runOn w₁).1 ∧ _ := byTree_persist s bytes output _ w₁ rfl
  refine ⟨image, bytes, himage, hencode, ?_⟩
  rw [← hresult, ← hafter, composeSteps, Action.runOn_bind_ok hprovider,
    Action.runOn_bind_ok hplan, himage, Action.runOn_bind_ok (Action.runOn_ofExcept_ok ..),
    putImage, Action.runOn_bind, Action.runOn_bind_ok (hencode _)]
  cases (persist s bytes output).runOn { w₁ with log := log } with
  | mk result w₂ =>
    cases result with
    | ok _ => exact ⟨rfl, rfl⟩
    | error failure => exact ⟨rfl, rfl⟩

end

namespace CommandLine

variable {s : Setting} {device : DeviceOptions} {options : MakeOptions} {g : Geometry}
  {path : Path} {artifact : ByteArray} {w : World}

/-! ## The artifact -/

/-- An artifact that is there is read. -/
theorem runOn_ofFile_of_artifactAt? (hplain : path.IsPlain)
    (h : artifactAt? s w.tree path = some artifact) :
    (Provider.ofFile s path).runOn w = (.ok artifact, w) := by
  rw [artifactAt?] at h
  split at h
  · next content hread =>
    obtain ⟨mode, hfile⟩ := FileTree.read_eq_ok_iff.1 hread
    rw [Provider.runOn_ofFile (Path.isPlain_iff.1 hplain) hfile]
    cases hdecode : Provider.decode path content with
    | ok found =>
      rw [hdecode] at h
      obtain rfl : found = artifact := Option.some.inj h
      rfl
    | error fault =>
      rw [hdecode] at h
      cases h
  · cases h

/-- A path that the system refuses to look at is an error of the system. -/
theorem runOn_ofFile_of_refused {errno : Errno} (hplain : path.IsPlain)
    (hstatus : w.tree.status s.directory path.render = .error errno)
    (hrefused : errno.meansAbsent = false) :
    (Provider.ofFile s path).runOn w = (.error (.file (.file (.of errno path.render))), w) := by
  have htest := Action.runOn_testEntry_of_isPlain (s := s) hplain Node.isFile w
  rw [FileTree.test, hstatus] at htest
  dsimp only at htest
  rw [hrefused, if_neg Bool.false_ne_true] at htest
  exact Action.runOn_bind_error htest _

/-- An artifact that is not there is a missing one, unless the system refuses to look for it. -/
theorem runOn_ofFile_of_none (hplain : path.IsPlain) (h : artifactAt? s w.tree path = none)
    (hlooked : ∀ errno, w.tree.status s.directory path.render = .error errno →
      errno.meansAbsent = true) :
    ∃ reason, (Provider.ofFile s path).runOn w = (.error (.missing path reason), w) := by
  have htest := Action.runOn_testEntry_of_isPlain (s := s) hplain Node.isFile w
  rw [FileTree.test] at htest
  have hmissing : (Action.isFile s path).runOn w = (.ok false, w) →
      (Provider.ofFile s path).runOn w = (.error (.missing path .notFound), w) :=
    fun hfound => Action.runOn_bind_ok hfound _
  cases hstatus : w.tree.status s.directory path.render with
  | error errno =>
    rw [hstatus] at htest
    dsimp only at htest
    rw [hlooked errno hstatus, if_pos rfl] at htest
    exact ⟨_, hmissing htest⟩
  | ok node =>
    rw [hstatus] at htest
    cases node with
    | directory mode => exact ⟨_, hmissing htest⟩
    | link target => exact ⟨_, hmissing htest⟩
    | file mode content =>
      rw [artifactAt?, FileTree.read, hstatus] at h
      dsimp only at h
      rw [Provider.runOn_ofFile (Path.isPlain_iff.1 hplain) hstatus]
      cases hdecode : Provider.decode path content with
      | error fault => exact ⟨_, rfl⟩
      | ok artifact =>
        rw [hdecode] at h
        cases h

/-! ## The steps of a command -/

theorem providerOf_of_source? (hbuild : options.asksForBuild = false)
    (hsource : options.source? = some path) :
    providerOf s options none = .ok (Provider.ofFile s path) := by
  rw [MakeOptions.asksForBuild] at hbuild
  rw [MakeOptions.source?] at hsource
  rw [providerOf]
  cases hartifact : options.artifact with
  | missing =>
    rw [hartifact] at hbuild hsource
    obtain rfl := Option.some.inj hsource
    rw [Bool.and_eq_false_iff] at hbuild
    rw [hbuild.resolve_right (by simp)]
    rfl
  | given other =>
    rw [hartifact] at hsource
    obtain rfl := Option.some.inj hsource
    rfl
  | empty =>
    rw [hartifact] at hsource
    cases hsource

/-- A command with a device and a file to read goes by the steps of a composer. -/
theorem runOn_composeFor_steps (hconfig : device.config = .missing)
    (hgeometry : geometryOf device none = .ok g) (hbuild : options.asksForBuild = false)
    (hsource : options.source? = some path) (w : World) :
    let run := (composeFor s options device).runOn w
    let steps := (composeSteps s (Provider.ofFile s path) g (outputOf options none)
      options.hex).runOn w
    run.1 = steps.1 ∧ run.2.tree = steps.2.tree := by
  dsimp only
  rw [runOn_composeFor_of_provider (runOn_configuration_missing hconfig _ w) hgeometry
    (providerOf_of_source? hbuild hsource)]
  exact runOn_compose_steps _ _ _ _ _ _

/-- A command whose image is not composed ends on the failure, and leaves the files as that does. -/
theorem makeImage_ends_on {failure : Failure}
    (h : ((composeFor s options device).runOn w).1 = .error failure) :
    let run := (makeImage s options device).runOn w
    run.1 = endOn [.data, .missing, .system] .ofKind failure ∧
      run.2.tree = ((composeFor s options device).runOn w).2.tree :=
  runOn_expecting_of_error h _

theorem makeImage_of_error {failure : Failure}
    (h : ((composeFor s options device).runOn w).1 = .error failure) :
    ((makeImage s options device).runOn w).1 =
      endOn [.data, .missing, .system] .ofKind failure :=
  (makeImage_ends_on h).1

section

variable (hconfig : device.config = .missing)

include hconfig

theorem makeImage_of_geometry_error {failure : Failure}
    (hgeometry : geometryOf device none = .error failure) :
    ((makeImage s options device).runOn w).1 =
      endOn [.data, .missing, .system] .ofKind failure.worded := by
  refine makeImage_of_error ?_
  rw [runOn_composeFor_of_geometry_error (runOn_configuration_missing hconfig _ w) hgeometry]

theorem makeImage_of_providerOf_error {failure : Failure}
    (hgeometry : geometryOf device none = .ok g)
    (hprovider : providerOf s options none = .error failure) :
    ((makeImage s options device).runOn w).1 =
      endOn [.data, .missing, .system] .ofKind failure.worded := by
  refine makeImage_of_error ?_
  rw [composeFor, Action.runOn_bind_ok (runOn_configuration_missing hconfig _ w), hgeometry,
    Action.runOn_bind_ok (Action.runOn_ofExcept_ok ..), hprovider,
    Action.runOn_bind_error (Action.runOn_ofExcept_error ..)]
  rfl

/-- A command whose steps fail ends on the failure. -/
theorem makeImage_of_steps_error {failure : Failure}
    (hgeometry : geometryOf device none = .ok g) (hbuild : options.asksForBuild = false)
    (hsource : options.source? = some path)
    (h : ((composeSteps s (Provider.ofFile s path) g (outputOf options none)
      options.hex).runOn w).1 = .error failure) :
    ((makeImage s options device).runOn w).1 =
      endOn [.data, .missing, .system] .ofKind failure :=
  makeImage_of_error
    ((runOn_composeFor_steps hconfig hgeometry hbuild hsource w).1.trans h)

/-! ## An artifact that fits -/

omit hconfig in
theorem Fits.exists_source {t : FileTree} (hfits : Fits s t device options g artifact) :
    ∃ path, options.source? = some path ∧ artifactAt? s t path = some artifact :=
  Option.bind_eq_some_iff.1 hfits.found

/-- A command whose device fits into memory composes an image and puts it in place. -/
theorem runOn_composeFor_of_fits (hfits : Fits s w.tree device options g artifact)
    (hsource : ∀ path, options.source? = some path → path.IsPlain)
    (hhex : options.hex = true → artifact.size ≤ 0x100000000)
    (hsmall : g.totalSize < Image.memoryBound) :
    ∃ image bytes, Image.compose (Layout.ofGeometry g) g artifact = .ok image ∧
      ((composeFor s options device).runOn w).1 =
        ((persist s bytes (outputOf options none)).runOn w).1.map (fun _ => Report.ofLayout
          (Layout.ofGeometry g) image.artifactSize (some (outputOf options none))) ∧
      ((composeFor s options device).runOn w).2.tree =
        ((persist s bytes (outputOf options none)).runOn w).2.tree := by
  obtain ⟨path, hpath, hartifact⟩ := hfits.exists_source
  have hprovider := runOn_ofFile_of_artifactAt? (hsource path hpath) hartifact
  obtain ⟨hrun, hkept⟩ :=
    runOn_composeFor_steps (s := s) hconfig hfits.geometry hfits.unbuilt hpath w
  rw [hrun, hkept]
  obtain ⟨image, bytes, himage, -, hends⟩ :=
    runOn_composeSteps_of_fits (s := s) _ _ hprovider hfits.size_le hsmall hhex
  exact ⟨image, bytes, himage, hends⟩

/-- A command that has put its image in place ends as the opening of the parent and the report
tell. -/
theorem makeImage_of_placeable (hfits : Fits s w.tree device options g artifact)
    (hsource : ∀ path, options.source? = some path → path.IsPlain)
    (hhex : options.hex = true → artifact.size ≤ 0x100000000)
    (hsmall : g.totalSize < Image.memoryBound)
    (hproper : (outputOf options none).IsProper) (houtput : (outputOf options none).IsPlain)
    (hdirectory : ∀ name ∈ s.directory, '\x00' ∉ name.toList)
    (hplaceable : placeable s w.tree (outputOf options none) = true) :
    let run := (makeImage s options device).runOn w
    run.1 = ending s options device g (outputOf options none) run.2.tree := by
  obtain ⟨image, bytes, himage, hresult, hafter⟩ :=
    runOn_composeFor_of_fits hconfig hfits hsource hhex hsmall
  have hopened : Opened s (outputOf options none) _
      ((persist s bytes (outputOf options none)).runOn w).1 :=
    runOn_persist_of_placeable hproper houtput hdirectory hplaceable
  rw [← hafter] at hopened
  obtain ⟨hend, hkept⟩ := runOn_makeImage_of_opened himage (Prod.ext hresult rfl) hopened
  dsimp only
  rw [hend, hkept]

/-- A command that cannot put its image in place ends with an error of the system. -/
theorem makeImage_of_not_placeable (hfits : Fits s w.tree device options g artifact)
    (hsource : ∀ path, options.source? = some path → path.IsPlain)
    (hhex : options.hex = true → artifact.size ≤ 0x100000000)
    (hsmall : g.totalSize < Image.memoryBound)
    (hproper : (outputOf options none).IsProper) (houtput : (outputOf options none).IsPlain)
    (hdirectory : ∀ name ∈ s.directory, '\x00' ∉ name.toList)
    (hplaceable : placeable s w.tree (outputOf options none) = false) :
    ((makeImage s options device).runOn w).1 = .ok .systemError := by
  obtain ⟨image, bytes, -, hresult, -⟩ :=
    runOn_composeFor_of_fits hconfig hfits hsource hhex hsmall
  obtain ⟨failure, hpersist, fault, rfl⟩ : ∃ failure,
      ((persist s bytes (outputOf options none)).runOn w).1 = .error failure ∧
        IsSystemFailure failure :=
    runOn_persist_of_not_placeable hproper houtput hdirectory hplaceable
  rw [hpersist] at hresult
  exact makeImage_of_error hresult

omit hconfig in
/-- The report on an image is shown, or it cannot be. -/
theorem shows_shown (hgeometry : geometryOf device none = .ok g) :
    Shows device options.json (shown options device g) := by
  rw [shown, canShow, baseAddress_of_geometryOf hgeometry]
  cases options.json with
  | false =>
    refine shows_lines ?_
    cases baseOf device <;> rfl
  | true => exact shows_object rfl

/-! ## Hindrances -/

/-- A hindrance tells how a command ends that makes an image. -/
theorem makeImage_of_hindered {r : Except Failure ExitCode}
    (hsource : ∀ path, options.source? = some path → path.IsPlain)
    (hhex : options.hex = true → ∀ artifact, options.artifact? s w.tree = some artifact →
      artifact.size ≤ 0x100000000)
    (hproper : (outputOf options none).IsProper) (houtput : (outputOf options none).IsPlain)
    (hdirectory : ∀ name ∈ s.directory, '\x00' ∉ name.toList)
    (h : MakeHindered s w.tree ((makeImage s options device).runOn w).2.tree device options r) :
    ((makeImage s options device).runOn w).1 = r := by
  cases h with
  | noSize hslip => exact makeImage_of_geometry_error hconfig hslip
  | noArtifact hgeometry hempty =>
    have hprovider : providerOf s options none = .error (.slip .nullValue) := by
      rw [providerOf, hempty]
    exact makeImage_of_providerOf_error hconfig hgeometry hprovider
  | artifactRefused hgeometry hbuild hpath hstatus hrefused =>
    have hprovider := runOn_ofFile_of_refused (hsource _ hpath) hstatus hrefused
    exact makeImage_of_steps_error hconfig hgeometry hbuild hpath
      (congrArg Prod.fst (Action.runOn_bind_error hprovider _))
  | longArtifact hfits hlong =>
    obtain ⟨path, hpath, hartifact⟩ := hfits.exists_source
    have hprovider := runOn_ofFile_of_artifactAt? (hsource path hpath) hartifact
    have hplan := runOn_planFor_of_long ⟨by omega, by exact_mod_cast hfits.size_le⟩ hlong w
    exact makeImage_of_steps_error hconfig hfits.geometry hfits.unbuilt hpath
      (congrArg Prod.fst (runOn_composeSteps_of_planFor_error _ _ hprovider hplan))
  | largeDevice hfits hshort hlarge =>
    obtain ⟨path, hpath, hartifact⟩ := hfits.exists_source
    have hprovider := runOn_ofFile_of_artifactAt? (hsource path hpath) hartifact
    refine (makeImage_of_steps_error hconfig hfits.geometry hfits.unbuilt hpath
      (runOn_composeSteps_of_large _ _ hprovider hfits.size_le hshort hlarge).1).trans ?_
    split
    · rfl
    · rfl
  | parentLost hfits hsmall hplaceable hparent =>
    have hend := makeImage_of_placeable hconfig hfits hsource (fun h => hhex h _ hfits.found) hsmall
      hproper houtput hdirectory hplaceable
    rw [hend, ending, hparent]
  | unshown hfits hsmall hplaceable hparent hunshowable =>
    have hend := makeImage_of_placeable hconfig hfits hsource (fun h => hhex h _ hfits.found) hsmall
      hproper houtput hdirectory hplaceable
    rw [hend, ending, hparent]
    exact (shows_shown hfits.geometry).eq_error hunshowable

end

/-! ## What is promised -/

theorem promisedToMake_of_no_device {t : FileTree} {failure : Failure}
    (h : geometryOf device none = .error failure) :
    promisedToMake s t device options = .dataError := by
  unfold promisedToMake
  rw [geometry?_of_error h]

theorem promisedToMake_of_asksForBuild {t : FileTree} (h : geometryOf device none = .ok g)
    (hbuild : options.asksForBuild = true) : promisedToMake s t device options = .dataError := by
  unfold promisedToMake
  rw [geometry?_of_ok h]
  exact if_pos hbuild

theorem promisedToMake_of_missing {t : FileTree} (h : geometryOf device none = .ok g)
    (hbuild : options.asksForBuild = false) (hartifact : options.artifact? s t = none) :
    promisedToMake s t device options = .noInput := by
  unfold promisedToMake
  rw [geometry?_of_ok h]
  dsimp only
  rw [hbuild, if_neg Bool.false_ne_true, hartifact]

theorem promisedToMake_of_artifact {t : FileTree} (h : geometryOf device none = .ok g)
    (hbuild : options.asksForBuild = false) (hartifact : options.artifact? s t = some artifact) :
    promisedToMake s t device options =
      if g.metadataOffset < artifact.size then .dataError
      else if placeable s t (outputOf options none) then .success
      else .systemError := by
  unfold promisedToMake
  rw [geometry?_of_ok h]
  dsimp only
  rw [hbuild, if_neg Bool.false_ne_true, hartifact]

theorem promisedToMake_of_fits {t : FileTree} (hfits : Fits s t device options g artifact) :
    promisedToMake s t device options =
      if placeable s t (outputOf options none) then .success else .systemError := by
  rw [promisedToMake_of_artifact hfits.geometry hfits.unbuilt hfits.found,
    if_neg (Nat.not_lt.2 hfits.size_le)]

theorem artifact_of_source?_eq_none (h : options.source? = none) : options.artifact = .empty := by
  rw [MakeOptions.source?] at h
  split at h
  · cases h
  · cases h
  · assumption

theorem providerOf_of_asksForBuild (h : options.asksForBuild = true) :
    providerOf s options none = .error (.configuration .noBuildStep) := by
  rw [MakeOptions.asksForBuild, Bool.and_eq_true, decide_eq_true_eq] at h
  rw [providerOf, h.2, h.1]
  rfl

section

variable (hconfig : device.config = .missing)
  (hsource : ∀ path, options.source? = some path → path.IsPlain)
  (hproper : (outputOf options none).IsProper) (houtput : (outputOf options none).IsPlain)
  (hdirectory : ∀ name ∈ s.directory, '\x00' ∉ name.toList)

include hconfig hsource

/-- Where the device and the path of the artifact are known, an artifact that is not there or does
not fit decides on the exit code, unless the system refuses to look for it. -/
theorem makeImage_cases_of_source (hgeometry : geometryOf device none = .ok g)
    (hbuild : options.asksForBuild = false) (hpath : options.source? = some path) :
    ((makeImage s options device).runOn w).1 =
        .ok (promisedToMake s w.tree device options) ∨
      (∃ errno, w.tree.status s.directory path.render = .error errno ∧
        errno.meansAbsent = false) ∨
      ∃ artifact, Fits s w.tree device options g artifact := by
  have hbind : options.artifact? s w.tree = artifactAt? s w.tree path := by
    rw [MakeOptions.artifact?, hpath]
    rfl
  cases hartifact : artifactAt? s w.tree path with
  | none =>
    by_cases hlooked : ∀ errno, w.tree.status s.directory path.render = .error errno →
        errno.meansAbsent = true
    · obtain ⟨reason, hprovider⟩ :=
        runOn_ofFile_of_none (s := s) (hsource path hpath) hartifact hlooked
      refine .inl ((makeImage_of_steps_error hconfig hgeometry hbuild hpath
        (congrArg Prod.fst (Action.runOn_bind_error hprovider _))).trans ?_)
      rw [promisedToMake_of_missing hgeometry hbuild (hbind.trans hartifact)]
      rfl
    · right
      left
      push Not at hlooked
      obtain ⟨errno, hstatus, hrefused⟩ := hlooked
      exact ⟨errno, hstatus, Bool.eq_false_iff.2 hrefused⟩
  | some artifact =>
    by_cases hle : artifact.size ≤ g.metadataOffset
    · exact .inr (.inr ⟨artifact, hgeometry, hbuild, hbind.trans hartifact, hle⟩)
    · have hprovider := runOn_ofFile_of_artifactAt? (hsource path hpath) hartifact
      obtain ⟨failure, hplan, hkind⟩ : ∃ failure,
          (planFor g artifact.size).runOn w = (.error failure, w) ∧ failure.kind = .data :=
        runOn_planFor_of_not_fits (by omega) w
      refine .inl ((makeImage_of_steps_error hconfig hgeometry hbuild hpath
        (congrArg Prod.fst (runOn_composeSteps_of_planFor_error _ _ hprovider hplan))).trans ?_)
      rw [promisedToMake_of_artifact hgeometry hbuild (hbind.trans hartifact),
        if_pos (Nat.lt_of_not_le hle), endOn, hkind]
      rfl

include hproper houtput hdirectory

/-- A command whose artifact fits keeps its promise or meets a hindrance. -/
theorem makeImage_cases_of_fits (hfits : Fits s w.tree device options g artifact)
    (hhex : options.hex = true → artifact.size ≤ 0x100000000) :
    let run := (makeImage s options device).runOn w
    run.1 = .ok (promisedToMake s w.tree device options) ∨
      ∃ r, MakeHindered s w.tree run.2.tree device options r := by
  dsimp only
  by_cases hsmall : g.totalSize < Image.memoryBound
  · rw [promisedToMake_of_fits hfits]
    cases hplaceable : placeable s w.tree (outputOf options none) with
    | false =>
      exact .inl (makeImage_of_not_placeable hconfig hfits hsource hhex hsmall hproper houtput
        hdirectory hplaceable)
    | true =>
      have hend := makeImage_of_placeable hconfig hfits hsource hhex hsmall hproper houtput
        hdirectory hplaceable
      dsimp only at hend
      generalize ((makeImage s options device).runOn w).2.tree = after at hend ⊢
      rw [ending] at hend
      cases hparent : after.status s.directory (outputOf options none).parent.render with
      | error errno => exact .inr ⟨_, .parentLost hfits hsmall hplaceable hparent⟩
      | ok node =>
        rw [hparent] at hend
        have hshows : Shows device options.json (shown options device g) :=
          shows_shown hfits.geometry
        rcases hshows with ⟨hshown, -⟩ | ⟨failure, hunshowable, -⟩
        · exact .inl (hend.trans hshown)
        · exact .inr ⟨_, .unshown hfits hsmall hplaceable hparent hunshowable⟩
  · have hlarge := Nat.le_of_not_lt hsmall
    cases hlength : Numeral.isWritable artifact.size with
    | false => exact .inr ⟨_, .longArtifact hfits hlength⟩
    | true => exact .inr ⟨_, .largeDevice hfits hlength hlarge⟩

/-- **Making an image.** -/
theorem makeImage_settles (w : World)
    (hhex : options.hex = true → ∀ artifact, options.artifact? s w.tree = some artifact →
      artifact.size ≤ 0x100000000) :
    let run := (makeImage s options device).runOn w
    Settles (promisedToMake s w.tree device options)
      (MakeHindered s w.tree run.2.tree device options) run.1 := by
  refine settles_of_cases
    (fun r hr => makeImage_of_hindered hconfig hsource hhex hproper houtput hdirectory hr)
    (fun r hr => ?_) ?_
  · cases hr with
    | artifactRefused hgeometry hbuild hpath hstatus hrefused =>
      have hnone : options.artifact? s w.tree = none := by
        rw [MakeOptions.artifact?, hpath, Option.bind_some, artifactAt?, FileTree.read, hstatus]
      rw [promisedToMake_of_missing hgeometry hbuild hnone]
      simp
    | longArtifact hfits hlong =>
      rw [promisedToMake_of_fits hfits]
      split <;> simp
    | parentLost hfits hsmall hplaceable hparent =>
      rw [promisedToMake_of_fits hfits, hplaceable]
      simp
    | _ => simp
  · rcases geometryOf_cases device with ⟨g, hgeometry, -⟩ | hslip | ⟨fault, hfault⟩
    · cases hpath : options.source? with
      | none => exact .inr ⟨_, .noArtifact hgeometry (artifact_of_source?_eq_none hpath)⟩
      | some path =>
        cases hbuild : options.asksForBuild with
        | true =>
          refine .inl ((makeImage_of_providerOf_error hconfig hgeometry
            (providerOf_of_asksForBuild hbuild)).trans ?_)
          rw [promisedToMake_of_asksForBuild hgeometry hbuild, endOn,
            Failure.kind_worded_of_data rfl]
          rfl
        | false =>
          rcases makeImage_cases_of_source (w := w) hconfig hsource hgeometry hbuild hpath with
            hkept | ⟨errno, hstatus, hrefused⟩ | ⟨artifact, hfits⟩
          · exact .inl hkept
          · exact .inr ⟨_, .artifactRefused hgeometry hbuild hpath hstatus hrefused⟩
          · exact makeImage_cases_of_fits hconfig hsource hproper houtput hdirectory hfits
              fun h => hhex h artifact hfits.found
    · exact .inr ⟨_, .noSize hslip⟩
    · refine .inl ((makeImage_of_geometry_error hconfig hfault).trans ?_)
      rw [promisedToMake_of_no_device hfault, endOn, Failure.kind_worded_of_data rfl]
      rfl

end

end CommandLine

end NorFlash
