import NorFlash.Proofs.Artifact
import NorFlash.Proofs.CommandLine.Arguments
import NorFlash.Proofs.CommandLine.Expecting
import NorFlash.Proofs.Composer
import NorFlash.Proofs.Configuration
import NorFlash.Proofs.Persist.Promise
import NorFlash.Proofs.ReadBack

/-!
# Making an image

The image is put in place before the report on it is shown, so a run of `makeImage` that cannot show
the report has replaced the output already, and so has one whose output replaced a link that its
parent runs through. `makeImage_cases` tells the two ways in which a run goes,
`makeImage_keeps_output` when the output is kept by each run that does not end with success.
-/

namespace NorFlash.CommandLine

open FileTree

variable {s : Setting} {options : MakeOptions} {device : DeviceOptions}
  {config : Option Configuration} {g : Geometry} {artifact : ByteArray} {image : Image} {w : World}

/-! ## What a run starts from -/

/-- Reading the configuration that options name only reads files. -/
theorem readsFiles_configuration (s : Setting) (device : DeviceOptions)
    (buildDirectory : OptionValue Path) :
    Action.ReadsFiles (configuration s device buildDirectory) := by
  unfold configuration
  split
  · exact Action.readsFiles_pure _
  · exact Action.readsFiles_throw _
  · refine (Action.readsFiles_testEntry _ _ _).bind fun found => ?_
    split
    · exact Action.readsFiles_throw _
    · exact (Configuration.readsFiles_load _ _ _).bind fun config => Action.readsFiles_pure _

theorem isProper_of_configuration {buildDirectory : OptionValue Path} {w' : World}
    (h : (configuration s device buildDirectory).runOn w = (.ok config, w')) :
    ∀ c ∈ config, ∀ path ∈ c.output, path.IsProper := by
  unfold configuration at h
  split at h
  · obtain ⟨hnone, -⟩ := Prod.ext_iff.1 h
    obtain rfl := Except.ok.inj hnone
    simp
  · simp at h
  · obtain ⟨found, w₁, -, h⟩ := Action.of_runOn_bind_ok h
    split at h
    · simp at h
    · obtain ⟨c, w₂, hload, h⟩ := Action.of_runOn_bind_ok h
      obtain ⟨hsome, -⟩ := Prod.ext_iff.1 h
      obtain rfl := Except.ok.inj hsome
      simpa using Configuration.isProper_of_load hload

/-- A configuration whose file is there is loaded. -/
theorem runOn_configuration_of_found {buildDirectory : OptionValue Path} {path : Path}
    (hpath : device.config = .given path)
    (hfound : (Action.pathExists s path).runOn w = (.ok true, w)) :
    (configuration s device buildDirectory).runOn w =
      (((Configuration.load s path (environmentOf s buildDirectory)).runOn w).1.map some, w) := by
  have hload :=
    (Configuration.readsFiles_load s path (environmentOf s buildDirectory)).runOn w
  simp only [configuration, hpath]
  rw [Action.runOn_bind_ok hfound]
  simp only [Bool.not_true, Bool.false_eq_true, if_false]
  rw [Action.runOn_bind, hload]
  cases ((Configuration.load s path (environmentOf s buildDirectory)).runOn w).1 with
  | error failure => rfl
  | ok c => rfl

/-- A configuration that is there and describes a device is read. -/
theorem runOn_configuration {buildDirectory : OptionValue Path} {path : Path} {mode : Nat}
    {content : ByteArray} {settings : Settings} {c : Configuration}
    (hpath : device.config = .given path) (hschema : s.schemaPresent = true)
    (hnull : Action.hasNull path.render = false)
    (hfile : w.tree.status s.directory path.render = .ok (.file mode content))
    (hsettings : Configuration.settingsOf content = .ok settings)
    (hc : Configuration.ofSettings (environmentOf s buildDirectory) settings = .ok c) :
    (configuration s device buildDirectory).runOn w = (.ok (some c), w) := by
  have hfound : (Action.pathExists s path).runOn w = (.ok true, w) :=
    Action.runOn_testEntry_of_status hnull hfile
  have hload : (Configuration.load s path (environmentOf s buildDirectory)).runOn w =
      (.ok c, w) := by
    rw [Configuration.runOn_load hschema hnull hfile hsettings, hc, Action.runOn_ofExcept_ok]
  rw [runOn_configuration_of_found hpath hfound, hload]
  rfl

/-- The output is a path that was read from a text, wherever it comes from. -/
theorem isProper_outputOf (hoptions : HasProperOutput options)
    (hconfig : ∀ c ∈ config, ∀ path ∈ c.output, path.IsProper) :
    (outputOf options config).IsProper := by
  rw [outputOf]
  cases hchoice : options.output.or (config.bind (·.output)) with
  | none => exact Path.isProper_ofString _
  | some path =>
    rcases Option.or_eq_some_iff.1 hchoice with hgiven | ⟨-, hnamed⟩
    · exact hoptions path hgiven
    · obtain ⟨c, hc, hpath⟩ := Option.bind_eq_some_iff.1 hnamed
      exact hconfig c hc path hpath

/-- Where nothing is built, an artifact is read from a file, which changes none. -/
theorem keepsTree_of_providerOf {provider : Provider} (hbuild : options.build = false)
    (h : providerOf s options config = .ok provider) : provider.KeepsTree := by
  rw [providerOf, hbuild] at h
  split at h
  · obtain rfl := Except.ok.inj h
    exact (Provider.readsFiles_ofFile _ _).keepsTree
  · simp at h
  · obtain rfl := Except.ok.inj h
    exact (Provider.readsFiles_ofFile _ _).keepsTree

/-! ## Composing -/

/-- Where there is no device, nothing is composed. -/
theorem runOn_composeFor_of_geometry_error {failure : Failure} {w₁ : World}
    (hconfig : (configuration s device options.buildDirectory).runOn w = (.ok config, w₁))
    (hgeometry : geometryOf device config = .error failure) :
    (composeFor s options device).runOn w = (.error failure.worded, w₁) := by
  rw [composeFor, Action.runOn_bind_ok hconfig, hgeometry]
  exact Action.runOn_bind_error (Action.runOn_ofExcept_error ..) _

/-- Where the device and the source of the artifact are known, the artifact is composed. -/
theorem runOn_composeFor_of_provider {provider : Provider} {w₁ : World}
    (hconfig : (configuration s device options.buildDirectory).runOn w = (.ok config, w₁))
    (hgeometry : geometryOf device config = .ok g)
    (hprovider : providerOf s options config = .ok provider) :
    (composeFor s options device).runOn w =
      (compose s provider g (some (outputOf options config)) options.hex).runOn w₁ := by
  rw [composeFor, Action.runOn_bind_ok hconfig, hgeometry,
    Action.runOn_bind_ok (Action.runOn_ofExcept_ok ..), hprovider,
    Action.runOn_bind_ok (Action.runOn_ofExcept_ok ..)]

/-- The image is composed or not, and the tree is as it was until the image is put in place. -/
theorem runOn_composeFor {w₁ : World} (hbuild : options.build = false)
    (hconfig : (configuration s device options.buildDirectory).runOn w = (.ok config, w₁)) :
    let output := outputOf options config
    let run := (composeFor s options device).runOn w
    ((∃ failure, run.1 = .error failure) ∧ run.2.tree = w.tree) ∨
      ∃ g artifact image bytes w₂, geometryOf device config = .ok g ∧
        Image.compose (Layout.ofGeometry g) g artifact = .ok image ∧ w₂.tree = w.tree ∧
        run.1 = ((persist s bytes output).runOn w₂).1.map (fun _ =>
          Report.ofLayout (Layout.ofGeometry g) image.artifactSize (some output)) ∧
        run.2.tree = ((persist s bytes output).runOn w₂).2.tree := by
  dsimp only
  have hkept : w₁.tree = w.tree := by
    have htree := (readsFiles_configuration s device options.buildDirectory).keepsTree w
    rwa [hconfig] at htree
  rw [composeFor, Action.runOn_bind_ok hconfig]
  cases hgeometry : geometryOf device config with
  | error failure => exact .inl ⟨⟨_, rfl⟩, hkept⟩
  | ok g =>
    rw [Action.runOn_bind_ok (Action.runOn_ofExcept_ok ..)]
    cases hchoice : providerOf s options config with
    | error failure => exact .inl ⟨⟨_, rfl⟩, hkept⟩
    | ok provider =>
      rw [Action.runOn_bind_ok (Action.runOn_ofExcept_ok ..)]
      have hprovider := (keepsTree_of_providerOf hbuild hchoice w₁).trans hkept
      rcases runOn_compose_cases s provider g (outputOf options config) options.hex w₁ with
        ⟨hfail, htree⟩ | ⟨artifact, image, bytes, w₂, -, himage, -, htree, hresult, hafter⟩
      · exact .inl ⟨hfail, htree.trans hprovider⟩
      · exact .inr ⟨g, artifact, image, bytes, w₂, rfl, himage, htree.trans hprovider, hresult,
          hafter⟩

/-! ## Ending -/

/-- The command composes the image and shows the report on it; the failures that it expects are
noted. -/
theorem runOn_makeImage (s : Setting) (options : MakeOptions) (device : DeviceOptions)
    (w : World) :
    (makeImage s options device).runOn w =
      match (composeFor s options device).runOn w with
      | (.ok report, w') => (showMade options device report).runOn w'
      | (.error failure, w') =>
        if [.data, .missing, .system].contains failure.kind then
          (.ok (.ofKind failure.kind),
            { w' with log := w'.log ++ [⟨.error, "Exception: " ++ failure.message⟩] })
        else (.error failure, w') := by
  rw [makeImage, runOn_expecting]
  cases (composeFor s options device).runOn w with
  | mk result w₁ => cases result <;> rfl

theorem ofKind_ne_success (kind : FailureKind) : ExitCode.ofKind kind ≠ .success := by
  cases kind <;> simp [ExitCode.ofKind]

/-- A run whose image is not composed does not end with success. -/
theorem runOn_makeImage_of_error {failure : Failure} {w' : World}
    (h : (composeFor s options device).runOn w = (.error failure, w')) :
    let run := (makeImage s options device).runOn w
    run.1 ≠ .ok .success ∧ run.2.tree = w'.tree ∧
      (failure.kind = .system → run.1 = .ok .systemError) := by
  dsimp only
  rw [runOn_makeImage, h]
  dsimp only
  split
  · refine ⟨fun hbad => ofKind_ne_success _ (Except.ok.inj hbad), rfl, fun hkind => ?_⟩
    rw [hkind]
    rfl
  · next hother =>
    refine ⟨by simp, rfl, fun hkind => absurd ?_ hother⟩
    rw [hkind]
    rfl

/-- A run that has composed the image and put it in place shows the report on it. -/
theorem runOn_makeImage_of_compose (options : MakeOptions) {provider : Provider} {report : Report}
    {w₁ w₂ w' : World}
    (hconfig : (configuration s device options.buildDirectory).runOn w = (.ok config, w₁))
    (hgeometry : geometryOf device config = .ok g)
    (hchoice : providerOf s options config = .ok provider)
    (hprovider : provider.runOn w₁ = (.ok artifact, w₂))
    (hcompose : (compose s provider g (some (outputOf options config)) options.hex).runOn w₁ =
      (.ok report, w')) :
    let run := (makeImage s options device).runOn w
    run.1 = shown options device g ∧ run.2.tree = w'.tree := by
  dsimp only
  have hrun : (composeFor s options device).runOn w = (.ok report, w') :=
    (runOn_composeFor_of_provider hconfig hgeometry hchoice).trans hcompose
  obtain ⟨image, -, -, -, himage, -, -, -, -, rfl⟩ := of_runOn_compose hprovider hcompose
  rw [runOn_makeImage, hrun]
  exact runOn_showMade himage options device _ w'

/-- How a run ends whose image was put in place: the parent of the output is opened, and then the
report is shown. -/
def ending (s : Setting) (options : MakeOptions) (device : DeviceOptions) (g : Geometry)
    (output : Path) (after : FileTree) : Except Failure ExitCode :=
  match after.status s.directory output.parent.render with
  | .ok _ => shown options device g
  | .error _ => .ok .systemError

/-- A run that has moved the image onto the output ends as the opening of the parent tells. -/
theorem runOn_makeImage_of_opened {output : Path} {opened : Except Failure Unit} {w' : World}
    (himage : Image.compose (Layout.ofGeometry g) g artifact = .ok image)
    (hrun : (composeFor s options device).runOn w = (opened.map fun _ =>
      Report.ofLayout (Layout.ofGeometry g) image.artifactSize (some output), w'))
    (hopen : Opened s output w'.tree opened) :
    let run := (makeImage s options device).runOn w
    run.1 = ending s options device g output w'.tree ∧ run.2.tree = w'.tree := by
  dsimp only
  rcases hopen with ⟨rfl, node, hstatus⟩ | ⟨errno, rfl, hstatus⟩
  · rw [runOn_makeImage, hrun, ending, hstatus]
    exact runOn_showMade himage options device (some output) w'
  · obtain ⟨-, hkept, hsystem⟩ := runOn_makeImage_of_error hrun
    rw [ending, hstatus]
    exact ⟨hsystem rfl, hkept⟩

/-- A run does not end with success and makes missing directories only, or it replaces the output
and its end is known. -/
theorem makeImage_cases {w₁ : World} (hoptions : HasProperOutput options)
    (hbuild : options.build = false)
    (hconfig : (configuration s device options.buildDirectory).runOn w = (.ok config, w₁)) :
    let output := outputOf options config
    let made := ((Action.ensureDirectories s output.parent).runOn w).2.tree
    let run := (makeImage s options device).runOn w
    MadeOnPath s output.parent w.tree made ∧
      ((run.1 ≠ .ok .success ∧ MadeOnPath s output.parent w.tree run.2.tree) ∨
        ∃ g bytes place, geometryOf device config = .ok g ∧
          Moved s bytes output made run.2.tree place ∧
          run.1 = ending s options device g output run.2.tree) := by
  intro output made run
  have hp : output.IsProper := isProper_outputOf hoptions (isProper_of_configuration hconfig)
  obtain ⟨hmade, -⟩ := Action.ensures_ensureDirectories s output.parent w
  refine ⟨hmade, ?_⟩
  have hcompose := runOn_composeFor (s := s) hbuild hconfig
  dsimp only at hcompose
  cases hrun : (composeFor s options device).runOn w with
  | mk result w' =>
    rw [hrun] at hcompose
    rcases hcompose with ⟨⟨failure, hfail⟩, htree⟩ |
      ⟨g, artifact, image, bytes, w₂, hgeometry, himage, hsame, hresult, hafter⟩
    · dsimp only at hfail htree
      subst hfail
      obtain ⟨hcode, hkept, -⟩ := runOn_makeImage_of_error hrun
      refine .inl ⟨hcode, ?_⟩
      rw [hkept, htree]
      exact .refl s output.parent w.tree
    · dsimp only at hresult hafter
      obtain ⟨-, hcases⟩ := runOn_persist s bytes hp w₂
      rw [Action.tree_ensureDirectories hsame, ← hafter] at hcases
      rcases hcases with ⟨⟨failure, hfail⟩, hunchanged⟩ | ⟨place, hmoved, hopen⟩
      · rw [hfail] at hresult
        obtain rfl : result = .error failure := hresult
        obtain ⟨hcode, hkept, -⟩ := runOn_makeImage_of_error hrun
        refine .inl ⟨hcode, ?_⟩
        rw [hkept]
        exact hmade.of_get?_eq hunchanged
      · refine .inr ⟨g, bytes, place, hgeometry, ?_⟩
        rw [hresult] at hrun
        obtain ⟨hend, hkept⟩ := runOn_makeImage_of_opened himage hrun hopen
        exact ⟨by rwa [hkept], by rw [hend, hkept]⟩

/-! ## The promise -/

/-- What is promised of a run that makes an image: it ends with success, or all that was there is as
it was, and new entries are directories on the path to the output alone. -/
def OutputKept (s : Setting) (output : Path) (before : FileTree)
    (result : Except Failure ExitCode) (after : FileTree) : Prop :=
  result = .ok .success ∨ MadeOnPath s output.parent before after

theorem shown_eq_success_iff :
    shown options device g = .ok .success ↔ canShow options device g := by
  rw [shown]
  split
  · next hshow => simp [hshow]
  · next hshow => simp [hshow]

theorem ending_eq_success_iff {output : Path} {after : FileTree} :
    ending s options device g output after = .ok .success ↔
      (∃ node, after.status s.directory output.parent.render = .ok node) ∧
        canShow options device g := by
  rw [ending]
  cases after.status s.directory output.parent.render with
  | ok node => simp [shown_eq_success_iff]
  | error errno => simp

/-- A move that leaves all that was there as it was puts the file that is there already. -/
theorem same_of_madeOnPath {bytes : ByteArray} {output : Path} {before made after : FileTree}
    {place : Place} (hmoved : Moved s bytes output made after place)
    (hmade : MadeOnPath s output.parent before made)
    (hafter : MadeOnPath s output.parent before after) :
    made.get? place.location = some (.file outputMode bytes) := by
  have hfile : after.get? place.location = some (.file outputMode bytes) := by
    rw [hmoved.put, if_pos rfl]
  rcases hafter place.location with heq | ⟨-, hdir, -⟩
  · exact hmade.get?_eq (heq.symm.trans hfile)
  · simp [hfile] at hdir

/-- **When the output is kept.** A command that builds nothing, with a configuration that is read or
none, keeps the promise exactly if, wherever its output is replaced, the parent of the output still
leads to an entry and the report can be shown, or the very same file was there before. It keeps it
if the report on each device that is described can be shown, unless the output leads to a link
without which its parent leads to no directory. In each run nothing but the output's own entry and
missing directories on the path to it changes, and a run that replaces the output ends as `ending`
says. -/
theorem makeImage_keeps_output (s : Setting) (w : World) {words : List String} {verbosity : Nat}
    (hwords : Arguments.parse words = .ok ⟨verbosity, some (.makeImage options, device)⟩)
    (hbuild : options.build = false)
    (hconfig : ((configuration s device options.buildDirectory).runOn w).1 = .ok config) :
    let output := outputOf options config
    let made := ((Action.ensureDirectories s output.parent).runOn w).2.tree
    let run := (makeImage s options device).runOn w
    (OutputKept s output w.tree run.1 run.2.tree ↔
      ∀ g bytes place, geometryOf device config = .ok g →
        Moved s bytes output made run.2.tree place →
        ((∃ node, run.2.tree.status s.directory output.parent.render = .ok node) ∧
          canShow options device g) ∨
        made.get? place.location = some (.file outputMode bytes)) ∧
    ((∀ g, geometryOf device config = .ok g → canShow options device g) →
      (∀ loc target, made.find s.directory false output.render = .ok loc →
        made.get? loc = some (.link target) →
        (made.erase loc).test s.directory output.parent.render Node.isDirectory = .ok true) →
      OutputKept s output w.tree run.1 run.2.tree) ∧
    MadeOnPath s output.parent w.tree made ∧
    ((run.1 ≠ .ok .success ∧ MadeOnPath s output.parent w.tree run.2.tree) ∨
      ∃ g bytes place, geometryOf device config = .ok g ∧
        Moved s bytes output made run.2.tree place ∧
        run.1 = ending s options device g output run.2.tree) := by
  intro output made run
  obtain ⟨w₁, hload⟩ : ∃ w₁, (configuration s device options.buildDirectory).runOn w =
      (.ok config, w₁) := ⟨_, Prod.ext hconfig rfl⟩
  obtain ⟨hmade, hcases⟩ :=
    makeImage_cases (Arguments.hasProperOutput_of_parse hwords) hbuild hload
  refine ⟨⟨fun hkept g bytes place hgeometry hmoved => ?_, fun hall => ?_⟩,
    fun hshow hlink => ?_, hmade, hcases⟩
  · rcases hcases with ⟨-, hafter⟩ | ⟨g', bytes', place', hgeometry', hmoved', hend⟩
    · exact .inr (same_of_madeOnPath hmoved hmade hafter)
    · obtain rfl : g' = g := Except.ok.inj (hgeometry'.symm.trans hgeometry)
      rcases hkept with hsuccess | hafter
      · exact .inl (ending_eq_success_iff.1 (hend.symm.trans hsuccess))
      · exact .inr (same_of_madeOnPath hmoved hmade hafter)
  · rcases hcases with ⟨-, hafter⟩ | ⟨g, bytes, place, hgeometry, hmoved, hend⟩
    · exact .inr hafter
    · rcases hall g bytes place hgeometry hmoved with hshown | hsame
      · exact .inl (hend.trans (ending_eq_success_iff.2 hshown))
      · refine .inr (hmade.of_get?_eq fun loc => ?_)
        rw [hmoved.put]
        split
        · next heq => rw [heq, hsame]
        · rfl
  · rcases hcases with ⟨-, hafter⟩ | ⟨g, bytes, place, hgeometry, hmoved, hend⟩
    · exact .inr hafter
    · obtain ⟨loc, hlocate, mode, hdir⟩ := test_isDirectory_iff.1 (hmoved.parent_of_find hlink)
      have hstatus := status_eq_ok_iff.2 ⟨loc, hlocate, hdir⟩
      exact .inl (hend.trans (ending_eq_success_iff.2 ⟨⟨_, hstatus⟩, hshow g hgeometry⟩))

/-! ## A device without an address -/

/-- A configuration of four blocks of sixteen bytes that have no address. -/
def addresslessText : String :=
  "name: t\nflash:\n  device_size: 64\n  block_size: 16\n  base_address: ~\n"

/-- The configuration, an artifact, and an image that was made before. -/
def addresslessTree : FileTree :=
  ⟨[(["a.bin"], .file outputMode ⟨#[1, 2]⟩), (["c.yml"], .file outputMode addresslessText.toUTF8),
    (["o.img"], .file outputMode ⟨#[7]⟩)]⟩

/-- The device that is described. -/
def addressless : Geometry :=
  { smallDevice with baseAddress := none }

/-- What is read of the configuration. -/
def addresslessConfiguration : Configuration :=
  ⟨.text "t", addressless, none, none, none⟩

/-- The files to read and to write. -/
def addresslessOptions (json : Bool) : MakeOptions :=
  ⟨some (Path.ofString "o.img"), .given (Path.ofString "a.bin"), false, .missing, false, json⟩

/-- The configuration is named, and nothing of the device is given besides. -/
def addresslessDevice : DeviceOptions :=
  ⟨.given (Path.ofString "c.yml"), .missing, .missing, .missing⟩

theorem locate_addresslessTree {t : FileTree} {name : String} {data : ByteArray} (follow : Bool)
    (hname : name ∈ ["a.bin", "c.yml", "o.img"])
    (hget : t.get? [name] = some (.file outputMode data)) :
    t.locate [] follow name = .ok (.entry [name]) := by
  simp only [List.mem_cons, List.not_mem_nil, or_false] at hname
  rcases hname with rfl | rfl | rfl
  · exact locate_root ⟨by decide, by decide, by decide⟩ (by decide) hget (by simp)
  · exact locate_root ⟨by decide, by decide, by decide⟩ (by decide) hget (by simp)
  · exact locate_root ⟨by decide, by decide, by decide⟩ (by decide) hget (by simp)

theorem runOn_configuration_addressless :
    (configuration .atRoot addresslessDevice .missing).runOn (.ofTree addresslessTree) =
      (.ok (some addresslessConfiguration), .ofTree addresslessTree) := by
  have htext : (Path.ofString "c.yml").render = "c.yml" := by decide
  have hfile : addresslessTree.status [] (Path.ofString "c.yml").render =
      .ok (.file outputMode addresslessText.toUTF8) := by
    rw [htext]
    exact status_eq_ok_iff.2 ⟨_, locate_addresslessTree true (by decide) rfl, rfl⟩
  have hsettings : Configuration.settingsOf addresslessText.toUTF8 =
      .ok ⟨.text "t", 64, 16, some none, none, none⟩ := by
    decide +kernel
  exact runOn_configuration rfl rfl (by decide) hfile hsettings rfl

theorem status_artifact_addressless :
    addresslessTree.status Setting.atRoot.directory (Path.ofString "a.bin").render =
      .ok (.file outputMode ⟨#[1, 2]⟩) := by
  have htext : (Path.ofString "a.bin").render = "a.bin" := by decide
  rw [htext]
  exact status_eq_ok_iff.2 ⟨_, locate_addresslessTree true (by decide) rfl, rfl⟩

theorem runOn_ofFile_addressless :
    (Provider.ofFile .atRoot (Path.ofString "a.bin")).runOn (.ofTree addresslessTree) =
      (.ok ⟨#[1, 2]⟩, .ofTree addresslessTree) := by
  rw [Provider.runOn_ofFile (w := .ofTree addresslessTree) (by decide) status_artifact_addressless]
  rfl

theorem runOn_ensureDirectories_addressless :
    (Action.ensureDirectories .atRoot (Path.ofString "o.img").parent).runOn
      (.ofTree addresslessTree) = (.ok (), .ofTree addresslessTree) :=
  Action.runOn_ensureDirectories (by decide) (by decide) (locate_here _ false) (test_here _)

theorem exists_runOn_persist_addressless (data : ByteArray) (log : List LogRecord) :
    ∃ w', (persist .atRoot data (Path.ofString "o.img")).runOn ⟨addresslessTree, log, []⟩ =
      (.ok (), w') := by
  have hmark : temporaryPath .atRoot (Path.ofString "o.img") 0 = "/.o.img.XXXXXXXX.tmp" := by
    decide +kernel
  have hfree : addresslessTree.locate [] false "/.o.img.XXXXXXXX.tmp" =
      .ok (.vacant [] ".o.img.XXXXXXXX.tmp") :=
    locate_eq_ok_iff.2 ⟨by decide, .vacant ⟨_, rfl⟩ ⟨by decide, by decide, by decide⟩ rfl⟩
  refine exists_runOn_persist_root data log (by decide) (by decide) hmark (by decide) hfree
    fun node => renameTarget_eq_ok_iff.2
      ⟨⟨_, locate_addresslessTree false (by decide) rfl, rfl, ?_⟩, [], "o.img", by decide,
        by decide, by decide⟩
  rintro ⟨mode, hmode⟩
  exact nomatch hmode

/-- The image of the device replaces the one from before, whether or not the report on it can be
shown. -/
theorem runOn_makeImage_addressless (json : Bool) :
    let options := addresslessOptions json
    let run := (makeImage .atRoot options addresslessDevice).runOn (.ofTree addresslessTree)
    run.1 = shown options addresslessDevice addressless ∧
      ∃ bytes : ByteArray, bytes.data.toList = Image.composedBytes addressless ⟨#[1, 2]⟩ ∧
        run.2.tree.get? ["o.img"] = some (.file outputMode bytes) := by
  intro options run
  have hp := Path.isProper_ofString "o.img"
  have htext : (Path.ofString "o.img").render = "o.img" := by decide
  obtain ⟨report, w', hcompose⟩ := exists_runOn_compose (g := addressless) false
    runOn_ofFile_addressless (by decide) (by decide) (by simp) exists_runOn_persist_addressless
  obtain ⟨hend, htree⟩ := runOn_makeImage_of_compose options
    runOn_configuration_addressless rfl rfl runOn_ofFile_addressless hcompose
  obtain ⟨image, bytes, place, himage, hencode, hmoved⟩ :=
    moved_of_compose hp runOn_ofFile_addressless hcompose
  rw [runOn_ensureDirectories_addressless] at hmoved
  have hlocate := hmoved.locate
  rw [htext] at hlocate
  have hplace : Place.entry ["o.img"] = place :=
    Except.ok.inj ((locate_addresslessTree (t := addresslessTree) false (by decide) rfl).symm.trans
      hlocate)
  obtain ⟨-, -, -, hdata⟩ := Image.of_compose_eq_ok himage
  have hbytes : image.data = bytes := by
    simpa [Composer.encode] using hencode (.ofTree .empty)
  refine ⟨hend, bytes, by rw [← hbytes, hdata], ?_⟩
  rw [htree, hmoved.put, ← hplace]
  exact if_pos rfl

/-- A run whose report is an object keeps the promise, as the object may say that there is no
address. -/
theorem makeImage_keeps_output_null_address :
    let words := ["mkimg", "-c", "c.yml", "-a", "a.bin", "-j", "o.img"]
    let options := addresslessOptions true
    let w := World.ofTree addresslessTree
    let run := (makeImage .atRoot options addresslessDevice).runOn w
    Arguments.parse words = .ok ⟨0, some (.makeImage options, addresslessDevice)⟩ ∧
      ((configuration .atRoot addresslessDevice .missing).runOn w).1 =
        .ok (some addresslessConfiguration) ∧
      OutputKept .atRoot (Path.ofString "o.img") w.tree run.1 run.2.tree := by
  intro words options w run
  have hwords : Arguments.parse words = .ok ⟨0, some (.makeImage options, addresslessDevice)⟩ := by
    decide +kernel
  have hconfig : ((configuration .atRoot addresslessDevice .missing).runOn w).1 =
      .ok (some addresslessConfiguration) := by
    rw [runOn_configuration_addressless]
  have houtput : outputOf options (some addresslessConfiguration) = Path.ofString "o.img" := rfl
  have htext : (Path.ofString "o.img").render = "o.img" := by decide
  obtain ⟨-, hkept, -⟩ := makeImage_keeps_output .atRoot w hwords rfl hconfig
  rw [houtput, runOn_ensureDirectories_addressless, htext] at hkept
  refine ⟨hwords, hconfig, hkept (fun g hg => ?_) fun loc target hfind hlink => ?_⟩
  · obtain rfl : addressless = g := Except.ok.inj hg
    rfl
  · -- The output led to a file.
    have hfile : addresslessTree.locate [] false "o.img" = .ok (.entry ["o.img"]) :=
      locate_addresslessTree false (by decide) rfl
    obtain rfl : ["o.img"] = loc := by simpa using hfile.symm.trans (find_eq_ok_iff.1 hfind)
    exact nomatch hlink

/-- A run whose report has lines replaces the image from before, and fails because there is no
address to show. -/
theorem makeImage_without_address :
    let words := ["mkimg", "-c", "c.yml", "-a", "a.bin", "o.img"]
    let options := addresslessOptions false
    let w := World.ofTree addresslessTree
    let run := (makeImage .atRoot options addresslessDevice).runOn w
    Arguments.parse words = .ok ⟨0, some (.makeImage options, addresslessDevice)⟩ ∧
      ((configuration .atRoot addresslessDevice .missing).runOn w).1 =
        .ok (some addresslessConfiguration) ∧
      run.1 = .error (.slip .nullValue) ∧
      w.tree.get? ["o.img"] = some (.file outputMode ⟨#[7]⟩) ∧
      (∃ bytes : ByteArray, bytes.data.toList = Image.composedBytes addressless ⟨#[1, 2]⟩ ∧
        run.2.tree.get? ["o.img"] = some (.file outputMode bytes)) ∧
      ¬ OutputKept .atRoot (Path.ofString "o.img") w.tree run.1 run.2.tree := by
  intro words options w run
  have hconfig : ((configuration .atRoot addresslessDevice .missing).runOn w).1 =
      .ok (some addresslessConfiguration) := by
    rw [runOn_configuration_addressless]
  obtain ⟨hend, bytes, hbytes, hafter⟩ := runOn_makeImage_addressless false
  have hbefore : w.tree.get? ["o.img"] = some (.file outputMode ⟨#[7]⟩) := rfl
  refine ⟨by decide +kernel, hconfig, hend, hbefore, ⟨bytes, hbytes, hafter⟩, ?_⟩
  rintro (hsuccess | hmade)
  · exact nomatch hend.symm.trans hsuccess
  · have hsame := hmade.get?_eq hbefore
    obtain ⟨-, rfl⟩ : outputMode = outputMode ∧ bytes = ⟨#[7]⟩ := by
      simpa using hafter.symm.trans hsame
    exact absurd hbytes (by decide)

end NorFlash.CommandLine
