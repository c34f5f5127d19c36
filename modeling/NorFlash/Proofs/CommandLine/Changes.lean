import NorFlash.Proofs.CommandLine.ExitCode

/-!
# What a command line changes

A command line that builds nothing changes the output of the command that makes an image and makes
directories on the way to it, and nothing else (`run_changes_output`). Commands that look at a
layout or an image change nothing, however they end, and neither does a command that makes an image
if it has none to put in place (`Fruitless`).
-/

namespace NorFlash

/-! ## Actions that leave the tree as it is -/

namespace Action

variable {α : Type}

theorem keepsTree_print (line : String) : KeepsTree (print line) := fun _ => rfl

theorem KeepsTree.attempt {a : Action α} (ha : KeepsTree a) : KeepsTree (attempt a) := by
  intro w
  rw [runOn_attempt]
  exact ha w

/-- Where the files are the same, an action that only reads files ends in the same way. -/
theorem ReadsFiles.fst_eq {a : Action α} {w w' : World} (ha : ReadsFiles a)
    (h : w.tree = w'.tree) : (a.runOn w).1 = (a.runOn w').1 := by
  rw [ha w w' h]

end Action

theorem Image.keepsTree_check (s : Setting) (path : Path) (g : Geometry) :
    (Image.check s path g).KeepsTree := by
  have hexamine : (Image.examine s path g).KeepsTree :=
    (Image.readsFiles_read s path g).keepsTree.bind fun i =>
      (Action.keepsTree_ofExcept _ _).bind fun _ => Action.keepsTree_note _ _
  refine hexamine.attempt.bind fun answer => ?_
  split
  · exact Action.keepsTree_pure _
  · split
    · exact Action.keepsTree_throw _
    · exact (Action.keepsTree_note _ _).bind fun _ => Action.keepsTree_pure _

namespace CommandLine

open NorFlash.Action (keepsTree_pure keepsTree_throw keepsTree_note keepsTree_ofExcept
  keepsTree_print)

variable {α : Type} {s : Setting} {options : MakeOptions} {device : DeviceOptions}
  {config : Option Configuration} {w : World}

/-! ## Parts of commands -/

theorem keepsTree_printAll (lines : List String) : (printAll lines).KeepsTree :=
  Action.keepsTree_forM keepsTree_print

theorem keepsTree_printFields (fields : Fields) : (printFields fields).KeepsTree := by
  intro w
  rw [runOn_printFields]
  cases fields.json? <;> rfl

theorem keepsTree_printLog (log : TrialLog) (next : Bank) : (printLog log next).KeepsTree := by
  intro w
  rw [runOn_printLog]
  split <;> rfl

theorem keepsTree_printReport (r : Report) : (printReport r).KeepsTree := by
  intro w
  rw [runOn_printReport]
  split <;> rfl

/-- A command keeps the tree if its action does and what follows does. -/
theorem keepsTree_expecting (kinds : List FailureKind) (code : FailureKind → ExitCode)
    {a : Action α} {k : α → Action ExitCode} (ha : a.KeepsTree) (hk : ∀ x, (k x).KeepsTree) :
    (expecting kinds code a k).KeepsTree := by
  refine ha.attempt.bind fun answer => ?_
  split
  · exact hk _
  · split
    · exact (keepsTree_note _ _).bind fun _ => keepsTree_pure _
    · exact keepsTree_throw _

theorem keepsTree_geometryFor (s : Setting) (device : DeviceOptions) :
    (geometryFor s device).KeepsTree :=
  (readsFiles_configuration s device .missing).keepsTree.bind fun _ => keepsTree_ofExcept _ _

theorem keepsTree_withImage (s : Setting) (image : Path) {k : Action ExitCode}
    (hk : k.KeepsTree) : (withImage s image k).KeepsTree := by
  refine (Action.readsFiles_testEntry s image fun _ => true).keepsTree.bind fun found => ?_
  split
  · exact hk
  · exact (keepsTree_print _).bind fun _ => keepsTree_pure _

theorem keepsTree_showMade (options : MakeOptions) (device : DeviceOptions) (r : Report) :
    (showMade options device r).KeepsTree := by
  rw [showMade]
  split
  · exact (keepsTree_printFields _).bind fun _ => keepsTree_pure _
  · refine (keepsTree_print _).bind fun _ => (keepsTree_printReport r).bind fun _ => ?_
    split
    · exact (keepsTree_printAll _).bind fun _ => keepsTree_pure _
    · exact keepsTree_pure _

/-! ## Commands that only look -/

theorem keepsTree_showPlanned (json : Bool) (device : DeviceOptions) (made : Layout × Int) :
    (showPlanned json device made).KeepsTree := by
  rw [showPlanned]
  split
  · exact (keepsTree_printFields _).bind fun _ => keepsTree_pure _
  · exact (keepsTree_printReport _).bind fun _ => keepsTree_pure _

theorem keepsTree_showLayout (s : Setting) (artifactSize : Option Int) (json : Bool)
    (device : DeviceOptions) : (showLayout s artifactSize json device).KeepsTree := by
  refine keepsTree_expecting _ _ ((keepsTree_geometryFor s device).bind fun g => ?_)
    (keepsTree_showPlanned json device)
  split
  · exact (keepsTree_planFor g _).bind fun _ => keepsTree_pure _
  · exact keepsTree_throw _

theorem keepsTree_checkImage (s : Setting) (image : Path) (device : DeviceOptions) :
    (checkImage s image device).KeepsTree :=
  keepsTree_withImage s image <|
    keepsTree_expecting _ _ (keepsTree_geometryFor s device) fun g =>
      (Image.keepsTree_check s image g).bind fun _ =>
        (keepsTree_print _).bind fun _ => keepsTree_pure _

theorem keepsTree_printTrials (maxTrials : Option Int) (json : Bool) (i : Image) :
    (printTrials maxTrials json i).KeepsTree := by
  unfold printTrials
  split
  · exact keepsTree_throw _
  · dsimp only
    split
    · exact (keepsTree_printFields _).bind fun _ => keepsTree_pure _
    · exact (keepsTree_printLog _ _).bind fun _ => keepsTree_pure _

theorem keepsTree_showTrials (s : Setting) (image : Path) (maxTrials : Option Int) (json : Bool)
    (device : DeviceOptions) : (showTrials s image maxTrials json device).KeepsTree := by
  refine keepsTree_withImage s image (keepsTree_expecting _ _ ?_ (keepsTree_printTrials _ _))
  exact (keepsTree_geometryFor s device).bind fun g => (Image.readsFiles_read s image g).keepsTree

/-! ## Making an image -/

/-- There is no image to put in place: the configuration cannot be read, or it and the options tell
of no device or no artifact, or the artifact is missing or does not end before the metadata. -/
inductive Fruitless (s : Setting) (options : MakeOptions) (device : DeviceOptions) (w : World) :
    Prop where
  /-- The configuration cannot be read. -/
  | noConfiguration {failure : Failure}
    (h : ((configuration s device options.buildDirectory).runOn w).1 = .error failure) :
    Fruitless s options device w
  /-- The sizes are those of no device. -/
  | noDevice {config : Option Configuration} {failure : Failure}
    (hconfig : ((configuration s device options.buildDirectory).runOn w).1 = .ok config)
    (h : geometryOf device config = .error failure) : Fruitless s options device w
  /-- There is nothing to take the artifact from. -/
  | noSource {config : Option Configuration} {failure : Failure}
    (hconfig : ((configuration s device options.buildDirectory).runOn w).1 = .ok config)
    (h : providerOf s options config = .error failure) : Fruitless s options device w
  /-- The artifact is missing or cannot be read. -/
  | noArtifact {config : Option Configuration} {provider : Provider} {failure : Failure}
    (hconfig : ((configuration s device options.buildDirectory).runOn w).1 = .ok config)
    (hprovider : providerOf s options config = .ok provider)
    (h : (provider.runOn w).1 = .error failure) : Fruitless s options device w
  /-- The artifact is too large. -/
  | oversized {config : Option Configuration} {g : Geometry} {provider : Provider}
    {artifact : ByteArray}
    (hconfig : ((configuration s device options.buildDirectory).runOn w).1 = .ok config)
    (hgeometry : geometryOf device config = .ok g)
    (hprovider : providerOf s options config = .ok provider)
    (hartifact : (provider.runOn w).1 = .ok artifact) (h : g.metadataOffset < artifact.size) :
    Fruitless s options device w

/-- Reading the configuration leaves the world as it is. -/
theorem runOn_configuration_of_ok {buildDirectory : OptionValue Path}
    (h : ((configuration s device buildDirectory).runOn w).1 = .ok config) :
    (configuration s device buildDirectory).runOn w = (.ok config, w) := by
  rw [(readsFiles_configuration s device buildDirectory).runOn w, h]

/-- Showing the report changes no file, so the files are those that composing leaves. -/
theorem tree_makeImage (s : Setting) (options : MakeOptions) (device : DeviceOptions) (w : World) :
    ((makeImage s options device).runOn w).2.tree =
      ((composeFor s options device).runOn w).2.tree := by
  rw [runOn_makeImage]
  cases (composeFor s options device).runOn w with
  | mk result w' =>
    cases result with
    | ok report => exact keepsTree_showMade options device report w'
    | error failure =>
      dsimp only
      split
      · rfl
      · rfl

/-- Composing an artifact that is not there or is too large leaves the files that obtaining it
leaves. -/
theorem tree_compose_of_unfit {provider : Provider} {g : Geometry}
    (h : ∀ artifact, (provider.runOn w).1 = .ok artifact → g.metadataOffset < artifact.size)
    (output : Path) (hexOutput : Bool) :
    ((compose s provider g (some output) hexOutput).runOn w).2.tree =
      (provider.runOn w).2.tree := by
  rcases runOn_compose_cases s provider g output hexOutput w with
    ⟨-, htree⟩ | ⟨artifact, image, -, -, hartifact, himage, -⟩
  · exact htree
  · obtain ⟨hfits, -⟩ := Image.of_compose_eq_ok himage
    exact absurd (h artifact hartifact) (Nat.not_lt.2 hfits)

/-- Where nothing is built, an artifact is read from a file. -/
theorem readsFiles_of_providerOf {provider : Provider} (hbuild : options.build = false)
    (h : providerOf s options config = .ok provider) : Action.ReadsFiles provider := by
  rw [providerOf, hbuild] at h
  split at h
  · obtain rfl := Except.ok.inj h
    exact Provider.readsFiles_ofFile _ _
  · simp at h
  · obtain rfl := Except.ok.inj h
    exact Provider.readsFiles_ofFile _ _

/-- Whether there is an image to put in place depends on the files alone. -/
theorem Fruitless.of_tree_eq {w' : World} (h : Fruitless s options device w)
    (hbuild : options.build = false) (htree : w'.tree = w.tree) :
    Fruitless s options device w' := by
  have hsame : ((configuration s device options.buildDirectory).runOn w').1 =
      ((configuration s device options.buildDirectory).runOn w).1 :=
    (readsFiles_configuration s device options.buildDirectory).fst_eq htree
  cases h with
  | noConfiguration hfail => exact .noConfiguration (hsame.trans hfail)
  | noDevice hconfig hfail => exact .noDevice (hsame.trans hconfig) hfail
  | noSource hconfig hfail => exact .noSource (hsame.trans hconfig) hfail
  | noArtifact hconfig hprovider hfail =>
    have hread := (readsFiles_of_providerOf hbuild hprovider).fst_eq htree
    exact .noArtifact (hsame.trans hconfig) hprovider (hread.trans hfail)
  | oversized hconfig hgeometry hprovider hartifact hlarge =>
    have hread := (readsFiles_of_providerOf hbuild hprovider).fst_eq htree
    exact .oversized (hsame.trans hconfig) hgeometry hprovider (hread.trans hartifact) hlarge

/-- A run that has no image to put in place leaves the tree as it is. -/
theorem tree_composeFor_of_fruitless (hbuild : options.build = false)
    (h : Fruitless s options device w) :
    ((composeFor s options device).runOn w).2.tree = w.tree := by
  cases h with
  | noConfiguration hfail =>
    have hrun := (readsFiles_configuration s device options.buildDirectory).runOn w
    rw [hfail] at hrun
    rw [composeFor, Action.runOn_bind_error hrun]
  | noDevice hconfig hfail =>
    rw [runOn_composeFor_of_geometry_error (runOn_configuration_of_ok hconfig) hfail]
  | @noSource config failure hconfig hfail =>
    cases hgeometry : geometryOf device config with
    | error fault =>
      rw [runOn_composeFor_of_geometry_error (runOn_configuration_of_ok hconfig) hgeometry]
    | ok g =>
      rw [composeFor, Action.runOn_bind_ok (runOn_configuration_of_ok hconfig), hgeometry,
        Action.runOn_bind_ok (Action.runOn_ofExcept_ok ..), hfail]
      rfl
  | @noArtifact config provider failure hconfig hprovider hfail =>
    cases hgeometry : geometryOf device config with
    | error fault =>
      rw [runOn_composeFor_of_geometry_error (runOn_configuration_of_ok hconfig) hgeometry]
    | ok g =>
      have hnone : ∀ artifact, (provider.runOn w).1 = .ok artifact →
          g.metadataOffset < artifact.size := by
        intro artifact hartifact
        cases hfail.symm.trans hartifact
      rw [runOn_composeFor_of_provider (runOn_configuration_of_ok hconfig) hgeometry hprovider,
        tree_compose_of_unfit hnone]
      exact keepsTree_of_providerOf hbuild hprovider w
  | oversized hconfig hgeometry hprovider hartifact hlarge =>
    rw [runOn_composeFor_of_provider (runOn_configuration_of_ok hconfig) hgeometry hprovider,
      tree_compose_of_unfit fun found hfound => by
        rwa [Except.ok.inj (hartifact.symm.trans hfound)] at hlarge]
    exact keepsTree_of_providerOf hbuild hprovider w

/-! ## What a run may change -/

/-- Directories on the way to the output were made, and then the output was replaced or nothing
was. -/
inductive ChangesOutput (s : Setting) (output : Path) (before after : FileTree) : Prop where
  /-- All that was there is there still. -/
  | kept (h : MadeOnPath s output.parent before after) : ChangesOutput s output before after
  /-- The entry of the output, and no other, is a file with the image. -/
  | replaced {made : FileTree} {bytes : ByteArray} {place : Place}
    (hmade : MadeOnPath s output.parent before made)
    (hmoved : Moved s bytes output made after place) : ChangesOutput s output before after

/-- A file is new or changed at most where the output leads to. -/
theorem ChangesOutput.file_cases {output : Path} {before after : FileTree} {loc : Location}
    {mode : Nat} {content : ByteArray} (h : ChangesOutput s output before after)
    (hfile : after.get? loc = some (.file mode content)) :
    before.get? loc = some (.file mode content) ∨
      ∃ made place, MadeOnPath s output.parent before made ∧
        made.locate s.directory false output.render = .ok place ∧ place.location = loc := by
  have hold : ∀ {made : FileTree}, MadeOnPath s output.parent before made →
      made.get? loc = some (.file mode content) → before.get? loc = some (.file mode content) := by
    intro made hmade hget
    rcases hmade loc with hsame | ⟨-, hdirectory, -⟩
    · exact hsame.symm.trans hget
    · cases hget.symm.trans hdirectory
  cases h with
  | kept hmade => exact .inl (hold hmade hfile)
  | @replaced made bytes place hmade hmoved =>
    by_cases hplace : place.location = loc
    · exact .inr ⟨made, place, hmade, hmoved.locate, hplace⟩
    · refine .inl (hold hmade ?_)
      rw [← hfile, hmoved.put, if_neg fun hloc => hplace hloc.symm]

theorem changesOutput_makeImage (hoptions : HasProperOutput options)
    (hbuild : options.build = false)
    (hconfig : ((configuration s device options.buildDirectory).runOn w).1 = .ok config) :
    ChangesOutput s (outputOf options config) w.tree
      ((makeImage s options device).runOn w).2.tree := by
  obtain ⟨hmade, hcases⟩ :=
    makeImage_cases hoptions hbuild (runOn_configuration_of_ok hconfig)
  rcases hcases with ⟨-, hkept⟩ | ⟨g, bytes, place, -, hmoved, -⟩
  · exact .kept hkept
  · exact .replaced hmade hmoved

/-! ## Runs of the program -/

/-- The words ask for an image to be made. -/
def AsksForImage (words : List String) (options : MakeOptions) (device : DeviceOptions) : Prop :=
  ∃ verbosity, Arguments.parse words = .ok ⟨verbosity, some (.makeImage options, device)⟩

/-- A command line that asks for no image changes nothing. -/
theorem tree_run_of_not_asksForImage {words : List String}
    (h : ∀ options device, ¬ AsksForImage words options device) :
    ((Program.run s words).runOn w).2.tree = w.tree := by
  cases hparse : Arguments.parse words with
  | error stop =>
    rw [Program.run, hparse]
    cases stop with
    | help text => rfl
    | usage program message => rfl
  | ok args =>
    obtain ⟨verbosity, called⟩ := args
    cases called with
    | none =>
      rw [Program.run, hparse]
      rfl
    | some called =>
      obtain ⟨command, device⟩ := called
      rw [(runOn_run hparse w).2]
      cases command with
      | makeImage options => exact absurd ⟨verbosity, hparse⟩ (h options device)
      | showLayout artifactSize json => exact keepsTree_showLayout s artifactSize json device _
      | checkImage image => exact keepsTree_checkImage s image device _
      | showTrials image maxTrials json =>
        exact keepsTree_showTrials s image maxTrials json device _

/-- **What a command line changes.** If nothing is to be built, a run leaves the tree as it is
unless it is to make an image and has one to put in place. If the configuration can be read, such a
run makes directories on the way to the output, replaces the entry of the output at most, and does
no more. No run leaves a new file but at the output. -/
theorem run_changes_output (s : Setting) (w : World) {words : List String}
    (hbuild : ∀ options device, AsksForImage words options device → options.build = false) :
    let run := (Program.run s words).runOn w
    ((∀ options device, ¬ AsksForImage words options device) → run.2.tree = w.tree) ∧
    (∀ options device, AsksForImage words options device →
      (Fruitless s options device w → run.2.tree = w.tree) ∧
      ∀ config, ((configuration s device options.buildDirectory).runOn w).1 = .ok config →
        ChangesOutput s (outputOf options config) w.tree run.2.tree) ∧
    ∀ loc mode content, run.2.tree.get? loc = some (.file mode content) →
      w.tree.get? loc = some (.file mode content) ∨
      ∃ options device config made place, AsksForImage words options device ∧
        ((configuration s device options.buildDirectory).runOn w).1 = .ok config ∧
        MadeOnPath s (outputOf options config).parent w.tree made ∧
        made.locate s.directory false (outputOf options config).render = .ok place ∧
        place.location = loc := by
  intro run
  have hmake : ∀ options device, AsksForImage words options device →
      (Fruitless s options device w → run.2.tree = w.tree) ∧
      ∀ config, ((configuration s device options.buildDirectory).runOn w).1 = .ok config →
        ChangesOutput s (outputOf options config) w.tree run.2.tree := by
    rintro options device ⟨verbosity, hparse⟩
    have hnone := hbuild options device ⟨verbosity, hparse⟩
    have htree : run.2.tree =
        ((makeImage s options device).runOn { w with log := [] }).2.tree := (runOn_run hparse w).2
    have hfiles : ({ w with log := [] } : World).tree = w.tree := rfl
    rw [htree]
    refine ⟨fun hfruitless => ?_, fun config hconfig => ?_⟩
    · rw [tree_makeImage]
      exact tree_composeFor_of_fruitless hnone (hfruitless.of_tree_eq hnone hfiles)
    · have hread := (readsFiles_configuration s device options.buildDirectory).fst_eq hfiles
      exact changesOutput_makeImage (Arguments.hasProperOutput_of_parse hparse) hnone
        (hread.trans hconfig)
  refine ⟨tree_run_of_not_asksForImage, hmake, fun loc mode content hfile => ?_⟩
  by_cases hasks : ∃ options device, AsksForImage words options device
  · obtain ⟨options, device, hasks⟩ := hasks
    obtain ⟨hfruitless, hchanges⟩ := hmake options device hasks
    cases hconfig : ((configuration s device options.buildDirectory).runOn w).1 with
    | error failure =>
      rw [hfruitless (.noConfiguration hconfig)] at hfile
      exact .inl hfile
    | ok config =>
      rcases (hchanges config hconfig).file_cases hfile with hsame | ⟨made, place, hplace⟩
      · exact .inl hsame
      · exact .inr ⟨options, device, config, made, place, hasks, hconfig, hplace⟩
  · have hkept : run.2.tree = w.tree :=
      tree_run_of_not_asksForImage fun options device h => hasks ⟨options, device, h⟩
    exact .inl (hkept ▸ hfile)

/-- A run that makes an image beside its artifact and its configuration changes the output alone. -/
theorem run_changes_output_addressless :
    let words := ["mkimg", "-c", "c.yml", "-a", "a.bin", "-j", "o.img"]
    let w := World.ofTree addresslessTree
    (∀ options device, AsksForImage words options device → options.build = false) ∧
      ChangesOutput .atRoot (Path.ofString "o.img") w.tree
        ((Program.run .atRoot words).runOn w).2.tree := by
  intro words w
  have hparse : Arguments.parse words =
      .ok ⟨0, some (.makeImage (addresslessOptions true), addresslessDevice)⟩ := by
    decide +kernel
  have hbuild : ∀ options device, AsksForImage words options device → options.build = false := by
    rintro options device ⟨verbosity, h⟩
    obtain ⟨-, hcalled⟩ := Arguments.mk.inj (Except.ok.inj (hparse.symm.trans h))
    obtain ⟨hoptions, -⟩ := Prod.ext_iff.1 (Option.some.inj hcalled)
    obtain rfl := Command.makeImage.inj hoptions
    rfl
  obtain ⟨-, hmake, -⟩ := run_changes_output .atRoot w hbuild
  obtain ⟨-, hchanges⟩ := hmake _ _ ⟨0, hparse⟩
  exact ⟨hbuild, hchanges (some addresslessConfiguration)
    (congrArg Prod.fst runOn_configuration_addressless)⟩

end CommandLine

end NorFlash
