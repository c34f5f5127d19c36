import NorFlash.Proofs.CommandLine.ExitCode
import NorFlash.Proofs.CommandLine.Planning
import NorFlash.Proofs.Composer.Printed

/-!
# The dry run

The command that shows a layout is told the size of an artifact and reads no file but the
configuration. How it ends foretells the command that makes an image of an artifact of that size
(`dry_run_foretells`): both go by the same plan, so both fail where there is none, and the two
objects that are shown where there is one differ in the file written alone (`fieldsFor_ofLayout`).
A plan does not tell whether any memory holds the device (`dry_run_of_huge_device`).
-/

namespace NorFlash.CommandLine

variable {s : Setting} {device : DeviceOptions} {options : MakeOptions} {g : Geometry}
  {path : Path} {artifact : ByteArray} {size : Int} {w : World}

/-! ## What is shown -/

/-- The value of the field for the file written. -/
def outputValue : Option Path → FieldValue
  | some p => .text p.render
  | none => .null

/-- The fields of the report on a plan, but for the last one, which tells the file written. -/
def planFields (device : DeviceOptions) (g : Geometry) (size : Int) : Fields :=
  (fieldsFor device (Report.ofLayout (Layout.ofGeometry g) size none)).dropLast

/-- The file written has a bearing on the last field alone. -/
theorem fieldsFor_ofLayout (device : DeviceOptions) (g : Geometry) (size : Int)
    (output : Option Path) :
    fieldsFor device (Report.ofLayout (Layout.ofGeometry g) size output) =
      planFields device g size ++ [("output", outputValue output)] := by
  rw [planFields, fieldsFor, fieldsFor]
  split
  · cases output <;> rfl
  · cases output <;> rfl

theorem names_planFields (device : DeviceOptions) (g : Geometry) (size : Int) :
    (planFields device g size).map (·.1) =
      ["total_size", "block_size", "artifact_size", "metadata_offset", "metadata_offset_hex",
        "margin", "base_addr"] := by
  rw [planFields, fieldsFor]
  split
  · rfl
  · rfl

/-- Whether the fields of the report on a plan can be written. -/
def canShowPlan (device : DeviceOptions) (g : Geometry) (size : Int) : Bool :=
  (planFields device g size).all fun f => Fields.isWritable f.2

theorem json?_fieldsFor (device : DeviceOptions) (g : Geometry) (size : Int)
    (output : Option Path) :
    (fieldsFor device (Report.ofLayout (Layout.ofGeometry g) size output)).json? =
      if canShowPlan device g size then
        some (Fields.objectText (planFields device g size ++ [("output", outputValue output)]))
      else none := by
  have hlast : Fields.isWritable (outputValue output) = true := by
    cases output <;> rfl
  rw [Fields.json?, fieldsFor_ofLayout, List.all_append, canShowPlan, List.all_cons, hlast,
    List.all_nil, Bool.true_and, Bool.and_true]

/-- How a run ends that shows the report on a planned artifact as an object. -/
def planShown (device : DeviceOptions) (g : Geometry) (size : Int) : Except Failure ExitCode :=
  if canShowPlan device g size then .ok .success else .error .longNumber

/-- Show the report on a planned artifact as an object. -/
def showObject (device : DeviceOptions) (g : Geometry) (size : Int) (output : Option Path) :
    Action ExitCode := do
  printFields (fieldsFor device (Report.ofLayout (Layout.ofGeometry g) size output))
  return .success

theorem runOn_showObject (device : DeviceOptions) (g : Geometry) (size : Int)
    (output : Option Path) (w : World) :
    let run := (showObject device g size output).runOn w
    run.1 = planShown device g size ∧ run.2.tree = w.tree ∧
      (run.1 = .ok .success → run.2.printed = w.printed ++
        [Fields.objectText (planFields device g size ++ [("output", outputValue output)])]) := by
  dsimp only
  rw [showObject, Action.runOn_bind, runOn_printFields, json?_fieldsFor, planShown]
  cases canShowPlan device g size with
  | true => exact ⟨rfl, rfl, fun _ => rfl⟩
  | false => exact ⟨rfl, rfl, fun hbad => by cases hbad⟩

theorem showPlanned_true (device : DeviceOptions) (g : Geometry) (size : Int) :
    showPlanned true device (Layout.ofGeometry g, size) = showObject device g size none := rfl

theorem showMade_of_json (hjson : options.json = true) (device : DeviceOptions) (g : Geometry)
    (size : Int) (output : Option Path) :
    showMade options device (Report.ofLayout (Layout.ofGeometry g) size output) =
      showObject device g size output := by
  rw [showMade, if_pos hjson]
  rfl

/-! ## The runs of the two commands -/

theorem endOn_ne_success (kinds : List FailureKind) (failure : Failure) :
    endOn kinds .ofKind failure ≠ .ok .success := by
  rw [endOn]
  split
  · intro hbad
    exact ofKind_ne_success _ (Except.ok.inj hbad)
  · intro hbad
    cases hbad

theorem runOn_showLayout_of_ok (h : planIn s device size w = .ok g) :
    let run := (showLayout s (some size) true device).runOn w
    run.1 = planShown device g size ∧
      (run.1 = .ok .success → run.2.printed = w.printed ++
        [Fields.objectText (planFields device g size ++ [("output", .null)])]) := by
  obtain ⟨log, hplanned⟩ := runOn_planned_of_ok h
  obtain ⟨hend, -, hprinted⟩ := runOn_showObject device g size none { w with log := log }
  dsimp only
  rw [showLayout, runOn_expecting_of_ok hplanned, showPlanned_true]
  exact ⟨hend, hprinted⟩

theorem runOn_makeImage_of_no_plan {failure : Failure} (hpath : options.artifact = .given path)
    (hprovider : (Provider.ofFile s path).runOn w = (.ok artifact, w))
    (h : planIn s device artifact.size w = .error failure) :
    let run := (makeImage s options device).runOn w
    run.1 = endOn [.data, .missing, .system] .ofKind failure ∧ run.2.tree = w.tree := by
  obtain ⟨hresult, htree⟩ := runOn_composeFor_of_error hpath hprovider h
  obtain ⟨hend, hkept⟩ := makeImage_ends_on hresult
  exact ⟨hend, hkept.trans htree⟩

/-- The report on an image that is composed and put in place is shown as the plan is. -/
theorem runOn_makeImage_of_report (hjson : options.json = true) {output : Path}
    (hresult : ((composeFor s options device).runOn w).1 =
      .ok (Report.ofLayout (Layout.ofGeometry g) size (some output))) :
    let made := (composeFor s options device).runOn w
    let run := (makeImage s options device).runOn w
    run.1 = planShown device g size ∧ run.2.tree = made.2.tree ∧
      (run.1 = .ok .success → run.2.printed = made.2.printed ++
        [Fields.objectText (planFields device g size ++ [("output", .text output.render)])]) := by
  dsimp only
  have hrun := runOn_makeImage s options device w
  cases hmade : (composeFor s options device).runOn w with
  | mk result w₁ =>
    rw [hmade] at hresult hrun
    obtain rfl := hresult
    dsimp only at hrun
    rw [hrun, showMade_of_json hjson]
    exact runOn_showObject device g size (some output) w₁

/-- The file that a command writes. -/
def outputIn (s : Setting) (options : MakeOptions) (device : DeviceOptions) (w : World) : Path :=
  outputOf options ((configuration s device options.buildDirectory).runOn w).1.toOption.join

/-- How a run ends that puts a file in place: on the failure to do so, or as `shown` tells. -/
def putEnding (put : Except Failure Unit) (shown : Except Failure ExitCode) :
    Except Failure ExitCode :=
  match put with
  | .ok _ => shown
  | .error failure => endOn [.data, .missing, .system] .ofKind failure

/-- A run composes an artifact for a device and ends as the putting in place of the image does,
unless no memory holds the device. -/
def Composes (s : Setting) (options : MakeOptions) (g : Geometry) (artifact : ByteArray)
    (output : Path) (shown : Except Failure ExitCode) (w : World)
    (result : Except Failure Ending) (after : FileTree) : Prop :=
  (Image.memoryBound ≤ g.totalSize ∧
    result = .error (.slip (if Image.indexBound ≤ g.totalSize then .wideAddress else .noMemory)) ∧
    after = w.tree) ∨
  g.totalSize < Image.memoryBound ∧
    ∃ image bytes, Image.compose (Layout.ofGeometry g) g artifact = .ok image ∧
      (∀ w, (Composer.encode options.hex image).runOn w = (.ok bytes, w)) ∧
      let put := (persist s bytes output).runOn w
      result = (putEnding put.1 shown).map .exit ∧ after = put.2.tree

/-- What was noted and printed before has no bearing on it. -/
theorem Composes.of_tree {output : Path} {shown : Except Failure ExitCode} {w' : World}
    {result : Except Failure Ending} {after : FileTree} (htree : w.tree = w'.tree)
    (h : Composes s options g artifact output shown w result after) :
    Composes s options g artifact output shown w' result after := by
  rcases h with ⟨hlarge, hresult, hafter⟩ | ⟨hsmall, image, bytes, himage, hencode, hresult, hafter⟩
  · exact .inl ⟨hlarge, hresult, hafter.trans htree⟩
  · obtain ⟨hput, hkept⟩ := byTree_persist s bytes output w w' htree
    refine .inr ⟨hsmall, image, bytes, himage, hencode, ?_, hafter.trans hkept⟩
    rw [hresult, hput]

/-- A planned artifact is composed by the steps of a composer, which print nothing. -/
theorem runOn_composeFor_of_plan (hpath : options.artifact = .given path)
    (h : planIn s device size w = .ok g) :
    let run := (composeFor s options device).runOn w
    let steps := (composeSteps s (Provider.ofFile s path) g (outputIn s options device w)
      options.hex).runOn w
    run.1 = steps.1 ∧ run.2.tree = steps.2.tree ∧ run.2.printed = w.printed := by
  obtain ⟨hdevice, -, -⟩ := of_planIn_ok h
  rw [deviceIn_congr s device _ options.buildDirectory] at hdevice
  obtain ⟨config, hconfig, hgeometry⟩ := of_deviceIn_ok hdevice
  have houtput : outputIn s options device w = outputOf options config := by
    rw [outputIn, hconfig]
    rfl
  obtain ⟨hresult, htree⟩ := runOn_compose_steps s (Provider.ofFile s path) g
    (outputOf options config) options.hex w
  dsimp only
  rw [houtput, runOn_composeFor_of_given hpath hconfig hgeometry]
  exact ⟨hresult, htree, isSilent_compose (Provider.readsFiles_ofFile s path).isSilent _ _ _ _ w⟩

/-- A planned artifact is composed, and what is printed in the end is the report on it. -/
theorem runOn_makeImage_of_plan (hpath : options.artifact = .given path)
    (hprovider : (Provider.ofFile s path).runOn w = (.ok artifact, w))
    (hjson : options.json = true) (hhex : options.hex = true → artifact.size ≤ 0x100000000)
    (h : planIn s device artifact.size w = .ok g) :
    let run := (makeImage s options device).runOn w
    let output := outputIn s options device w
    Composes s options g artifact output (planShown device g artifact.size) w (run.1.map .exit)
      run.2.tree ∧
    (run.1 = .ok .success → run.2.printed = w.printed ++
      [Fields.objectText (planFields device g artifact.size ++
        [("output", .text output.render)])]) := by
  obtain ⟨-, ⟨-, hfits⟩, hshort⟩ := of_planIn_ok h
  have hsize : artifact.size ≤ g.metadataOffset := by omega
  obtain ⟨hresult, htree, hsilent⟩ := runOn_composeFor_of_plan hpath h
  dsimp only
  generalize outputIn s options device w = output at hresult htree ⊢
  by_cases hsmall : g.totalSize < Image.memoryBound
  · obtain ⟨image, bytes, himage, hencode, hsteps, hafter⟩ :=
      runOn_composeSteps_of_fits (s := s) output options.hex hprovider hsize hsmall hhex
    obtain ⟨-, -, hartifact, -⟩ := Image.of_compose_eq_ok himage
    rw [hsteps, hartifact] at hresult
    rw [hafter] at htree
    cases hput : ((persist s bytes output).runOn w).1 with
    | ok _ =>
      rw [hput] at hresult
      obtain ⟨hend, hkept, hshown⟩ := runOn_makeImage_of_report hjson hresult
      rw [hsilent] at hshown
      refine ⟨.inr ⟨hsmall, image, bytes, himage, hencode, ?_, hkept.trans htree⟩, hshown⟩
      rw [hput, hend]
      rfl
    | error failure =>
      rw [hput] at hresult
      obtain ⟨hend, hkept⟩ := makeImage_ends_on hresult
      refine ⟨.inr ⟨hsmall, image, bytes, himage, hencode, ?_, hkept.trans htree⟩,
        fun hsuccess => absurd (hend.symm.trans hsuccess) (endOn_ne_success _ _)⟩
      rw [hput, hend]
      rfl
  · have hlarge := Nat.le_of_not_lt hsmall
    obtain ⟨hsteps, hafter⟩ :=
      runOn_composeSteps_of_large (s := s) output options.hex hprovider hsize hshort hlarge
    obtain ⟨hend, hkept⟩ := makeImage_ends_on (hresult.trans hsteps)
    refine ⟨.inl ⟨hlarge, ?_, hkept.trans (htree.trans hafter)⟩,
      fun hsuccess => absurd (hend.symm.trans hsuccess) (endOn_ne_success _ _)⟩
    rw [hend]
    split
    · rfl
    · rfl

/-! ## What the dry run foretells -/

/-- What a run that shows a plan foretells of a run that makes an image. -/
structure Foretells (s : Setting) (options : MakeOptions) (device : DeviceOptions)
    (artifact : ByteArray) (w : World) (dry real : Except Failure Ending × World) : Prop where
  /-- Where there is no plan, both end on the same failure, and no file is changed. -/
  unplanned : ∀ failure, planIn s device artifact.size w = .error failure →
    dry.1 = (endOn [.data] .ofKind failure).map .exit ∧
      real.1 = (endOn [.data, .missing, .system] .ofKind failure).map .exit ∧
      real.2.tree = w.tree
  /-- Where there is a plan, the one shows it, and the other one composes the image for its device
  and, once that is in place, ends as the first one did. -/
  planned : ∀ g, planIn s device artifact.size w = .ok g →
    dry.1 = (planShown device g artifact.size).map .exit ∧
      Composes s options g artifact (outputIn s options device w)
        (planShown device g artifact.size) w real.1 real.2.tree
  /-- If the one refuses the data, so does the other, and no file is changed. -/
  refused : dry.1 = .ok (.exit .dataError) →
    real.1 = .ok (.exit .dataError) ∧ real.2.tree = w.tree
  /-- If the one succeeds, the other one fails only in putting the image in place, or for want of
  memory. -/
  accepted : dry.1 = .ok (.exit .success) →
    ∃ g, planIn s device artifact.size w = .ok g ∧
      Composes s options g artifact (outputIn s options device w) (.ok .success) w real.1
        real.2.tree
  /-- If both succeed, each prints one object, and these differ in the file written alone. -/
  shown : dry.1 = .ok (.exit .success) → real.1 = .ok (.exit .success) →
    ∃ fields : Fields,
      fields.map (·.1) = ["total_size", "block_size", "artifact_size", "metadata_offset",
        "metadata_offset_hex", "margin", "base_addr"] ∧
      dry.2.printed = w.printed ++ [Fields.objectText (fields ++ [("output", .null)])] ∧
      real.2.printed = w.printed ++ [Fields.objectText
        (fields ++ [("output", .text (outputIn s options device w).render)])]

variable {dry real : Except Failure Ending × World}

/-- Bad data is all that the command expects that shows a plan, and the other one expects it too. -/
theorem endOn_of_refused {failure : Failure}
    (h : endOn [.data] .ofKind failure = .ok .dataError) :
    endOn [.data, .missing, .system] .ofKind failure = .ok .dataError := by
  rw [endOn] at h ⊢
  cases hkind : failure.kind with
  | data => rfl
  | missing | system | record | slip =>
    rw [hkind] at h
    cases h

theorem foretells_of_error {failure : Failure}
    (h : planIn s device artifact.size w = .error failure)
    (hdry : dry.1 = (endOn [.data] .ofKind failure).map .exit)
    (hreal : real.1 = (endOn [.data, .missing, .system] .ofKind failure).map .exit)
    (htree : real.2.tree = w.tree) : Foretells s options device artifact w dry real := by
  have hfail : dry.1 ≠ .ok (.exit .success) := by
    rw [hdry, Ne, map_exit_eq_iff]
    exact endOn_ne_success _ _
  refine ⟨fun other hother => ?_, fun g hg => ?_, fun hrefused => ⟨?_, htree⟩,
    fun hbad => absurd hbad hfail, fun hbad => absurd hbad hfail⟩
  · obtain rfl : failure = other := Except.error.inj (h.symm.trans hother)
    exact ⟨hdry, hreal, htree⟩
  · cases h.symm.trans hg
  · rw [hdry, map_exit_eq_iff] at hrefused
    rw [hreal, map_exit_eq_iff]
    exact endOn_of_refused hrefused

theorem foretells_of_ok (h : planIn s device artifact.size w = .ok g)
    (hdry : dry.1 = (planShown device g artifact.size).map .exit)
    (hprinted : dry.1 = .ok (.exit .success) → dry.2.printed = w.printed ++
      [Fields.objectText (planFields device g artifact.size ++ [("output", .null)])])
    (hreal : Composes s options g artifact (outputIn s options device w)
      (planShown device g artifact.size) w real.1 real.2.tree)
    (hreported : real.1 = .ok (.exit .success) → real.2.printed = w.printed ++
      [Fields.objectText (planFields device g artifact.size ++
        [("output", .text (outputIn s options device w).render)])]) :
    Foretells s options device artifact w dry real := by
  refine ⟨fun failure hfail => ?_, fun other hother => ?_, fun hrefused => ?_, fun hsuccess => ?_,
    fun hsuccess hmade => ⟨_, names_planFields _ _ _, hprinted hsuccess, hreported hmade⟩⟩
  · cases h.symm.trans hfail
  · obtain rfl : g = other := Except.ok.inj (h.symm.trans hother)
    exact ⟨hdry, hreal⟩
  · rw [hdry, map_exit_eq_iff, planShown] at hrefused
    split at hrefused
    · cases hrefused
    · cases hrefused
  · rw [hdry, map_exit_eq_iff] at hsuccess
    rw [hsuccess] at hreal
    exact ⟨g, h, hreal⟩

/-- **The dry run.** A command line that shows, as an object, the layout for the size of an artifact
foretells one that makes an image of the artifact for the same device: both fail alike where there
is no plan, and where there is one the other fails only in putting the image in place, or for want
of memory. Where both succeed, the objects differ in the file written alone. With records asked for,
this is so for artifacts that have 32-bit addresses. -/
theorem dry_run_foretells (s : Setting) (w : World) {dryWords words : List String}
    {dryVerbosity verbosity : Nat}
    (hdry : Arguments.parse dryWords =
      .ok ⟨dryVerbosity, some (.showLayout (some artifact.size) true, device)⟩)
    (hreal : Arguments.parse words = .ok ⟨verbosity, some (.makeImage options, device)⟩)
    (hjson : options.json = true) (hpath : options.artifact = .given path)
    (hartifact : ((Provider.ofFile s path).runOn w).1 = .ok artifact)
    (hhex : options.hex = true → artifact.size ≤ 0x100000000) :
    Foretells s options device artifact w ((Program.run s dryWords).runOn w)
      ((Program.run s words).runOn w) := by
  -- The commands run on an empty log, which has no bearing on what they read.
  let w₀ : World := { w with log := [] }
  obtain ⟨dryLog, hdryRun⟩ : ∃ log, (Program.run s dryWords).runOn w =
      let inner := (showLayout s (some artifact.size) true device).runOn w₀
      (inner.1.map .exit, { inner.2 with log := log }) := runOn_run_command hdry w
  obtain ⟨log, hrealRun⟩ : ∃ log, (Program.run s words).runOn w =
      let inner := (makeImage s options device).runOn w₀
      (inner.1.map .exit, { inner.2 with log := log }) := runOn_run_command hreal w
  have hprovider : (Provider.ofFile s path).runOn w₀ = (.ok artifact, w₀) := by
    rw [Provider.readsFiles_ofFile s path w₀ w rfl, hartifact]
  have hplan : planIn s device artifact.size w₀ = planIn s device artifact.size w :=
    planIn_of_tree rfl
  have houtput : outputIn s options device w₀ = outputIn s options device w := by
    rw [outputIn, outputIn, readsFiles_configuration s device options.buildDirectory w₀ w rfl]
  rw [hdryRun, hrealRun]
  cases h : planIn s device artifact.size w with
  | error failure =>
    rw [h] at hplan
    obtain ⟨hend, htree⟩ := runOn_makeImage_of_no_plan hpath hprovider hplan
    have hshow : ((showLayout s (some artifact.size) true device).runOn w₀).1 =
        endOn [.data] .ofKind failure := showLayout_of_error (runOn_planned_of_error hplan)
    exact foretells_of_error h (congrArg (Except.map Ending.exit) hshow)
      (congrArg (Except.map Ending.exit) hend) htree
  | ok g =>
    rw [h] at hplan
    obtain ⟨hshow, hprinted⟩ := runOn_showLayout_of_ok hplan
    obtain ⟨hmade, hreported⟩ := runOn_makeImage_of_plan hpath hprovider hjson hhex hplan
    rw [houtput] at hmade hreported
    have htree : w₀.tree = w.tree := rfl
    exact foretells_of_ok h (congrArg (Except.map Ending.exit) hshow)
      (fun hsuccess => hprinted (map_exit_eq_iff.1 hsuccess)) (hmade.of_tree htree)
      fun hsuccess => hreported (map_exit_eq_iff.1 hsuccess)

/-! ## Two dry runs -/

theorem isWritable_two : Numeral.isWritable ((2 : Nat) : Int) = true :=
  Image.isWritable_of_lt (by decide)

/-- The device that the configuration describes has room for two bytes. -/
theorem planIn_addressless :
    planIn .atRoot addresslessDevice (ByteArray.size ⟨#[1, 2]⟩) (.ofTree addresslessTree) =
      .ok addressless :=
  planIn_of_fits (congrArg Prod.fst runOn_configuration_addressless) rfl (by decide) isWritable_two

/-- Any file can be put in place there. -/
theorem runOn_persist_addressless (data : ByteArray) :
    ((persist .atRoot data (Path.ofString "o.img")).runOn (.ofTree addresslessTree)).1 =
      .ok () := by
  obtain ⟨w', hput⟩ := exists_runOn_persist_addressless data []
  exact congrArg Prod.fst hput

/-- A dry run with a configuration foretells that an image of two bytes is made. -/
theorem dry_run_foretells_image :
    let dryWords := ["layout", "-c", "c.yml", "-s", "2", "-j"]
    let words := ["mkimg", "-c", "c.yml", "-a", "a.bin", "-j", "o.img"]
    let options := addresslessOptions true
    let w := World.ofTree addresslessTree
    let dry := (Program.run .atRoot dryWords).runOn w
    let real := (Program.run .atRoot words).runOn w
    Arguments.parse dryWords = .ok ⟨0, some (.showLayout (some 2) true, addresslessDevice)⟩ ∧
      Arguments.parse words = .ok ⟨0, some (.makeImage options, addresslessDevice)⟩ ∧
      Foretells .atRoot options addresslessDevice ⟨#[1, 2]⟩ w dry real ∧
      dry.1 = .ok (.exit .success) ∧ real.1 = .ok (.exit .success) := by
  intro dryWords words options w dry real
  have hdry : Arguments.parse dryWords =
      .ok ⟨0, some (.showLayout (some 2) true, addresslessDevice)⟩ := by decide +kernel
  have hreal : Arguments.parse words =
      .ok ⟨0, some (.makeImage options, addresslessDevice)⟩ := by decide +kernel
  have hforetells : Foretells .atRoot options addresslessDevice ⟨#[1, 2]⟩ w dry real :=
    dry_run_foretells .atRoot w hdry hreal rfl rfl (congrArg Prod.fst runOn_ofFile_addressless)
      (fun hhex => absurd hhex (by decide))
  obtain ⟨hshown, hcomposes⟩ := hforetells.planned addressless planIn_addressless
  have hshow : planShown addresslessDevice addressless (ByteArray.size ⟨#[1, 2]⟩) =
      .ok .success := if_pos (by decide +kernel)
  rw [hshow] at hshown hcomposes
  refine ⟨hdry, hreal, hforetells, hshown, ?_⟩
  have houtput : outputIn .atRoot options addresslessDevice w = Path.ofString "o.img" := by
    rw [outputIn]
    rfl
  rcases hcomposes with ⟨hlarge, -⟩ | ⟨-, image, bytes, -, -, hresult, -⟩
  · exact absurd hlarge (by decide)
  · rw [houtput, runOn_persist_addressless] at hresult
    exact hresult

/-- A dry run for a device that is larger than any memory succeeds, and the image is not made though
any file could be put in its place. -/
theorem dry_run_of_huge_device :
    let sizes := ["--flash-size", "0x10000000000000000", "--block-size", "0x8000000000000000"]
    let dryWords := "layout" :: sizes ++ ["-s", "2", "-j"]
    let words := "mkimg" :: sizes ++ ["-a", "a.bin", "-j", "o.img"]
    let options := addresslessOptions true
    let w := World.ofTree addresslessTree
    let dry := (Program.run .atRoot dryWords).runOn w
    let real := (Program.run .atRoot words).runOn w
    Arguments.parse dryWords = .ok ⟨0, some (.showLayout (some 2) true, hugeOptions)⟩ ∧
      Arguments.parse words = .ok ⟨0, some (.makeImage options, hugeOptions)⟩ ∧
      (Provider.ofFile .atRoot (Path.ofString "a.bin")).runOn w = (.ok ⟨#[1, 2]⟩, w) ∧
      dry.1 = .ok (.exit .success) ∧
      real.1 = .error (.slip .wideAddress) ∧ real.2.tree = w.tree ∧
      ∀ data, ((persist .atRoot data (Path.ofString "o.img")).runOn w).1 = .ok () := by
  intro sizes dryWords words options w dry real
  have hdry : Arguments.parse dryWords =
      .ok ⟨0, some (.showLayout (some 2) true, hugeOptions)⟩ := by decide +kernel
  have hreal : Arguments.parse words = .ok ⟨0, some (.makeImage options, hugeOptions)⟩ := by
    decide +kernel
  have hplan : planIn .atRoot hugeOptions (ByteArray.size ⟨#[1, 2]⟩) w = .ok hugeDevice :=
    planIn_of_fits (congrArg Prod.fst (runOn_configuration_missing rfl _ w)) rfl (by decide)
      isWritable_two
  have hshow : planShown hugeOptions hugeDevice (ByteArray.size ⟨#[1, 2]⟩) = .ok .success :=
    if_pos (by decide +kernel)
  obtain ⟨hshown, -⟩ := runOn_showLayout_of_ok hplan
  obtain ⟨hcomposes, -⟩ : Composes .atRoot options hugeDevice ⟨#[1, 2]⟩ _ _ w
      (((makeImage .atRoot options hugeOptions).runOn w).1.map .exit) _ ∧ _ :=
    runOn_makeImage_of_plan rfl runOn_ofFile_addressless rfl
      (fun hhex => absurd hhex (by decide)) hplan
  refine ⟨hdry, hreal, runOn_ofFile_addressless, ?_, ?_⟩
  · exact (runOn_run hdry w).1.trans (congrArg (Except.map Ending.exit) (hshown.trans hshow))
  · obtain ⟨hresult, hafter⟩ := runOn_run (s := .atRoot) hreal w
    rcases hcomposes with ⟨-, hslip, hkept⟩ | ⟨hsmall, -⟩
    · exact ⟨hresult.trans hslip, hafter.trans hkept, runOn_persist_addressless⟩
    · exact absurd hsmall (by decide)

end NorFlash.CommandLine
