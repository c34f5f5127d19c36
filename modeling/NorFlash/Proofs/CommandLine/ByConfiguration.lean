import NorFlash.Proofs.CommandLine.MakeImage
import NorFlash.Proofs.Configuration.Document

/-!
# An image by its configuration

A configuration says nothing that options cannot say. `makeImage_spelledOut` compares the run that
names a configuration and nothing else with the run whose options carry what the configuration
says, for each configuration with an address: the two runs are the same, whether they end with an
image or with a failure.
-/

namespace NorFlash

/-! ## The sizes of a device -/

/-- A device is the one that its own sizes describe. -/
theorem Geometry.ofSizes_self (g : Geometry) :
    ofSizes g.totalSize g.blockSize g.baseAddress = .ok g := by
  obtain ⟨block, count, base, hblock, hcount⟩ := g
  have hlt : 1 * block < count * block := Nat.mul_lt_mul_of_pos_right hcount hblock
  have htotal : ((totalSize ⟨block, count, base, hblock, hcount⟩ : Nat) : Int) = count * block :=
    Int.natCast_mul count block
  have hmod : ((count : Int) * block) % block = 0 := Int.mul_emod_left _ _
  have hdiv : ((count : Int) * block) / block = count := Int.mul_ediv_cancel _ (by omega)
  have hpos : ¬ (count : Int) * block ≤ 0 := by
    rw [← Int.natCast_mul]
    omega
  have hne : ¬ (count : Int) * block = block := by
    rw [← Int.natCast_mul]
    omega
  simp only [htotal, ofSizes]
  rw [dif_neg (by omega), dif_neg hpos, dif_neg (not_not_intro hmod), dif_neg hne]
  simp only [hdiv, Int.toNat_natCast]

namespace Configuration

variable {s : Setting} {path : Path} {env : Substitution.Environment} {c : Configuration}
  {w : World}

/-- A configuration that is loaded is there. -/
theorem runOn_pathExists_of_load (h : ((load s path env).runOn w).1 = .ok c) :
    (Action.pathExists s path).runOn w = (.ok true, w) := by
  obtain ⟨content, -, hcontent, -⟩ := load_sound (Prod.ext h rfl)
  obtain ⟨hnull, mode, hfile⟩ := Image.of_runOn_readFile hcontent
  exact Action.runOn_testEntry_of_status hnull hfile

end Configuration

namespace CommandLine

variable {s : Setting} {path : Path} {options : MakeOptions} {c : Configuration} {address : Int}
  {w : World}

/-! ## Options for a configuration -/

/-- A configuration file is named, and nothing of the device is given besides. -/
def named (path : Path) : DeviceOptions :=
  ⟨.given path, .missing, .missing, .missing⟩

/-- The options that give the sizes of a device and an address. -/
def deviceOf (g : Geometry) (address : Int) : DeviceOptions :=
  ⟨.missing, .given g.totalSize, .given g.blockSize, .given address⟩

/-- Options with the files to read and to write that a configuration names, or the default ones. -/
def spelledOut (options : MakeOptions) (c : Configuration) : MakeOptions :=
  { options with
    output := some (c.output.getD
      (Path.ofString (if options.hex then Report.defaultHexImage else Report.defaultImage)))
    artifact := .given (c.binary.getD defaultArtifact) }

theorem runOn_configuration_of_load
    (hload : ((Configuration.load s path (environmentOf s options.buildDirectory)).runOn w).1 =
      .ok c) :
    (configuration s (named path) options.buildDirectory).runOn w = (.ok (some c), w) := by
  rw [runOn_configuration_of_found rfl (Configuration.runOn_pathExists_of_load hload), hload]
  rfl

/-- The device of a configuration is the one that its file describes. -/
theorem geometryOf_named (path : Path) (c : Configuration) :
    geometryOf (named path) (some c) = .ok c.geometry := by
  have hpos : ¬ (c.geometry.blockSize : Int) ≤ 0 := by
    have := c.geometry.blockSize_pos
    omega
  have hsizes := c.geometry.ofSizes_self
  simp only [geometryOf, named, valueOr, bind, Except.bind, if_neg hpos, hsizes]
  rfl

theorem geometryOf_deviceOf {g : Geometry} (haddress : g.baseAddress = some address) :
    geometryOf (deviceOf g address) none = .ok g := by
  have hpos : ¬ (g.blockSize : Int) ≤ 0 := by
    have := g.blockSize_pos
    omega
  have hsizes := g.ofSizes_self
  rw [haddress] at hsizes
  simp only [geometryOf, deviceOf, valueOr, bind, Except.bind, if_neg hpos, OptionValue.toOption,
    hsizes]
  rfl

theorem providerOf_spelledOut (hartifact : options.artifact = .missing)
    (hbuild : options.build = false) :
    providerOf s (spelledOut options c) none = providerOf s options (some c) := by
  simp only [providerOf, spelledOut, hartifact, hbuild, Bool.false_eq_true, if_false,
    Option.bind_some]

theorem outputOf_spelledOut (houtput : options.output = none) :
    outputOf (spelledOut options c) none = outputOf options (some c) := by
  simp only [outputOf, spelledOut, houtput, Option.some_or, Option.none_or, Option.getD_some,
    Option.bind_some]

/-! ## The run -/

/-- The image is composed in the same run. -/
theorem runOn_composeFor_spelledOut (houtput : options.output = none)
    (hartifact : options.artifact = .missing) (hbuild : options.build = false)
    (hload : ((Configuration.load s path (environmentOf s options.buildDirectory)).runOn w).1 =
      .ok c)
    (haddress : c.geometry.baseAddress = some address) :
    (composeFor s options (named path)).runOn w =
      (composeFor s (spelledOut options c) (deviceOf c.geometry address)).runOn w := by
  rw [composeFor, Action.runOn_bind_ok (runOn_configuration_of_load hload), geometryOf_named]
  rw [composeFor, Action.runOn_bind_ok (runOn_configuration_missing rfl _ w),
    geometryOf_deviceOf haddress, providerOf_spelledOut hartifact hbuild,
    outputOf_spelledOut houtput]
  rfl

/-- **A configuration stands for the options that say the same.** Where a configuration with an
address is loaded, the run that names it alone ends as the run does whose options give the artifact,
the output and the device of the configuration; it prints the same lines, notes the same records and
leaves the same files. -/
theorem makeImage_spelledOut (houtput : options.output = none)
    (hartifact : options.artifact = .missing) (hbuild : options.build = false)
    (hload : ((Configuration.load s path (environmentOf s options.buildDirectory)).runOn w).1 =
      .ok c)
    (haddress : c.geometry.baseAddress = some address) :
    (makeImage s options (named path)).runOn w =
      (makeImage s (spelledOut options c) (deviceOf c.geometry address)).runOn w := by
  have hshow : showMade (spelledOut options c) (deviceOf c.geometry address) =
      showMade options (named path) := rfl
  rw [runOn_makeImage, runOn_makeImage, hshow,
    runOn_composeFor_spelledOut houtput hartifact hbuild hload haddress]

/-- A configuration that names a device, an artifact and an output. -/
def completeText : String :=
  "name: t\nflash:\n  device_size: 64\n  block_size: 16\n  base_address: 4096\n"
    ++ "artifact:\n  binary: $BUILD_DIR/a.bin\nimage:\n  output: o.img\n"

/-- What is read of the configuration. -/
def completeConfiguration : Configuration :=
  ⟨.text "t", { smallDevice with baseAddress := some 4096 }, some (Path.ofString "//a.bin"), none,
    some (Path.ofString "o.img")⟩

/-- The run that names the configuration is the one with an option for each of its values. -/
theorem makeImage_spelledOut_complete :
    let w := World.ofTree (Configuration.configTree completeText)
    ((Configuration.load .atRoot (Path.ofString "c.yml") (environmentOf .atRoot .missing)).runOn
        w).1 = .ok completeConfiguration ∧
      (makeImage .atRoot ⟨none, .missing, false, .missing, true, true⟩
          (named (Path.ofString "c.yml"))).runOn w =
        (makeImage .atRoot ⟨some (Path.ofString "o.img"), .given (Path.ofString "//a.bin"), false,
          .missing, true, true⟩ ⟨.missing, .given 64, .given 16, .given 4096⟩).runOn w := by
  intro w
  have hsettings : Configuration.settingsOf completeText.toUTF8 =
      .ok ⟨.text "t", 64, 16, some (some 4096), some ⟨.text "$BUILD_DIR/a.bin", none⟩,
        some (.text "o.img")⟩ := by
    decide +kernel
  have hload : ((Configuration.load .atRoot (Path.ofString "c.yml")
      (environmentOf .atRoot .missing)).runOn w).1 = .ok completeConfiguration := by
    rw [Configuration.runOn_load_configTree _ hsettings]
    rfl
  have hdevice : deviceOf completeConfiguration.geometry 4096 =
      ⟨.missing, .given 64, .given 16, .given 4096⟩ := rfl
  have hoptions : spelledOut ⟨none, .missing, false, .missing, true, true⟩ completeConfiguration =
      ⟨some (Path.ofString "o.img"), .given (Path.ofString "//a.bin"), false, .missing, true,
        true⟩ := rfl
  rw [← hdevice, ← hoptions]
  exact ⟨hload, makeImage_spelledOut rfl rfl rfl hload rfl⟩

end CommandLine

end NorFlash
