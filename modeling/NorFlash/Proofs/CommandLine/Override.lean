import NorFlash.Proofs.CommandLine.Planning
import NorFlash.Proofs.Configuration.Document
import NorFlash.Proofs.Geometry

/-!
# Options over a configuration

Each of the three values of a device comes from its option, or else from the configuration, or else
from the default (`Sizes.override`), and the values that are found so decide alone which device
there is, if any (`DecidedBy`). The configuration has to describe a device of its own, though: a file
with sizes that are those of no device is refused when it is loaded, before any option is looked at
(`options_override`).
-/

namespace NorFlash.CommandLine

open NorFlash.Configuration (HasSettings)

variable {s : Setting} {path : Path} {w : World} {settings : Settings} {z : Sizes}
  {buildDirectory : OptionValue Path}

/-! ## Sizes from three sources -/

/-- The values that a device is described by. -/
structure Sizes where
  /-- The bytes of the device. -/
  total : Int
  /-- The bytes of an erase block. -/
  block : Int
  /-- The address the device is mapped at, if there is one. -/
  base : Option Int

/-- The values that options give. -/
structure Overrides where
  /-- The bytes of the device. -/
  total : Option Int
  /-- The bytes of an erase block. -/
  block : Option Int
  /-- The address the device is mapped at. -/
  base : Option Int

/-- An option that is given with a value or not at all. -/
def optionOf : Option Int → OptionValue Int
  | none => .missing
  | some value => .given value

/-- The options that give some values, with a configuration or without one. -/
def Overrides.options (o : Overrides) (config : OptionValue Path) : DeviceOptions :=
  ⟨config, optionOf o.total, optionOf o.block, optionOf o.base⟩

namespace Sizes

/-- The values without a configuration. -/
def standard : Sizes :=
  ⟨Geometry.defaultTotal, Geometry.defaultBlock, some Geometry.defaultBase⟩

/-- The values that a file has, with the default where it says nothing about the address. -/
def ofSettings (settings : Settings) : Sizes :=
  ⟨settings.deviceSize, settings.blockSize, settings.baseAddress.getD (some Geometry.defaultBase)⟩

/-- The values with those of options in their places. -/
def override (z : Sizes) (o : Overrides) : Sizes :=
  ⟨o.total.getD z.total, o.block.getD z.block, o.base.or z.base⟩

/-- There are whole blocks, two at least, and they are not empty. -/
def Valid (z : Sizes) : Prop :=
  0 < z.block ∧ 0 < z.total ∧ z.block ∣ z.total ∧ z.total ≠ z.block

/-- The device of some values, or the report that there is none. -/
def device (z : Sizes) : Except Failure Geometry :=
  ((Geometry.ofSizes z.total z.block z.base).mapError fun fault =>
    .configuration (.geometry fault)).mapError Failure.worded

/-- Whether the numbers of a report can be written. -/
def Writable (z : Sizes) : Prop :=
  Numeral.isWritable z.total = true ∧ Numeral.isWritable z.block = true

end Sizes

/-! ## The device of some values -/

theorem ofSizes_of_valid (h : z.Valid) :
    ∃ g, Geometry.ofSizes z.total z.block z.base = .ok g := by
  obtain ⟨hblock, htotal, ⟨k, hk⟩, hne⟩ := h
  have hpos : 0 < k := by
    by_contra hneg
    have hle : z.block * k ≤ 0 := Int.mul_nonpos_of_nonneg_of_nonpos (by omega) (by omega)
    omega
  have htwo : 2 ≤ k := by
    by_contra hsmall
    obtain rfl : k = 1 := by omega
    exact hne (by rw [hk, Int.mul_one])
  exact Geometry.exists_ofSizes_of_blocks z.base (by omega) htwo (by rw [hk, Int.mul_comm])

theorem valid_of_ofSizes {g : Geometry} (h : Geometry.ofSizes z.total z.block z.base = .ok g) :
    z.Valid := by
  obtain ⟨hblock, hcount, htotal⟩ := Geometry.blocks_of_ofSizes h
  have hlarge : 2 * z.block ≤ z.total := by
    rw [htotal]
    exact Int.mul_le_mul_of_nonneg_right hcount (by omega)
  exact ⟨by omega, by omega, ⟨g.blockCount, by rw [htotal, Int.mul_comm]⟩, by omega⟩

/-- The numbers in a report are sizes. -/
theorem values_writable {fault : GeometryFault} (hz : z.Writable)
    (h : Geometry.ofSizes z.total z.block z.base = .error fault) :
    ∀ value ∈ fault.values, Numeral.isWritable value.2 = true := by
  obtain ⟨htotal, hblock⟩ := hz
  rw [Geometry.ofSizes] at h
  split at h
  · obtain rfl := Except.error.inj h
    simp [GeometryFault.values, hblock]
  split at h
  · obtain rfl := Except.error.inj h
    simp [GeometryFault.values, htotal]
  split at h
  · obtain rfl := Except.error.inj h
    simp [GeometryFault.values, htotal, hblock]
  split at h
  · obtain rfl := Except.error.inj h
    simp [GeometryFault.values, htotal, hblock]
  · cases h

/-- A report whose numbers can be written stays what it is. -/
theorem worded_of_writable {fault : GeometryFault}
    (h : ∀ value ∈ fault.values, Numeral.isWritable value.2 = true) :
    (Failure.configuration (.geometry fault)).worded = .configuration (.geometry fault) := by
  rcases Configuration.worded_geometry_cases fault with ⟨-, hworded⟩ | ⟨hlong, -⟩
  · exact hworded
  · exact absurd h hlong

/-- An outcome is decided by some values: it is the device that they describe, and if they describe
none it is a failure, which is the report of a configuration that cannot be used as long as its
numbers can be written. -/
structure DecidedBy (outcome : Except Failure Geometry) (z : Sizes) : Prop where
  /-- The values of a device lead to that device. -/
  device : z.Valid → ∃ g, outcome = .ok g ∧ (g.totalSize : Int) = z.total ∧
    (g.blockSize : Int) = z.block ∧ g.baseAddress = z.base
  /-- Other values lead to a failure. -/
  failure : ¬ z.Valid → ∃ failure, outcome = .error failure
  /-- It is reported as one of the configuration. -/
  reported : ¬ z.Valid → z.Writable →
    ∃ fault, outcome = .error (.configuration (.geometry fault))

theorem decidedBy_device (z : Sizes) : DecidedBy z.device z := by
  cases hsizes : Geometry.ofSizes z.total z.block z.base with
  | ok g =>
    have hvalid : z.Valid := valid_of_ofSizes hsizes
    refine ⟨?_, fun h => absurd hvalid h, fun h => absurd hvalid h⟩
    intro _
    refine ⟨g, ?_, Geometry.of_ofSizes hsizes⟩
    rw [Sizes.device, hsizes]
    rfl
  | error fault =>
    have hdevice : z.device = .error (Failure.configuration (.geometry fault)).worded := by
      rw [Sizes.device, hsizes]
      rfl
    rw [hdevice]
    refine ⟨?_, fun _ => ⟨_, rfl⟩, ?_⟩
    · intro hvalid
      obtain ⟨g, hg⟩ := ofSizes_of_valid hvalid
      rw [hsizes] at hg
      cases hg
    · intro _ hwritable
      exact ⟨fault, by rw [worded_of_writable (values_writable hwritable hsizes)]⟩

/-! ## Options and a configuration together -/

theorem valueOr_optionOf (other : Int) (value : Option Int) :
    valueOr other (optionOf value) = .ok (value.getD other) := by
  cases value <;> rfl

/-- The block is looked at before the other values, and once more with them. -/
theorem ofSizes_after_block (total block : Int) (base : Option Int) :
    (if block ≤ 0 then
      .error (.configuration (.geometry (.blockNotPositive block)))
    else
      (Geometry.ofSizes total block base).mapError fun fault => .configuration (.geometry fault)) =
    (Geometry.ofSizes total block base).mapError fun fault =>
      Failure.configuration (.geometry fault) := by
  split
  · next hle =>
    rw [Geometry.ofSizes, dif_pos hle]
    rfl
  · rfl

/-- The values that a configuration has for a device, or the default ones without one. -/
def Sizes.ofConfiguration : Option Configuration → Sizes
  | none => standard
  | some c => ⟨c.geometry.totalSize, c.geometry.blockSize, c.geometry.baseAddress⟩

/-- The device of values that options and a configuration give. -/
theorem geometryOf_options (o : Overrides) (path : OptionValue Path)
    (config : Option Configuration) :
    (geometryOf (o.options path) config).mapError Failure.worded =
      ((Sizes.ofConfiguration config).override o).device := by
  rw [Sizes.device]
  refine congrArg (Except.mapError Failure.worded) ?_
  rw [← ofSizes_after_block]
  obtain ⟨total, block, base⟩ := o
  unfold geometryOf
  simp only [Overrides.options, valueOr_optionOf]
  cases config with
  | none => cases base <;> rfl
  | some c => cases base <;> rfl

/-! ## Loading -/

/-- The settings of a file are what loading it goes by. -/
theorem runOn_load_of_settings (h : HasSettings s path w settings)
    (env : Substitution.Environment) :
    (Action.pathExists s path).runOn w = (.ok true, w) ∧
      (Configuration.load s path env).runOn w =
        (Action.ofExcept id (Configuration.ofSettings env settings)).runOn w := by
  obtain ⟨hschema, content, d, hcontent, hread, hallowed, hdocument⟩ := h
  obtain ⟨hnull, mode, hfile⟩ := Image.of_runOn_readFile hcontent
  have hsettings : Configuration.settingsOf content = .ok settings :=
    Configuration.settingsOf_eq_ok_iff.2 ⟨d, hread, hallowed, hdocument⟩
  exact ⟨Action.runOn_testEntry_of_status hnull hfile,
    Configuration.runOn_load hschema hnull hfile hsettings⟩

/-- Usable settings describe a configuration with the device of their own sizes, and fail only
because these are those of no device. -/
theorem ofSettings_of_usable {env : Substitution.Environment} (h : settings.IsUsable env) :
    (∃ config g, Configuration.ofSettings env settings = .ok config ∧
        (Sizes.ofSettings settings).device = .ok g ∧ config.geometry = g) ∨
      ∃ fault, Configuration.ofSettings env settings = .error (.configuration (.geometry fault)) ∧
        (Sizes.ofSettings settings).device = .error (.configuration (.geometry fault)) ∧
        (Failure.configuration (.geometry fault)).worded = .configuration (.geometry fault) := by
  obtain ⟨hbuilds, hrest⟩ := h
  have hbuild : ∃ build, (settings.artifact.bind (·.build)).mapM (Configuration.buildIn env) =
      .ok build := by
    rcases Configuration.Decides.option Configuration.decides_buildIn
      (settings.artifact.bind (·.build)) with ⟨-, hbuild⟩ | ⟨hnot, -⟩
    · exact hbuild
    · exact absurd hbuilds hnot
  obtain ⟨build, hbuild⟩ := hbuild
  have hpath : ∀ word : Option Word, (∀ text ∈ word, text.IsText) →
      ∃ found, word.mapM (Configuration.pathIn env) = .ok found := by
    intro word htext
    rcases Configuration.Decides.option Configuration.decides_pathIn word with
      ⟨-, hfound⟩ | ⟨hnot, -⟩
    · exact hfound
    · exact absurd htext hnot
  cases hsizes : Geometry.ofSizes settings.deviceSize settings.blockSize
      (settings.baseAddress.getD (some Geometry.defaultBase)) with
  | ok g =>
    rw [hsizes] at hrest
    obtain ⟨binary, hbinary⟩ := hpath (settings.artifact.map (·.binary)) hrest.1
    obtain ⟨output, houtput⟩ := hpath settings.output hrest.2
    refine .inl ⟨⟨settings.name, g, binary, build, output⟩, g, ?_, ?_, rfl⟩
    · rw [Configuration.ofSettings, hbuild, Configuration.geometryOf, hsizes, hbinary, houtput]
      rfl
    · rw [Sizes.device, Sizes.ofSettings, hsizes]
      rfl
  | error fault =>
    rw [hsizes] at hrest
    have hworded : (Failure.configuration (.geometry fault)).worded =
        .configuration (.geometry fault) := worded_of_writable hrest
    refine .inr ⟨fault, ?_, ?_, hworded⟩
    · rw [Configuration.ofSettings, hbuild, Configuration.geometryOf, hsizes]
      rfl
    · rw [Sizes.device, Sizes.ofSettings, hsizes]
      exact congrArg Except.error hworded

/-! ## The device that is found -/

/-- Without a configuration, the options stand over the default values. -/
theorem deviceIn_without (o : Overrides) :
    deviceIn s (o.options .missing) buildDirectory w = (Sizes.standard.override o).device := by
  rw [deviceIn, runOn_configuration_missing rfl]
  exact geometryOf_options o .missing none

/-- With a configuration, the device of the file comes first, and then that of the options over
it. -/
theorem deviceIn_of_settings (o : Overrides) (hsettings : HasSettings s path w settings)
    (husable : settings.IsUsable (environmentOf s buildDirectory)) :
    deviceIn s (o.options (.given path)) buildDirectory w =
      (Sizes.ofSettings settings).device >>= fun _ =>
        ((Sizes.ofSettings settings).override o).device := by
  obtain ⟨hfound, hload⟩ :=
    runOn_load_of_settings hsettings (environmentOf s buildDirectory)
  rw [deviceIn, runOn_configuration_of_found rfl hfound, hload]
  rcases ofSettings_of_usable husable with ⟨config, g, hconfig, hdevice, rfl⟩ |
    ⟨fault, hconfig, hdevice, hworded⟩
  · have hown : Sizes.ofConfiguration (some config) = Sizes.ofSettings settings := by
      obtain ⟨-, htotal, hblock, hbase, -⟩ := Configuration.of_ofSettings hconfig
      rw [Sizes.ofConfiguration, Sizes.ofSettings, htotal, hblock, hbase]
    rw [hconfig, hdevice, ← hown]
    exact geometryOf_options o (.given path) (some config)
  · rw [hconfig, hdevice, Action.runOn_ofExcept_error, id, hworded]
    rfl

/-- Two descriptions have the same values wherever no option gives one. -/
def Sizes.SameBeside (o : Overrides) (first second : Sizes) : Prop :=
  (o.total = none → first.total = second.total) ∧ (o.block = none → first.block = second.block) ∧
    (o.base = none → first.base = second.base)

theorem override_congr {o : Overrides} {first second : Sizes} (h : first.SameBeside o second) :
    first.override o = second.override o := by
  obtain ⟨total, block, base⟩ := o
  obtain ⟨htotal, hblock, hbase⟩ := h
  rw [Sizes.override, Sizes.override, Sizes.mk.injEq]
  refine ⟨?_, ?_, ?_⟩
  · cases total with
    | none => exact htotal rfl
    | some value => rfl
  · cases block with
    | none => exact hblock rfl
    | some value => rfl
  · cases base with
    | none => exact hbase rfl
    | some value => rfl

/-- Options over a configuration with a device of its own decide the outcome. -/
theorem deviceIn_of_valid (o : Overrides) (hsettings : HasSettings s path w settings)
    (husable : settings.IsUsable (environmentOf s buildDirectory))
    (hvalid : (Sizes.ofSettings settings).Valid) :
    deviceIn s (o.options (.given path)) buildDirectory w =
      ((Sizes.ofSettings settings).override o).device := by
  obtain ⟨g, hg, -⟩ := (decidedBy_device (Sizes.ofSettings settings)).device hvalid
  rw [deviceIn_of_settings o hsettings husable, hg]
  rfl

/-- **Options come before a configuration, and a configuration before the defaults.** Without a
configuration, and with one that describes a device of its own, the values found in this order
decide the outcome, so that those that an option replaces have no influence on it. A configuration
whose own sizes are those of no device is refused whatever the options are. -/
theorem options_override (s : Setting) (o : Overrides) (buildDirectory : OptionValue Path) :
    (∀ w, DecidedBy (deviceIn s (o.options .missing) buildDirectory w)
      (Sizes.standard.override o)) ∧
    (∀ path w settings, HasSettings s path w settings →
      settings.IsUsable (environmentOf s buildDirectory) →
      ((Sizes.ofSettings settings).Valid →
        DecidedBy (deviceIn s (o.options (.given path)) buildDirectory w)
          ((Sizes.ofSettings settings).override o)) ∧
      (¬ (Sizes.ofSettings settings).Valid → ∃ fault,
        deviceIn s (o.options (.given path)) buildDirectory w =
          .error (.configuration (.geometry fault)))) ∧
    ∀ path w settings path' w' settings', HasSettings s path w settings →
      HasSettings s path' w' settings' → settings.IsUsable (environmentOf s buildDirectory) →
      settings'.IsUsable (environmentOf s buildDirectory) → (Sizes.ofSettings settings).Valid →
      (Sizes.ofSettings settings').Valid →
      (Sizes.ofSettings settings).SameBeside o (Sizes.ofSettings settings') →
      deviceIn s (o.options (.given path)) buildDirectory w =
        deviceIn s (o.options (.given path')) buildDirectory w' := by
  refine ⟨?_, ?_, ?_⟩
  · intro w
    rw [deviceIn_without]
    exact decidedBy_device _
  · intro path w settings hsettings husable
    refine ⟨?_, ?_⟩
    · intro hvalid
      rw [deviceIn_of_valid o hsettings husable hvalid]
      exact decidedBy_device _
    · intro hinvalid
      rw [deviceIn_of_settings o hsettings husable]
      rcases ofSettings_of_usable husable with ⟨config, g, -, hdevice, -⟩ |
        ⟨fault, -, hdevice, -⟩
      · obtain ⟨failure, hfailure⟩ := (decidedBy_device (Sizes.ofSettings settings)).failure hinvalid
        rw [hdevice] at hfailure
        cases hfailure
      · exact ⟨fault, by rw [hdevice]; rfl⟩
  · intro path w settings path' w' settings' hsettings hsettings' husable husable' hvalid hvalid'
      hsame
    rw [deviceIn_of_valid o hsettings husable hvalid,
      deviceIn_of_valid o hsettings' husable' hvalid', override_congr hsame]

/-! ## A configuration of a small device -/

/-- A configuration in a file of its own has its settings. -/
theorem hasSettings_configTree {text : String}
    (hsettings : Configuration.settingsOf text.toUTF8 = .ok settings) :
    HasSettings .atRoot (Path.ofString "c.yml") (.ofTree (Configuration.configTree text))
      settings := by
  obtain ⟨d, hread, hallowed, hdocument⟩ := Configuration.settingsOf_eq_ok_iff.1 hsettings
  have htext : (Path.ofString "c.yml").render = "c.yml" := by decide
  have hlocate : (Configuration.configTree text).locate [] true "c.yml" =
      .ok (.entry ["c.yml"]) :=
    FileTree.locate_root ⟨by decide, by decide, by decide⟩ (by decide) rfl (by simp)
  have hfile : (World.ofTree (Configuration.configTree text)).tree.status
      Setting.atRoot.directory (Path.ofString "c.yml").render =
        .ok (.file 0o644 text.toUTF8) := by
    rw [htext]
    exact FileTree.status_eq_ok_iff.2 ⟨_, hlocate, rfl⟩
  exact ⟨rfl, _, d, by rw [Image.runOn_readFile (by decide) hfile], hread, hallowed, hdocument⟩

/-- Larger blocks are taken for the small device of a configuration. -/
theorem options_override_block :
    let w := World.ofTree (Configuration.configTree (Configuration.namedText "t"))
    let o : Overrides := ⟨none, some 32, none⟩
    DecidedBy (deviceIn .atRoot (o.options (.given (Path.ofString "c.yml"))) .missing w)
        ⟨64, 32, some Geometry.defaultBase⟩ ∧
      (⟨64, 32, some Geometry.defaultBase⟩ : Sizes).Valid := by
  intro w o
  have hsettings : Configuration.settingsOf (Configuration.namedText "t").toUTF8 =
      .ok ⟨.text "t", 64, 16, none, none, none⟩ := by
    decide +kernel
  have husable : Settings.IsUsable (environmentOf .atRoot .missing)
      ⟨.text "t", 64, 16, none, none, none⟩ := by
    have hsizes : Geometry.ofSizes 64 16 (some Geometry.defaultBase) = .ok smallDevice := rfl
    refine ⟨by simp, ?_⟩
    rw [Option.getD_none, hsizes]
    simp
  have hvalid : (⟨64, 16, some Geometry.defaultBase⟩ : Sizes).Valid := by
    simp [Sizes.Valid]
  have hdecided := ((options_override .atRoot o .missing).2.1 _ w _
    (hasSettings_configTree hsettings) husable).1 hvalid
  exact ⟨hdecided, by simp [Sizes.Valid]⟩

/-- A configuration whose own blocks do not fill its device is refused, although the block that an
option gives would. -/
theorem options_override_refused :
    let text := "name: t\nflash:\n  device_size: 64\n  block_size: 24\n"
    let w := World.ofTree (Configuration.configTree text)
    let o : Overrides := ⟨none, some 16, none⟩
    ∃ settings, HasSettings .atRoot (Path.ofString "c.yml") w settings ∧
      ((Sizes.ofSettings settings).override o).Valid ∧
      deviceIn .atRoot (o.options (.given (Path.ofString "c.yml"))) .missing w =
        .error (.configuration (.geometry (.notWholeBlocks 64 24))) := by
  intro text w o
  have hsettings : Configuration.settingsOf text.toUTF8 =
      .ok ⟨.text "t", 64, 24, none, none, none⟩ := by
    decide +kernel
  have hsizes : Geometry.ofSizes 64 24 (some Geometry.defaultBase) =
      .error (.notWholeBlocks 64 24) := rfl
  have hwritable : ∀ value ∈ (GeometryFault.notWholeBlocks 64 24).values,
      Numeral.isWritable value.2 = true := by
    have hshort : ∀ n : Nat, n < 100 → Numeral.isWritable (n : Int) = true := by
      intro n hn
      exact Image.isWritable_of_lt (hn.trans (by decide))
    intro value hvalue
    simp only [GeometryFault.values, List.mem_cons, List.not_mem_nil, or_false] at hvalue
    rcases hvalue with rfl | rfl
    · exact hshort 64 (by decide)
    · exact hshort 24 (by decide)
  have husable : Settings.IsUsable (environmentOf .atRoot .missing)
      ⟨.text "t", 64, 24, none, none, none⟩ := by
    refine ⟨by simp, ?_⟩
    rw [Option.getD_none, hsizes]
    exact hwritable
  have hdevice : (Sizes.ofSettings ⟨.text "t", 64, 24, none, none, none⟩).device =
      .error (.configuration (.geometry (.notWholeBlocks 64 24))) := by
    rw [Sizes.device, Sizes.ofSettings, Option.getD_none, hsizes]
    exact congrArg Except.error (worded_of_writable hwritable)
  refine ⟨_, hasSettings_configTree hsettings, ?_, ?_⟩
  · simp [Sizes.Valid, Sizes.override, Sizes.ofSettings, o]
  · rw [deviceIn_of_settings o (hasSettings_configTree hsettings) husable, hdevice]
    rfl

end NorFlash.CommandLine
