import NorFlash.Proofs.CommandLine.ComposeImage
import NorFlash.Proofs.CommandLine.ShowLayout
import NorFlash.Proofs.Configuration.Environment

/-!
# Planning in two commands

The command that shows a layout and the command that makes an image both plan for the device that
their options describe, `deviceIn`. The second one may name a build directory, which has no bearing
on the device (`deviceIn_congr`). So both go by the same plan, `planIn`: the first one as
`runOn_planned_of_error` and `runOn_planned_of_ok` tell, the second one as `runOn_composeFor_of_error`
and `runOn_composeFor_of_given`.
-/

namespace NorFlash.CommandLine

variable {s : Setting} {device : DeviceOptions} {options : MakeOptions} {g : Geometry}
  {path : Path} {config : Option Configuration} {size : Int} {w : World}

/-! ## The device that options describe -/

/-- The device that options describe with the configuration that they name, or why there is none. -/
def deviceIn (s : Setting) (device : DeviceOptions) (buildDirectory : OptionValue Path) (w : World) :
    Except Failure Geometry :=
  match ((configuration s device buildDirectory).runOn w).1 with
  | .ok config => (geometryOf device config).mapError Failure.worded
  | .error failure => .error failure

/-- The device rests on that of a configuration and on nothing else in it. -/
theorem geometryOf_congr {config config' : Option Configuration}
    (h : config.map (·.geometry) = config'.map (·.geometry)) :
    geometryOf device config = geometryOf device config' := by
  cases config with
  | none =>
    cases config' with
    | none => rfl
    | some c' => cases h
  | some c =>
    cases config' with
    | none => cases h
    | some c' =>
      have hsame : c.geometry = c'.geometry := Option.some.inj h
      unfold geometryOf
      simp only [hsame]

theorem isEmpty_environmentOf (s : Setting) (buildDirectory : OptionValue Path) :
    (environmentOf s buildDirectory).isEmpty = false := rfl

/-- Only the loading of a configuration that is there rests on the build directory. -/
theorem runOn_configuration_by_load (s : Setting) (device : DeviceOptions) (w : World) :
    (∃ result, ∀ buildDirectory, (configuration s device buildDirectory).runOn w = (result, w)) ∨
      ∃ path, ∀ buildDirectory, (configuration s device buildDirectory).runOn w =
        (((Configuration.load s path (environmentOf s buildDirectory)).runOn w).1.map some, w) := by
  cases hconfig : device.config with
  | missing => exact .inl ⟨.ok none, fun _ => runOn_configuration_missing hconfig _ w⟩
  | empty =>
    refine .inl ⟨.error (.slip .nullText), fun buildDirectory => ?_⟩
    rw [configuration, hconfig]
    rfl
  | given path =>
    have hfound : (Action.pathExists s path).runOn w = (((Action.pathExists s path).runOn w).1, w) :=
      (Action.readsFiles_testEntry s path _).runOn w
    cases hanswer : ((Action.pathExists s path).runOn w).1 with
    | error failure =>
      rw [hanswer] at hfound
      refine .inl ⟨.error failure, fun buildDirectory => ?_⟩
      rw [configuration, hconfig]
      exact Action.runOn_bind_error hfound _
    | ok found =>
      rw [hanswer] at hfound
      cases found with
      | false =>
        refine .inl ⟨.error (.configuration (.fileMissing path)), fun buildDirectory => ?_⟩
        rw [configuration, hconfig]
        exact (Action.runOn_bind_ok hfound _).trans rfl
      | true =>
        exact .inr ⟨path, fun _ => runOn_configuration_of_found hconfig hfound⟩

/-- The configuration that options name is read alike for each build directory. -/
theorem agreeOn_configuration (s : Setting) (device : DeviceOptions)
    (buildDirectory other : OptionValue Path) (w : World) :
    AgreeOn (Option.map (·.geometry)) ((configuration s device buildDirectory).runOn w).1
      ((configuration s device other).runOn w).1 := by
  rcases runOn_configuration_by_load s device w with ⟨result, hrun⟩ | ⟨path, hrun⟩
  · rw [hrun, hrun]
    exact agreeOn_refl _ _
  · have henv : (environmentOf s buildDirectory).isEmpty = (environmentOf s other).isEmpty := by
      rw [isEmpty_environmentOf, isEmpty_environmentOf]
    rw [hrun, hrun]
    rcases (Configuration.agreeOn_load henv s path w).cases with
      ⟨failure, hfail, hfail'⟩ | ⟨c, c', hc, hc', hsame⟩
    · rw [hfail, hfail']
      exact agreeOn_refl _ _
    · rw [hc, hc']
      exact agreeOn_ok (congrArg some hsame)

theorem deviceIn_congr (s : Setting) (device : DeviceOptions)
    (buildDirectory other : OptionValue Path) (w : World) :
    deviceIn s device buildDirectory w = deviceIn s device other w := by
  rw [deviceIn, deviceIn]
  rcases (agreeOn_configuration s device buildDirectory other w).cases with
    ⟨failure, hfail, hfail'⟩ | ⟨config, config', hconfig, hconfig', hsame⟩
  · rw [hfail, hfail']
  · rw [hconfig, hconfig']
    dsimp only
    rw [geometryOf_congr hsame]

theorem of_deviceIn_ok {buildDirectory : OptionValue Path}
    (h : deviceIn s device buildDirectory w = .ok g) :
    ∃ config, (configuration s device buildDirectory).runOn w = (.ok config, w) ∧
      geometryOf device config = .ok g := by
  have hrun := (readsFiles_configuration s device buildDirectory).runOn w
  rw [deviceIn] at h
  cases hconfig : ((configuration s device buildDirectory).runOn w).1 with
  | error failure =>
    rw [hconfig] at h
    cases h
  | ok config =>
    rw [hconfig] at h hrun
    dsimp only at h
    cases hgeometry : geometryOf device config with
    | error failure =>
      rw [hgeometry] at h
      cases h
    | ok found =>
      rw [hgeometry] at h
      obtain rfl : found = g := Except.ok.inj h
      exact ⟨config, hrun, hgeometry⟩

/-! ## Plans -/

/-- The device that an artifact of some size is planned for, or why there is no plan. -/
def planIn (s : Setting) (device : DeviceOptions) (size : Int) (w : World) :
    Except Failure Geometry :=
  match deviceIn s device .missing w with
  | .error failure => .error failure
  | .ok g => ((planFor g size).runOn w).1.map fun _ => g

/-- A plan rests on the files alone. -/
theorem planIn_of_tree {w' : World} (h : w.tree = w'.tree) :
    planIn s device size w = planIn s device size w' := by
  have hdevice : deviceIn s device .missing w = deviceIn s device .missing w' := by
    rw [deviceIn, deviceIn, readsFiles_configuration s device .missing w w' h]
  rw [planIn, planIn, hdevice]
  cases deviceIn s device .missing w' with
  | error failure => rfl
  | ok g =>
    dsimp only
    rw [(Composer.byTree_planFor g size w w' h).1]

/-- Planning that fails notes nothing. -/
theorem runOn_planFor_cases (g : Geometry) (size : Int) (w : World) :
    (∃ failure, (planFor g size).runOn w = (.error failure, w)) ∨
      (0 ≤ size ∧ size ≤ g.metadataOffset) ∧ Numeral.isWritable size = true := by
  by_cases hfits : 0 ≤ size ∧ size ≤ g.metadataOffset
  · cases hshort : Numeral.isWritable size with
    | false => exact .inl ⟨_, runOn_planFor_of_long hfits hshort w⟩
    | true => exact .inr ⟨hfits, rfl⟩
  · obtain ⟨failure, hplan, -⟩ := runOn_planFor_of_not_fits hfits w
    exact .inl ⟨failure, hplan⟩

/-- There is no plan because there is no device or no place on it. -/
theorem of_planIn_error {failure : Failure} (h : planIn s device size w = .error failure) :
    deviceIn s device .missing w = .error failure ∨
      ∃ g, deviceIn s device .missing w = .ok g ∧
        (planFor g size).runOn w = (.error failure, w) := by
  rw [planIn] at h
  cases hdevice : deviceIn s device .missing w with
  | error other =>
    rw [hdevice] at h
    exact .inl h
  | ok g =>
    rw [hdevice] at h
    dsimp only at h
    rcases runOn_planFor_cases g size w with ⟨other, hplan⟩ | ⟨hfits, hshort⟩
    · rw [hplan] at h
      obtain rfl : other = failure := Except.error.inj h
      exact .inr ⟨g, rfl, hplan⟩
    · obtain ⟨log, hplan⟩ := runOn_planFor (plan_of_fits hfits) hshort w
      rw [hplan] at h
      cases h

/-- An artifact that is planned for a device has a place on it and a size that can be written. -/
theorem of_planIn_ok (h : planIn s device size w = .ok g) :
    deviceIn s device .missing w = .ok g ∧ (0 ≤ size ∧ size ≤ g.metadataOffset) ∧
      Numeral.isWritable size = true := by
  rw [planIn] at h
  cases hdevice : deviceIn s device .missing w with
  | error failure =>
    rw [hdevice] at h
    cases h
  | ok g' =>
    rw [hdevice] at h
    dsimp only at h
    rcases runOn_planFor_cases g' size w with ⟨failure, hplan⟩ | ⟨hfits, hshort⟩
    · rw [hplan] at h
      cases h
    · obtain ⟨log, hplan⟩ := runOn_planFor (plan_of_fits hfits) hshort w
      rw [hplan] at h
      obtain rfl : g' = g := Except.ok.inj h
      exact ⟨rfl, hfits, hshort⟩

theorem planIn_of_fits (hconfig : ((configuration s device .missing).runOn w).1 = .ok config)
    (hgeometry : geometryOf device config = .ok g) (hfits : 0 ≤ size ∧ size ≤ g.metadataOffset)
    (hshort : Numeral.isWritable size = true) : planIn s device size w = .ok g := by
  obtain ⟨log, hplan⟩ := runOn_planFor (plan_of_fits hfits) hshort w
  have hdevice : deviceIn s device .missing w = .ok g := by
    rw [deviceIn, hconfig]
    dsimp only
    rw [hgeometry]
    rfl
  rw [planIn, hdevice]
  dsimp only
  rw [hplan]
  rfl

/-! ## The layout that is to be shown -/

theorem runOn_geometryFor_deviceIn (s : Setting) (device : DeviceOptions) (w : World) :
    (geometryFor s device).runOn w = (deviceIn s device .missing w, w) := by
  rw [geometryFor, deviceIn, Action.runOn_bind,
    (readsFiles_configuration s device .missing).runOn w]
  cases ((configuration s device .missing).runOn w).1 with
  | error failure => rfl
  | ok config =>
    dsimp only
    cases geometryOf device config with
    | error failure => rfl
    | ok g => rfl

theorem runOn_planned_of_error {failure : Failure} (h : planIn s device size w = .error failure) :
    (planned s (some size) device).runOn w = (.error failure, w) := by
  have hgeometry := runOn_geometryFor_deviceIn s device w
  rw [planned]
  rcases of_planIn_error h with hdevice | ⟨g, hdevice, hplan⟩
  · rw [hdevice] at hgeometry
    exact Action.runOn_bind_error hgeometry _
  · rw [hdevice] at hgeometry
    rw [Action.runOn_bind_ok hgeometry]
    exact Action.runOn_bind_error hplan _

theorem runOn_planned_of_ok (h : planIn s device size w = .ok g) :
    ∃ log, (planned s (some size) device).runOn w =
      (.ok (Layout.ofGeometry g, size), { w with log := log }) := by
  obtain ⟨hdevice, hfits, hshort⟩ := of_planIn_ok h
  obtain ⟨log, hplan⟩ := runOn_planFor (plan_of_fits hfits) hshort w
  have hgeometry := runOn_geometryFor_deviceIn s device w
  rw [hdevice] at hgeometry
  refine ⟨log, ?_⟩
  rw [planned, Action.runOn_bind_ok hgeometry]
  exact Action.runOn_bind_ok hplan _

/-! ## The image that is to be made -/

/-- Without a device, nothing is composed. -/
theorem runOn_composeFor_of_no_device {failure : Failure}
    (h : deviceIn s device options.buildDirectory w = .error failure) :
    (composeFor s options device).runOn w = (.error failure, w) := by
  have hrun := (readsFiles_configuration s device options.buildDirectory).runOn w
  rw [deviceIn] at h
  cases hconfig : ((configuration s device options.buildDirectory).runOn w).1 with
  | error other =>
    rw [hconfig] at h hrun
    obtain rfl : other = failure := Except.error.inj h
    exact Action.runOn_bind_error hrun _
  | ok config =>
    rw [hconfig] at h hrun
    dsimp only at h
    cases hgeometry : geometryOf device config with
    | ok g =>
      rw [hgeometry] at h
      cases h
    | error other =>
      rw [hgeometry] at h
      obtain rfl : other.worded = failure := Except.error.inj h
      exact runOn_composeFor_of_geometry_error hrun hgeometry

/-- On a device, the artifact that an option names is composed. -/
theorem runOn_composeFor_of_given (hpath : options.artifact = .given path)
    (hconfig : (configuration s device options.buildDirectory).runOn w = (.ok config, w))
    (hgeometry : geometryOf device config = .ok g) :
    (composeFor s options device).runOn w =
      (compose s (Provider.ofFile s path) g (some (outputOf options config))
        options.hex).runOn w := by
  have hprovider : providerOf s options config = .ok (Provider.ofFile s path) := by
    rw [providerOf, hpath]
  exact runOn_composeFor_of_provider hconfig hgeometry hprovider

/-- Without a plan, no artifact is composed. -/
theorem runOn_composeFor_of_error {artifact : ByteArray} {failure : Failure}
    (hpath : options.artifact = .given path)
    (hprovider : (Provider.ofFile s path).runOn w = (.ok artifact, w))
    (h : planIn s device artifact.size w = .error failure) :
    let run := (composeFor s options device).runOn w
    run.1 = .error failure ∧ run.2.tree = w.tree := by
  dsimp only
  rcases of_planIn_error h with hdevice | ⟨g, hdevice, hplan⟩
  · rw [deviceIn_congr s device _ options.buildDirectory] at hdevice
    rw [runOn_composeFor_of_no_device hdevice]
    exact ⟨rfl, rfl⟩
  · rw [deviceIn_congr s device _ options.buildDirectory] at hdevice
    obtain ⟨config, hconfig, hgeometry⟩ := of_deviceIn_ok hdevice
    obtain ⟨hresult, htree⟩ := runOn_compose_steps s (Provider.ofFile s path) g
      (outputOf options config) options.hex w
    rw [runOn_composeFor_of_given hpath hconfig hgeometry, hresult, htree,
      runOn_composeSteps_of_planFor_error _ _ hprovider hplan]
    exact ⟨rfl, rfl⟩

end NorFlash.CommandLine
