import NorFlash.Proofs.CommandLine.Promised
import NorFlash.Proofs.CommandLine.Shown
import NorFlash.Proofs.Composer.Steps

/-!
# Failures that a command expects

A command goes on with the value of an action, notes its failure or fails with it
(`runOn_expecting`). The failures that all commands meet are those of the device: sizes that are
those of no device are bad data, and a size without a value is a slip (`geometryOf_cases`).
-/

namespace NorFlash.CommandLine

variable {α : Type} {s : Setting} {device : DeviceOptions} {w : World}

/-! ## Expecting failures -/

theorem runOn_expecting (kinds : List FailureKind) (code : FailureKind → ExitCode) (a : Action α)
    (k : α → Action ExitCode) (w : World) :
    (expecting kinds code a k).runOn w =
      match a.runOn w with
      | (.ok value, w') => (k value).runOn w'
      | (.error failure, w') =>
        if kinds.contains failure.kind then
          (.ok (code failure.kind),
            { w' with log := w'.log ++ [⟨.error, "Exception: " ++ failure.message⟩] })
        else (.error failure, w') := by
  rw [expecting, Action.runOn_bind_ok (Action.runOn_attempt _)]
  cases a.runOn w with
  | mk result w₁ =>
    cases result with
    | ok value => rfl
    | error failure =>
      dsimp only
      split
      · rfl
      · rfl

/-- How a command ends on a failure. -/
def endOn (kinds : List FailureKind) (code : FailureKind → ExitCode) (failure : Failure) :
    Except Failure ExitCode :=
  if kinds.contains failure.kind then .ok (code failure.kind) else .error failure

theorem runOn_expecting_of_ok {kinds : List FailureKind} {code : FailureKind → ExitCode}
    {a : Action α} {value : α} {w' : World} (h : a.runOn w = (.ok value, w'))
    (k : α → Action ExitCode) : (expecting kinds code a k).runOn w = (k value).runOn w' := by
  rw [runOn_expecting, h]

theorem runOn_expecting_of_error {kinds : List FailureKind} {code : FailureKind → ExitCode}
    {a : Action α} {failure : Failure} (h : (a.runOn w).1 = .error failure)
    (k : α → Action ExitCode) :
    let run := (expecting kinds code a k).runOn w
    run.1 = endOn kinds code failure ∧ run.2.tree = (a.runOn w).2.tree := by
  dsimp only
  rw [runOn_expecting, endOn]
  cases hrun : a.runOn w with
  | mk result w₁ =>
    rw [hrun] at h
    obtain rfl : result = .error failure := h
    dsimp only
    split
    · exact ⟨rfl, rfl⟩
    · exact ⟨rfl, rfl⟩

/-! ## The device -/

/-- The address that options give a device without a configuration. -/
def baseOf (device : DeviceOptions) : Option Int :=
  match device.baseAddress with
  | .missing => some Geometry.defaultBase
  | given => given.toOption

/-- The device that sizes describe, if they describe one. -/
def sized (device : DeviceOptions) (total block : Int) : Except Failure Geometry :=
  (Geometry.ofSizes total block (baseOf device)).mapError fun fault =>
    .configuration (.geometry fault)

theorem geometryOf_none (device : DeviceOptions) :
    geometryOf device none =
      match valueOr Geometry.defaultBlock device.blockSize with
      | .error failure => .error failure
      | .ok block =>
        if block ≤ 0 then .error (.configuration (.geometry (.blockNotPositive block)))
        else
          match valueOr Geometry.defaultTotal device.flashSize with
          | .error failure => .error failure
          | .ok total => sized device total block := by
  unfold geometryOf
  dsimp only
  cases valueOr Geometry.defaultBlock device.blockSize with
  | error failure => rfl
  | ok block =>
    dsimp only [bind, Except.bind]
    split
    · rfl
    · cases valueOr Geometry.defaultTotal device.flashSize with
      | error failure => rfl
      | ok total => rfl

theorem valueOr_error {other : α} {value : OptionValue α} {failure : Failure}
    (h : valueOr other value = .error failure) : failure = .slip .nullValue := by
  cases value with
  | missing => cases h
  | empty => exact (Except.error.inj h).symm
  | given a => cases h

/-- The options describe a device at their address, or a size has no value, or the sizes are those
of no device. -/
theorem geometryOf_cases (device : DeviceOptions) :
    (∃ g, geometryOf device none = .ok g ∧ g.baseAddress = baseOf device) ∨
      geometryOf device none = .error (.slip .nullValue) ∨
      ∃ fault, geometryOf device none = .error (.configuration (.geometry fault)) := by
  rw [geometryOf_none]
  cases hblock : valueOr Geometry.defaultBlock device.blockSize with
  | error failure => exact .inr (.inl (by rw [valueOr_error hblock]))
  | ok block =>
    dsimp only
    split
    · exact .inr (.inr ⟨_, rfl⟩)
    · cases htotal : valueOr Geometry.defaultTotal device.flashSize with
      | error failure => exact .inr (.inl (by rw [valueOr_error htotal]))
      | ok total =>
        dsimp only
        rw [sized]
        cases hsizes : Geometry.ofSizes total block (baseOf device) with
        | error fault => exact .inr (.inr ⟨fault, rfl⟩)
        | ok g => exact .inl ⟨g, rfl, (Geometry.of_ofSizes hsizes).2.2⟩

theorem baseAddress_of_geometryOf {g : Geometry} (h : geometryOf device none = .ok g) :
    g.baseAddress = baseOf device := by
  rcases geometryOf_cases device with ⟨g', hg, hbase⟩ | hslip | ⟨fault, hfault⟩
  · obtain rfl : g' = g := Except.ok.inj (hg.symm.trans h)
    exact hbase
  · cases hslip.symm.trans h
  · cases hfault.symm.trans h

theorem geometry?_of_ok {g : Geometry} (h : geometryOf device none = .ok g) :
    device.geometry? = some g := by
  rw [DeviceOptions.geometry?, h]
  rfl

theorem geometry?_of_error {failure : Failure} (h : geometryOf device none = .error failure) :
    device.geometry? = none := by
  rw [DeviceOptions.geometry?, h]
  rfl

theorem runOn_configuration_missing (hconfig : device.config = .missing)
    (buildDirectory : OptionValue Path) (w : World) :
    (configuration s device buildDirectory).runOn w = (.ok none, w) := by
  rw [configuration, hconfig]
  rfl

theorem runOn_geometryFor (hconfig : device.config = .missing) (w : World) :
    (geometryFor s device).runOn w =
      ((geometryOf device none).mapError Failure.worded, w) := by
  rw [geometryFor, Action.runOn_bind_ok (runOn_configuration_missing hconfig _ w)]
  cases geometryOf device none with
  | ok g => rfl
  | error failure => rfl

/-! ## The address -/

theorem baseOf_of_given {address : Int} (h : device.baseAddress = .given address) :
    baseOf device = some address := by
  rw [baseOf, h]
  rfl

theorem baseOf_of_missing (h : device.baseAddress = .missing) :
    baseOf device = some Geometry.defaultBase := by
  rw [baseOf, h]

theorem baseOf_of_empty (h : device.baseAddress = .empty) : baseOf device = none := by
  rw [baseOf, h]
  rfl

theorem isWritable_defaultBase : Numeral.isWritable Geometry.defaultBase = true := by
  have hshort : Numeral.isWritable ((0x20000000 : Nat) : Int) = true :=
    Image.isWritable_of_lt (by decide)
  exact hshort

/-- Lines cannot be shown where there is no address. -/
theorem unshowable_lines_iff {failure : Failure} :
    Unshowable device false failure ↔ baseOf device = none ∧ failure = .slip .nullValue := by
  constructor
  · rintro ⟨haddress⟩
    exact ⟨baseOf_of_empty haddress, rfl⟩
  · rintro ⟨hbase, rfl⟩
    cases haddress : device.baseAddress with
    | missing => simp [baseOf_of_missing haddress] at hbase
    | empty => exact .noAddress haddress
    | given address => simp [baseOf_of_given haddress] at hbase

/-- An object cannot be shown where it has an address that is too long. -/
theorem unshowable_object_iff {failure : Failure} :
    Unshowable device true failure ↔
      (device.baseAddress = .empty || (baseOf device).all Numeral.isWritable) = false ∧
        failure = .longNumber := by
  constructor
  · rintro (_ | ⟨haddress, hlong⟩)
    rw [baseOf_of_given haddress, haddress, Option.all_some, hlong]
    exact ⟨by simp, rfl⟩
  · rintro ⟨hlong, rfl⟩
    cases haddress : device.baseAddress with
    | missing =>
      rw [baseOf_of_missing haddress, Option.all_some, isWritable_defaultBase] at hlong
      simp at hlong
    | empty => simp [haddress] at hlong
    | given address =>
      rw [baseOf_of_given haddress, Option.all_some, haddress] at hlong
      exact .longAddress haddress (by simpa using hlong)

/-- A report is shown, or it cannot be. -/
def Shows (device : DeviceOptions) (json : Bool) (result : Except Failure ExitCode) : Prop :=
  (result = .ok .success ∧ ∀ failure, ¬ Unshowable device json failure) ∨
    ∃ failure, Unshowable device json failure ∧ result = .error failure

theorem Shows.eq_error {json : Bool} {result : Except Failure ExitCode} {failure : Failure}
    (h : Shows device json result) (hunshowable : Unshowable device json failure) :
    result = .error failure := by
  rcases h with ⟨-, hnone⟩ | ⟨other, hother, rfl⟩
  · exact absurd hunshowable (hnone failure)
  · cases json with
    | false =>
      rw [(unshowable_lines_iff.1 hother).2, (unshowable_lines_iff.1 hunshowable).2]
    | true =>
      rw [(unshowable_object_iff.1 hother).2, (unshowable_object_iff.1 hunshowable).2]

/-- Lines are shown if there is an address. -/
theorem shows_lines {result : Except Failure ExitCode}
    (h : result = match baseOf device with
      | some _ => .ok .success
      | none => .error (.slip .nullValue)) : Shows device false result := by
  rw [h]
  cases hbase : baseOf device with
  | none => exact .inr ⟨_, unshowable_lines_iff.2 ⟨hbase, rfl⟩, rfl⟩
  | some base =>
    refine .inl ⟨rfl, fun failure hbad => ?_⟩
    simp [(unshowable_lines_iff.1 hbad).1] at hbase

/-- An object is shown if the address in it can be written. -/
theorem shows_object {result : Except Failure ExitCode}
    (h : result = if device.baseAddress = .empty || (baseOf device).all Numeral.isWritable then
      .ok .success else .error .longNumber) : Shows device true result := by
  rw [h]
  split
  · next hshort =>
    refine .inl ⟨rfl, fun failure hbad => ?_⟩
    rw [(unshowable_object_iff.1 hbad).1] at hshort
    cases hshort
  · next hlong =>
    exact .inr ⟨_, unshowable_object_iff.2 ⟨Bool.eq_false_iff.2 hlong, rfl⟩, rfl⟩

end NorFlash.CommandLine
