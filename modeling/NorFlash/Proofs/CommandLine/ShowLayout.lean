import NorFlash.Proofs.CommandLine.Expecting

/-!
# Showing a layout

How the command ends that shows the layout for an artifact of some size (`showLayout_settles`). A
size that has no place is bad data. A layout is planned before it is shown, so numbers that are too
long for the report end the run only after the plan was made.
-/

namespace NorFlash.CommandLine

variable {s : Setting} {device : DeviceOptions} {g : Geometry} {w : World}

/-- The report on a layout is shown, or it cannot be. -/
theorem shows_showPlanned (hgeometry : geometryOf device none = .ok g) {size : Nat}
    (hfits : size ≤ g.metadataOffset) (hshort : Numeral.isWritable g.totalSize = true)
    (json : Bool) (w : World) :
    Shows device json
      ((showPlanned json device (Layout.ofGeometry g, (size : Int))).runOn w).1 := by
  have hreport := isShort_of_fits hfits hshort none
  have hbase : (Report.ofLayout (Layout.ofGeometry g) size none).baseAddress = baseOf device :=
    baseAddress_of_geometryOf hgeometry
  cases json with
  | false =>
    refine shows_lines ?_
    rw [showPlanned]
    simp only [Bool.false_eq_true, if_false]
    rw [Action.runOn_bind, runOn_printReport, lines_of_short hreport, hbase]
    cases baseOf device <;> rfl
  | true =>
    refine shows_object ?_
    rw [showPlanned]
    simp only [if_true]
    rw [Action.runOn_bind, runOn_printFields, json?_of_short hreport, hbase]
    generalize (decide (device.baseAddress = .empty) || (baseOf device).all Numeral.isWritable) =
      short
    cases short <;> rfl

/-- A report on a device whose size is too long has neither lines nor an object. -/
theorem runOn_showPlanned_of_long (hlong : Numeral.isWritable g.totalSize = false) (size : Int)
    (json : Bool) (w : World) :
    ((showPlanned json device (Layout.ofGeometry g, size)).runOn w).1 = .error .longNumber := by
  cases json with
  | false =>
    have hlines : (Report.ofLayout (Layout.ofGeometry g) size none).lines = .error .longNumber := by
      rw [Report.lines, if_pos]
      simp [Report.ofLayout, Layout.ofGeometry, hlong]
    rw [showPlanned]
    simp only [Bool.false_eq_true, if_false]
    rw [Action.runOn_bind, runOn_printReport, hlines]
  | true =>
    have hfields : (fieldsFor device (Report.ofLayout (Layout.ofGeometry g) size none)).json? =
        none := by
      have htotal : ("total_size", .number g.totalSize) ∈
          fieldsFor device (Report.ofLayout (Layout.ofGeometry g) size none) := by
        rw [fieldsFor]
        split
        · exact List.mem_map.2 ⟨_, List.mem_cons_self, rfl⟩
        · exact List.mem_cons_self
      rw [Fields.json?, if_neg]
      rw [List.all_eq_true]
      intro hall
      have hshort := hall _ htotal
      simp only [Fields.isWritable, hlong, Bool.false_eq_true] at hshort
    rw [showPlanned]
    simp only [if_true]
    rw [Action.runOn_bind, runOn_printFields, hfields]

/-! ## Planning for a size -/

theorem runOn_planned (hconfig : device.config = .missing) (artifactSize : Option Int)
    (w : World) :
    (planned s artifactSize device).runOn w =
      match geometryOf device none, artifactSize with
      | .error failure, _ => (.error failure.worded, w)
      | .ok _, none => (.error (.slip .nullValue), w)
      | .ok g, some size =>
        match (planFor g size).runOn w with
        | (.ok layout, w') => (.ok (layout, size), w')
        | (.error failure, w') => (.error failure, w') := by
  have hfor := runOn_geometryFor (s := s) hconfig w
  rw [planned]
  cases hgeometry : geometryOf device none with
  | error failure =>
    rw [hgeometry] at hfor
    exact Action.runOn_bind_error hfor _
  | ok g =>
    rw [hgeometry] at hfor
    rw [Action.runOn_bind_ok hfor]
    cases artifactSize with
    | none => rfl
    | some size =>
      dsimp only
      rw [Action.runOn_bind]
      cases (planFor g size).runOn w with
      | mk result w' => cases result <;> rfl

variable {size : Int} {artifactSize : Option Int} {json : Bool}

/-- A command that has no layout to show ends on the failure to plan it. -/
theorem showLayout_of_error {failure : Failure}
    (h : (planned s artifactSize device).runOn w = (.error failure, w)) :
    ((showLayout s artifactSize json device).runOn w).1 = endOn [.data] .ofKind failure := by
  have hplanned : ((planned s artifactSize device).runOn w).1 = .error failure := by
    rw [h]
  rw [showLayout]
  exact (runOn_expecting_of_error hplanned _).1

/-- A command that plans a layout shows the report on it, whatever was noted before. -/
theorem showLayout_of_fits (hconfig : device.config = .missing)
    (hgeometry : geometryOf device none = .ok g) (hfits : 0 ≤ size ∧ size ≤ g.metadataOffset)
    (hshort : Numeral.isWritable size = true) (json : Bool) (w : World) :
    ∃ log, (showLayout s (some size) json device).runOn w =
      (showPlanned json device (Layout.ofGeometry g, size)).runOn { w with log := log } := by
  obtain ⟨log, hplan⟩ := runOn_planFor (plan_of_fits hfits) hshort w
  have hplanned : (planned s (some size) device).runOn w =
      (.ok (Layout.ofGeometry g, size), { w with log := log }) := by
    rw [runOn_planned hconfig, hgeometry]
    dsimp only
    rw [hplan]
  exact ⟨log, runOn_expecting_of_ok hplanned _⟩

theorem promisedToPlan_of_no_device {failure : Failure}
    (h : geometryOf device none = .error failure) :
    promisedToPlan device artifactSize = .dataError := by
  unfold promisedToPlan
  rw [geometry?_of_error h]

theorem promisedToPlan_of_device (h : geometryOf device none = .ok g) :
    promisedToPlan device (some size) =
      if 0 ≤ size ∧ size ≤ g.metadataOffset then .success else .dataError := by
  unfold promisedToPlan
  rw [geometry?_of_ok h]

/-- A hindrance tells how a command ends that shows a layout. -/
theorem showLayout_of_hindered (hconfig : device.config = .missing) {r : Except Failure ExitCode}
    (h : PlanHindered device artifactSize json r) (w : World) :
    ((showLayout s artifactSize json device).runOn w).1 = r := by
  have hplanned := runOn_planned (s := s) hconfig artifactSize w
  cases h with
  | noSize hslip =>
    rw [hslip] at hplanned
    exact showLayout_of_error hplanned
  | noArtifactSize hgeometry hempty =>
    rw [hgeometry, hempty] at hplanned
    rw [hempty]
    exact showLayout_of_error hplanned
  | longSize hgeometry hsize hfits hlong =>
    rw [hgeometry, hsize] at hplanned
    dsimp only at hplanned
    rw [runOn_planFor_of_long hfits hlong] at hplanned
    rw [hsize]
    exact showLayout_of_error hplanned
  | longDevice hgeometry hsize hfits hshort hlong =>
    obtain ⟨log, hrun⟩ := showLayout_of_fits (s := s) hconfig hgeometry hfits hshort json w
    rw [hsize, hrun, runOn_showPlanned_of_long hlong]
  | @unshown g size failure hgeometry hsize hfits hshort hunshowable =>
    obtain ⟨n, rfl⟩ := Int.eq_ofNat_of_zero_le hfits.1
    have hoff := g.metadataOffset_add_blockSize
    have hn : Numeral.isWritable n = true := isWritable_of_le (by omega) hshort
    obtain ⟨log, hrun⟩ := showLayout_of_fits (s := s) hconfig hgeometry hfits hn json w
    rw [hsize, hrun]
    exact (shows_showPlanned hgeometry (by omega) hshort json _).eq_error hunshowable

/-- Unless something stands in the way, a command that shows a layout ends as promised. -/
theorem showLayout_cases (hconfig : device.config = .missing) (artifactSize : Option Int)
    (json : Bool) (w : World) :
    ((showLayout s artifactSize json device).runOn w).1 =
        .ok (promisedToPlan device artifactSize) ∨
      ∃ r, PlanHindered device artifactSize json r := by
  have hplanned := runOn_planned (s := s) hconfig artifactSize w
  rcases geometryOf_cases device with ⟨g, hgeometry, -⟩ | hslip | ⟨fault, hfault⟩
  · cases artifactSize with
    | none => exact .inr ⟨_, .noArtifactSize hgeometry rfl⟩
    | some size =>
      by_cases hfits : 0 ≤ size ∧ size ≤ g.metadataOffset
      · rw [promisedToPlan_of_device hgeometry, if_pos hfits]
        cases hlength : Numeral.isWritable size with
        | false => exact .inr ⟨_, .longSize hgeometry rfl hfits hlength⟩
        | true =>
          cases hdevice : Numeral.isWritable g.totalSize with
          | false => exact .inr ⟨_, .longDevice hgeometry rfl hfits hlength hdevice⟩
          | true =>
            obtain ⟨n, rfl⟩ := Int.eq_ofNat_of_zero_le hfits.1
            obtain ⟨log, hrun⟩ :=
              showLayout_of_fits (s := s) hconfig hgeometry hfits hlength json w
            rw [hrun]
            have hle : n ≤ g.metadataOffset := by omega
            rcases shows_showPlanned hgeometry hle hdevice json { w with log := log } with
              ⟨hshown, -⟩ | ⟨failure, hunshowable, -⟩
            · exact .inl hshown
            · exact .inr ⟨_, .unshown hgeometry rfl hfits hdevice hunshowable⟩
      · obtain ⟨failure, hplan, hkind⟩ := runOn_planFor_of_not_fits hfits w
        rw [hgeometry] at hplanned
        dsimp only at hplanned
        rw [hplan] at hplanned
        refine .inl ((showLayout_of_error hplanned).trans ?_)
        rw [promisedToPlan_of_device hgeometry, if_neg hfits, endOn, hkind]
        rfl
  · exact .inr ⟨_, .noSize hslip⟩
  · rw [hfault] at hplanned
    refine .inl ((showLayout_of_error hplanned).trans ?_)
    rw [promisedToPlan_of_no_device hfault, endOn, Failure.kind_worded_of_data rfl]
    rfl

/-- **Showing a layout.** -/
theorem showLayout_settles (hconfig : device.config = .missing) (artifactSize : Option Int)
    (json : Bool) (w : World) :
    Settles (promisedToPlan device artifactSize) (PlanHindered device artifactSize json)
      ((showLayout s artifactSize json device).runOn w).1 := by
  refine settles_of_cases (fun r hr => showLayout_of_hindered hconfig hr w) (fun r hr => ?_)
    (showLayout_cases hconfig artifactSize json w)
  cases hr with
  | longSize hgeometry hsize hfits hlong =>
    rw [hsize, promisedToPlan_of_device hgeometry, if_pos hfits]
    simp
  | _ => simp

end NorFlash.CommandLine
