import NorFlash.CommandLine.Program
import NorFlash.Proofs.Action
import NorFlash.Proofs.Fit
import NorFlash.Proofs.Image

/-!
# Showing reports

The sizes in a report on an artifact that fits are at most that of the device, so they can be
written if that one can (`isShort_of_fits`). This is so for a composed image, whose device fits into
memory. What may not be shown besides is the address: a configuration may leave a device without
one, and one of too many digits has no decimal form. `runOn_showMade` tells how a run ends that
shows the report on an image; it changes no file.
-/

namespace NorFlash.CommandLine

variable {options : MakeOptions} {device : DeviceOptions} {g : Geometry} {artifact : ByteArray}
  {image : Image}

/-! ## What can be shown -/

/-- Whether the report on an image for a device can be shown: lines show the address, so there must
be one, and an object shows its decimal form, which must not be too long. -/
def canShow (options : MakeOptions) (device : DeviceOptions) (g : Geometry) : Bool :=
  if options.json then device.baseAddress = .empty || g.baseAddress.all Numeral.isWritable
  else g.baseAddress.isSome

/-- How a run ends whose report is to be shown. -/
def shown (options : MakeOptions) (device : DeviceOptions) (g : Geometry) :
    Except Failure ExitCode :=
  if canShow options device g then .ok .success
  else .error (if options.json then .longNumber else .slip .nullValue)

/-- The numbers in a report but for the address are short enough to be written. -/
structure IsShort (r : Report) : Prop where
  /-- The size of the device. -/
  total : Numeral.isWritable r.totalSize = true
  /-- The size of a block. -/
  block : Numeral.isWritable r.blockSize = true
  /-- The size of the artifact. -/
  artifact : Numeral.isWritable r.artifactSize = true
  /-- The place of the metadata. -/
  offset : Numeral.isWritable r.metadataOffset = true
  /-- What is left between them. -/
  margin : Numeral.isWritable r.margin = true

theorem isWritable_of_le {a b : Nat} (h : a ≤ b) (hb : Numeral.isWritable b = true) :
    Numeral.isWritable a = true := by
  rw [Numeral.isWritable, decide_eq_true_eq, Int.natAbs_natCast] at hb ⊢
  exact Nat.lt_of_le_of_lt h hb

/-- The sizes in a report on an artifact that fits are at most that of the device. -/
theorem isShort_of_fits {size : Nat} (hfits : size ≤ g.metadataOffset)
    (hshort : Numeral.isWritable g.totalSize = true) (output : Option Path) :
    IsShort (Report.ofLayout (Layout.ofGeometry g) size output) := by
  have hblock := g.blockSize_le_totalSize
  have hoff := g.metadataOffset_add_blockSize
  have hmargin : ((g.metadataOffset : Int) - (size : Int)) =
      ((g.metadataOffset - size : Nat) : Int) := by omega
  refine ⟨hshort, isWritable_of_le hblock hshort, isWritable_of_le (by omega) hshort,
    isWritable_of_le (by omega) hshort, ?_⟩
  rw [Report.margin]
  simp only [Report.ofLayout, Layout.ofGeometry, Layout.metadataOffset, hmargin]
  exact isWritable_of_le (by omega) hshort

theorem isShort_of_compose (h : Image.compose (Layout.ofGeometry g) g artifact = .ok image)
    (output : Option Path) :
    IsShort (Report.ofLayout (Layout.ofGeometry g) image.artifactSize output) := by
  obtain ⟨hfits, -, hsize, -⟩ := Image.of_compose_eq_ok h
  rw [hsize]
  exact isShort_of_fits hfits (Image.isWritable_of_lt (Image.totalSize_lt_of_compose h)) output

/-- A report of short sizes has lines if the device has an address. -/
theorem lines_of_short {r : Report} (h : IsShort r) :
    r.lines = match r.baseAddress with
      | some base => .ok (r.linesAt base)
      | none => .error .noAddress := by
  simp only [Report.lines, List.all_cons, List.all_nil, h.total, h.block, h.artifact, h.offset,
    h.margin]
  cases r.baseAddress <;> rfl

/-- The address in the fields of a report. -/
theorem address_of_mem_fields {r : Report} {f : String × FieldValue} (hf : f ∈ r.fields)
    (hname : f.1 = Report.addressField) :
    f.2 = match r.baseAddress with | some a => .number a | none => .null := by
  simp only [Report.fields, List.mem_cons, List.not_mem_nil, or_false] at hf
  rcases hf with rfl | rfl | rfl | rfl | rfl | rfl | rfl | rfl
  case inr.inr.inr.inr.inr.inr.inl => rfl
  all_goals simp [Report.addressField] at hname

theorem address_mem_fields (r : Report) :
    (Report.addressField, match r.baseAddress with | some a => .number a | none => .null) ∈
      r.fields := by
  cases hbase : r.baseAddress with
  | none => simp [Report.fields, hbase]
  | some a => simp [Report.fields, hbase]

/-- Each field of a report of short sizes can be written but for the address. -/
theorem isWritable_of_mem_fields {r : Report} (h : IsShort r) {f : String × FieldValue}
    (hf : f ∈ r.fields) (hname : f.1 ≠ Report.addressField) : Fields.isWritable f.2 = true := by
  simp only [Report.fields, List.mem_cons, List.not_mem_nil, or_false] at hf
  rcases hf with rfl | rfl | rfl | rfl | rfl | rfl | rfl | rfl
  · exact h.total
  · exact h.block
  · exact h.artifact
  · exact h.offset
  · rfl
  · exact h.margin
  · exact absurd rfl hname
  · cases r.output <;> rfl

/-- All fields that are shown can be written if the address can, or if it is left empty. -/
theorem all_isWritable_fieldsFor {r : Report} (h : IsShort r) (device : DeviceOptions) :
    ((fieldsFor device r).all fun f => Fields.isWritable f.2) =
      (device.baseAddress = .empty || r.baseAddress.all Numeral.isWritable) := by
  have haddress : Fields.isWritable
      (match r.baseAddress with | some a => .number a | none => .null) =
        r.baseAddress.all Numeral.isWritable := by
    cases r.baseAddress with
    | none => rfl
    | some a => rw [Option.all_some, Fields.isWritable]
  rw [fieldsFor]
  by_cases hempty : device.baseAddress = .empty
  · rw [if_pos hempty, decide_eq_true hempty, Bool.true_or, List.all_map, List.all_eq_true]
    intro f hf
    dsimp only [Function.comp]
    split
    · rfl
    · next hname => exact isWritable_of_mem_fields h hf hname
  · rw [if_neg hempty, decide_eq_false hempty, Bool.false_or, Bool.eq_iff_iff, List.all_eq_true,
      ← haddress]
    constructor
    · intro hfields
      exact hfields _ (address_mem_fields _)
    · intro hbase f hf
      by_cases hname : f.1 = Report.addressField
      · rw [address_of_mem_fields hf hname]
        exact hbase
      · exact isWritable_of_mem_fields h hf hname

/-- The fields of a report of short sizes are written unless the address is too long. -/
theorem json?_of_short {r : Report} (h : IsShort r) (device : DeviceOptions) :
    (fieldsFor device r).json? =
      if device.baseAddress = .empty || r.baseAddress.all Numeral.isWritable then
        some (fieldsFor device r).objectText
      else none := by
  rw [Fields.json?, all_isWritable_fieldsFor h]

/-! ## Printing -/

theorem runOn_printAll (lines : List String) (w : World) :
    (printAll lines).runOn w = (.ok (), { w with printed := w.printed ++ lines }) := by
  induction lines generalizing w with
  | nil =>
    rw [List.append_nil]
    rfl
  | cons line lines ih =>
    have hfirst : (Action.print line).runOn w =
        (.ok (), { w with printed := w.printed ++ [line] }) := rfl
    have hrest := (Action.runOn_bind_ok hfirst fun _ => printAll lines).trans (ih _)
    rw [List.append_assoc] at hrest
    exact hrest

theorem runOn_print (line : String) (w : World) :
    (Action.print line).runOn w = (.ok (), { w with printed := w.printed ++ [line] }) := rfl

theorem runOn_printFields {fields : Fields} (w : World) :
    (printFields fields).runOn w =
      match fields.json? with
      | some text => (.ok (), { w with printed := w.printed ++ [text] })
      | none => (.error .longNumber, w) := by
  unfold printFields
  cases fields.json? with
  | some text => exact runOn_print text w
  | none => exact Action.runOn_throw w .longNumber

theorem runOn_printLog (log : TrialLog) (next : Bank) (w : World) :
    (printLog log next).runOn w =
      match log.lines? next with
      | some lines => (.ok (), { w with printed := w.printed ++ lines })
      | none => (.error .longNumber, w) := by
  unfold printLog
  cases log.lines? next with
  | some lines => exact runOn_printAll lines w
  | none => exact Action.runOn_throw w .longNumber

theorem runOn_printReport (r : Report) (w : World) :
    (printReport r).runOn w =
      match r.lines with
      | .ok lines => (.ok (), { w with printed := w.printed ++ lines })
      | .error .noAddress => (.error (.slip .nullValue), w)
      | .error .longNumber => (.error .longNumber, w) := by
  unfold printReport
  cases r.lines with
  | ok lines => exact runOn_printAll lines w
  | error gap => cases gap <;> rfl

/-- How the report on a composed image is shown. No file is changed. -/
theorem runOn_showMade (h : Image.compose (Layout.ofGeometry g) g artifact = .ok image)
    (options : MakeOptions) (device : DeviceOptions) (output : Option Path) (w : World) :
    let run := (showMade options device
      (Report.ofLayout (Layout.ofGeometry g) image.artifactSize output)).runOn w
    run.1 = shown options device g ∧ run.2.tree = w.tree := by
  dsimp only
  have hshort := isShort_of_compose h output
  have haddress : (Report.ofLayout (Layout.ofGeometry g) image.artifactSize output).baseAddress =
      g.baseAddress := rfl
  rw [showMade, shown, canShow]
  by_cases hjson : options.json = true
  · rw [if_pos hjson, if_pos hjson, if_pos hjson, Action.runOn_bind, runOn_printFields,
      json?_of_short hshort, haddress]
    by_cases hwritable :
        (device.baseAddress = .empty || g.baseAddress.all Numeral.isWritable) = true
    · rw [if_pos hwritable, if_pos hwritable]
      exact ⟨rfl, rfl⟩
    · rw [if_neg hwritable, if_neg hwritable]
      exact ⟨rfl, rfl⟩
  · rw [if_neg hjson, if_neg hjson, if_neg hjson, Action.runOn_bind, runOn_print]
    dsimp only
    rw [Action.runOn_bind, runOn_printReport, lines_of_short hshort, haddress]
    cases g.baseAddress with
    | none => exact ⟨rfl, rfl⟩
    | some base =>
      dsimp only
      split
      · rw [Action.runOn_bind, runOn_printAll]
        exact ⟨rfl, rfl⟩
      · exact ⟨rfl, rfl⟩

end NorFlash.CommandLine
