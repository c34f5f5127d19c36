import NorFlash.Proofs.ImageFile.Records

/-!
# When a check answers

`Image.check` ends with a yes or a no for every path and every tree, on each device that a memory
holds (`Image.check_answers`). The reading of an image changes nothing and fails in expected ways
only, but for records that fill a device that is larger than any memory (`expected_of_read`). The
judgement of its metadata could slip only where the part after the log ends within a word, and the
scan of a block leaves no such part (`checkMetadata_expected`).
-/

namespace NorFlash.Image

open TrialLog (wordSize)

variable {s : Setting} {path : Path} {g : Geometry} {w : World}

/-! ## Expected failures -/

/-- A failure that the program is written for. -/
def Expected (failure : Failure) : Prop :=
  failure.kind ≠ .slip

theorem expected_file (fault : ReadFault) : Expected (.file fault) := by
  cases fault <;> simp [Expected, Failure.kind]

theorem expected_of_ofBytes {data : ByteArray} {fault : ImageFault}
    (h : ofBytes data g = .error fault) : Expected (Failure.ofImage fault) := by
  rw [ofBytes] at h
  split at h
  · obtain rfl := Except.error.inj h
    simp [Expected, Failure.ofImage, Failure.kind]
  · cases h

theorem readsFiles_read (s : Setting) (path : Path) (g : Geometry) : Action.ReadsFiles (read s path g) :=
  (Action.readsFiles_readFile s path).bind fun _ =>
    (Action.readsFiles_ofExcept _ _).bind fun _ => Action.readsFiles_ofExcept _ _

/-- All failures to read an image are expected but the lack of memory. -/
theorem expected_of_read {failure : Failure} {w' : World} (hroom : ¬ LacksMemory s w.tree path g)
    (h : (read s path g).runOn w = (.error failure, w')) : Expected failure := by
  rw [read, Action.runOn_bind] at h
  cases hfile : (Action.readFile s path).runOn w with
  | mk result w₁ =>
    cases result with
    | error fault =>
      rw [hfile] at h
      obtain ⟨hfault, -⟩ := Prod.ext_iff.1 h
      exact Except.error.inj hfault ▸ Action.failsBy_readFile s path expected_file w fault w₁ hfile
    | ok content =>
      obtain ⟨hnull, mode, hstatus⟩ := of_runOn_readFile (congrArg Prod.fst hfile)
      have hread := FileTree.read_eq_ok_iff.2 ⟨mode, hstatus⟩
      have hdecoded : Action.FailsBy Expected (Action.ofExcept id (decode path g content)) :=
        Action.failsBy_ofExcept fun fault hfault => Failure.kind_worded_ne_slip <|
          kind_of_decode_error hfault fun hbeyond => hroom ⟨hnull, content, hread, hbeyond⟩
      have himage : ∀ data, Action.FailsBy Expected
          (Action.ofExcept Failure.ofImage (ofBytes data g)) := fun data =>
        Action.failsBy_ofExcept fun fault hfault =>
          Failure.kind_worded_ne_slip (expected_of_ofBytes hfault)
      rw [hfile] at h
      exact (hdecoded.bind himage) w₁ failure w' h

theorem checkMetadata_expected {i : Image} {failure : Failure}
    (h : i.checkMetadata = .error failure) : Expected failure := by
  rw [checkMetadata_eq] at h
  split at h
  · cases h
  · obtain rfl := Except.error.inj h
    simp [Expected, Failure.kind]

/-! ## The answer -/

/-- An image file is fit for use: its image can be read, and the metadata of the image passes. -/
def Fit (s : Setting) (path : Path) (g : Geometry) (w : World) : Prop :=
  ∃ i, (read s path g).runOn w = (.ok i, w) ∧ i.checkMetadata = .ok ()

/-- A fit file is noted, and nothing else is changed; another one fails in an expected way before
anything is noted, unless memory lacks. -/
theorem runOn_examine_cases (hroom : ¬ LacksMemory s w.tree path g) :
    (Fit s path g w ∧ ∃ message, (examine s path g).runOn w =
        (.ok (), { w with log := w.log ++ [⟨.info, message⟩] })) ∨
      (¬ Fit s path g w ∧ ∃ failure, (examine s path g).runOn w = (.error failure, w) ∧
        Expected failure) := by
  have hread := (readsFiles_read s path g).runOn w
  cases hresult : ((read s path g).runOn w).1 with
  | ok i =>
    rw [hresult] at hread
    cases hmeta : i.checkMetadata with
    | ok _ =>
      refine .inl ⟨⟨i, hread, hmeta⟩, ?_⟩
      rw [examine, Action.runOn_bind_ok hread, hmeta,
        Action.runOn_bind_ok (Action.runOn_ofExcept_ok w id ())]
      exact ⟨_, rfl⟩
    | error failure =>
      have hexpected := Failure.kind_worded_ne_slip (checkMetadata_expected hmeta)
      refine .inr ⟨?_, failure.worded, ?_, hexpected⟩
      · rintro ⟨j, hj, hpass⟩
        obtain rfl : i = j := Except.ok.inj (Prod.ext_iff.1 (hread.symm.trans hj)).1
        rw [hmeta] at hpass
        cases hpass
      · rw [examine, Action.runOn_bind_ok hread, hmeta,
          Action.runOn_bind_error (Action.runOn_ofExcept_error w id failure)]
        rfl
  | error failure =>
    rw [hresult] at hread
    refine .inr ⟨?_, failure, Action.runOn_bind_error hread _, expected_of_read hroom hread⟩
    rintro ⟨i, hi, -⟩
    rw [hread] at hi
    cases (Prod.ext_iff.1 hi).1

/-- **When a check answers.** For every setting, path, device and world a check ends with an answer
and adds one record to the log: a result where the file is fit for use, and the reason why it is not
otherwise, which words the failure that the examination ended with. Only where the file holds
records with data, all of it on a device that is larger than any memory, there is no answer: the run
ends with the lack of memory and notes nothing. The judgement of a log has an answer for every
block, whether or not the block is made of whole words, because the part of it after its own log
is. -/
theorem check_answers (s : Setting) (path : Path) (g : Geometry) (w : World) :
    (¬ LacksMemory s w.tree path g → ∃ accepted record,
      (check s path g).runOn w = (.ok accepted, { w with log := w.log ++ [record] }) ∧
      (accepted = true ↔ Fit s path g w) ∧
      record.level = (if accepted then .info else .error) ∧
      ∀ failure w', (examine s path g).runOn w = (.error failure, w') →
        accepted = false ∧ record.message = "Exception: " ++ failure.message) ∧
    (LacksMemory s w.tree path g →
      (check s path g).runOn w = (.error (.slip .noMemory), w)) ∧
    ∀ block : ByteArray,
      ((TrialLog.scan block).tail block).size % wordSize = 0 ∧
        ∃ verdict, (TrialLog.scan block).isConsistent? block = some verdict := by
  refine ⟨fun hroom => ?answer, fun hlacks => ?slip, fun block =>
    ⟨TrialLog.size_tail_scan_mod block, _, TrialLog.isConsistent?_scan block⟩⟩
  case answer =>
    rcases runOn_examine_cases hroom with ⟨hfit, message, hrun⟩ | ⟨hunfit, failure, hrun, hexp⟩
    · refine ⟨true, ⟨.info, message⟩, ?_, by simpa using hfit, rfl, fun failure w' h => ?_⟩
      · rw [runOn_check, hrun]
      · rw [hrun] at h
        cases (Prod.ext_iff.1 h).1
    · refine ⟨false, ⟨.error, "Exception: " ++ failure.message⟩, ?_, by simpa using hunfit, rfl,
        fun failure' w' h => ⟨rfl, ?_⟩⟩
      · rw [runOn_check, hrun]
        simp only [if_neg hexp]
      · rw [hrun] at h
        rw [Except.error.inj (Prod.ext_iff.1 h).1]
  case slip =>
    rw [runOn_check, examine, Action.runOn_bind_error (runOn_read_of_lacksMemory hlacks)]
    exact if_pos rfl

/-! ## A device that no memory holds -/

/-- One byte at the start of the device. -/
def oneByteText : String :=
  ":0100000001FE\n:00000001FF\n"

/-- That byte has its place on a device of more bytes than any memory has. -/
theorem lacksMemory_oneByte :
    LacksMemory .atRoot (recordsTree oneByteText) (Path.ofString "x.hex") hugeDevice where
  text := by decide
  file := by
    obtain ⟨memory, hmemory, hlow, hhigh⟩ := exists_memory_of_keys [0]
      (show (IntelHex.Memory.ofFile oneByteText.toUTF8).toOption.map (·.keys) = some [0] by
        decide +kernel)
    exact ⟨_, FileTree.read_eq_ok_iff.2 ⟨_, status_recordsTree oneByteText⟩, by decide,
      ⟨memory, 0, 0, hmemory, hlow, hhigh, by decide⟩, by decide⟩

/-- A check of one byte on that device ends without an answer and notes nothing. -/
theorem check_unanswered :
    let w := World.ofTree (recordsTree oneByteText)
    (check .atRoot (Path.ofString "x.hex") hugeDevice).runOn w = (.error (.slip .noMemory), w) ∧
      ¬ ∃ accepted log, (check .atRoot (Path.ofString "x.hex") hugeDevice).runOn w =
        (.ok accepted, { w with log := log }) := by
  intro w
  have hrun : (check .atRoot (Path.ofString "x.hex") hugeDevice).runOn w =
      (.error (.slip .noMemory), w) := by
    rw [runOn_check, examine,
      Action.runOn_bind_error (runOn_read_of_lacksMemory (w := w) lacksMemory_oneByte)]
    exact if_pos rfl
  refine ⟨hrun, ?_⟩
  rintro ⟨accepted, log, hanswer⟩
  cases (Prod.ext_iff.1 (hrun.symm.trans hanswer)).1

end NorFlash.Image
