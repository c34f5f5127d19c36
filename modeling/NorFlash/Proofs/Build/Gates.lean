import NorFlash.Proofs.Build.Run

/-!
# The gates of a build

A build passes four gates: its command ends with zero, there is a linked program, the converter ends
with zero, and the binary can be read. `BuildStep.Gated` says what this means for the programs that
are run, for the bytes that are returned and for the artifact file that a failure names.

The gates do not catch everything. A null character in a path that programs are given, and a path
that the system refuses to look up, end a build with another failure (`BuildStep.IsHindered`).
-/

namespace NorFlash

/-- Programs refuse a null character only where there is one. -/
def Programs.IsOrderly (programs : Programs) : Prop :=
  ∀ loc words t, words.any Action.hasNull = false → (programs loc words t).1 ≠ .error .nullCharacter

namespace BuildStep

variable {s : Setting} {stage : BuildStage} {step : BuildStep} {binary : Path} {program : String}
  {rest : List String} {objcopy : String} {directory : Option WorkDirectory} {subject : Path}
  {t t' : FileTree} {ls : List Launch} {result : Except Failure ByteArray}

/-! ## What is promised -/

/-- The command was run well and left a linked program. -/
def IsBuilt (s : Setting) (step : BuildStep) (ls : List Launch) : Prop :=
  ∃ build ∈ ls.head?, build.ended = .ok 0 ∧ s.seesFile build.after step.result = .ok true

/-- A path is one that programs cannot be given, or one that cannot be looked up when its turn
comes. -/
inductive IsHindered (s : Setting) (step : BuildStep) (binary : Path) : List Launch → Prop
  /-- The directory has a null character. -/
  | directory {d : WorkDirectory} (given : d ∈ step.workDirectory)
      (null : Action.hasNull d.text = true) : IsHindered s step binary []
  /-- The linked program cannot be looked up. -/
  | result {build : Launch} {errno : Errno} (ended : build.ended = .ok 0)
      (look : s.seesFile build.after step.result = .error errno) :
      IsHindered s step binary [build]
  /-- The binary has a null character. -/
  | name {build : Launch} (built : IsBuilt s step [build])
      (null : Action.hasNull binary.render = true) : IsHindered s step binary [build]
  /-- The binary cannot be looked up. -/
  | binary {build convert : Launch} {errno : Errno} (ended : convert.ended = .ok 0)
      (look : s.seesFile convert.after binary = .error errno) :
      IsHindered s step binary [build, convert]

/-- The failure names the linked program until that is there, and the binary from then on. -/
def IsBlamed (s : Setting) (step : BuildStep) (binary : Path) (ls : List Launch)
    (result : Except Failure ByteArray) : Prop :=
  ∃ reason, (¬ IsBuilt s step ls ∧ result = .error (.missing step.result reason)) ∨
    (IsBuilt s step ls ∧ result = .error (.missing binary reason))

/-- What a build keeps to that ran some programs, ended with a result and left a tree. -/
structure Gated (s : Setting) (step : BuildStep) (binary : Path) (program : String)
    (rest : List String) (objcopy : String) (ls : List Launch) (result : Except Failure ByteArray)
    (t' : FileTree) : Prop where
  /-- The command is run first and then the converter, each of them once at most. -/
  order : ls.map (·.words) <+: [program :: rest, objcopy :: step.conversionWords binary]
  /-- The converter is run only after the command was run well and left a linked program. -/
  converted : ∀ build convert, ls = [build, convert] → IsBuilt s step ls
  /-- Bytes are those of a binary that is there once both programs were run well. -/
  returned : ∀ bytes, result = .ok bytes → ∃ build convert mode content, ls = [build, convert] ∧
    convert.ended = .ok 0 ∧ t'.status s.directory binary.render = .ok (.file mode content) ∧
    Provider.decode binary content = .ok bytes
  /-- Any other end is a missing artifact, unless a path stands in the way. -/
  blamed : ¬ IsHindered s step binary ls ↔
    (∃ bytes, result = .ok bytes) ∨ IsBlamed s step binary ls result
  /-- A path in the way ends the build with a failure of the system, or of a null character. -/
  hindered : IsHindered s step binary ls → ∃ fault, result = .error (.file fault)

/-! ## One program -/

/-- A stage that fails has met a null character, or its artifact file is missing: nothing was run,
or the program did not end with zero. -/
theorem StageRun.of_error {failure : Failure} (hprograms : s.programs.IsOrderly)
    (h : StageRun s stage program rest directory subject t ls (.error failure) t') :
    (IsSpoiled program rest directory ∧ ls = [] ∧ failure = .file .nullCharacter) ∨
      ¬ IsSpoiled program rest directory ∧ (∃ reason, failure = .missing subject reason) ∧
        (ls = [] ∨ ∃ l, ls = [l] ∧ l.words = program :: rest ∧ l.ended ≠ .ok 0) := by
  generalize hresult : (.error failure : Except Failure Unit) = result at h
  cases h with
  | spoiled hspoiled =>
    obtain rfl := Except.error.inj hresult
    exact .inl ⟨hspoiled, rfl, rfl⟩
  | nowhere hsound hstart =>
    obtain rfl := Except.error.inj hresult
    exact .inr ⟨hsound, ⟨_, rfl⟩, .inl rfl⟩
  | launched hsound hstart hrun =>
    next loc ended =>
    have hended : ended ≠ .ok 0 := by
      rintro rfl
      simp [stageEnd] at hresult
    refine .inr ⟨hsound, ?_, .inr ⟨_, rfl, rfl, hended⟩⟩
    cases ended with
    | error fault =>
      cases fault with
      | nullCharacter =>
        have horderly := hprograms loc _ t (not_isSpoiled_iff.1 hsound).1
        rw [hrun] at horderly
        exact absurd rfl horderly
      | program errno => exact ⟨_, Except.error.inj hresult⟩
    | ok status =>
      have hstatus : status ≠ 0 := fun hzero => hended (by rw [hzero])
      rw [stageEnd, if_pos hstatus] at hresult
      exact ⟨_, Except.error.inj hresult⟩

/-! ## The gates, by the programs that were run -/

theorem not_isBuilt_nil : ¬ IsBuilt s step [] := by
  simp [IsBuilt]

theorem isBuilt_cons_iff {build : Launch} :
    IsBuilt s step (build :: ls) ↔
      build.ended = .ok 0 ∧ s.seesFile build.after step.result = .ok true := by
  simp [IsBuilt]

theorem isHindered_nil_iff :
    IsHindered s step binary [] ↔ ∃ d ∈ step.workDirectory, Action.hasNull d.text = true := by
  constructor
  · rintro ⟨given, null⟩
    exact ⟨_, given, null⟩
  · rintro ⟨d, given, null⟩
    exact .directory given null

theorem isHindered_one_iff {build : Launch} :
    IsHindered s step binary [build] ↔
      (build.ended = .ok 0 ∧ ∃ errno, s.seesFile build.after step.result = .error errno) ∨
        (IsBuilt s step [build] ∧ Action.hasNull binary.render = true) := by
  constructor
  · intro h
    cases h with
    | result ended look => exact .inl ⟨ended, _, look⟩
    | name built null => exact .inr ⟨built, null⟩
  · rintro (⟨ended, errno, look⟩ | ⟨built, null⟩)
    · exact .result ended look
    · exact .name built null

theorem isHindered_two_iff {build convert : Launch} :
    IsHindered s step binary [build, convert] ↔
      convert.ended = .ok 0 ∧ ∃ errno, s.seesFile convert.after binary = .error errno := by
  constructor
  · intro h
    cases h with
    | binary ended look => exact ⟨ended, _, look⟩
  · rintro ⟨ended, errno, look⟩
    exact .binary ended look

section

variable (horder : ls.map (·.words) <+: [program :: rest, objcopy :: step.conversionWords binary])
  (hconverted : ∀ build convert, ls = [build, convert] → IsBuilt s step ls)

include horder hconverted

theorem Gated.of_file {fault : ReadFault} (h : IsHindered s step binary ls) :
    Gated s step binary program rest objcopy ls (.error (.file fault)) t' where
  order := horder
  converted := hconverted
  returned := by simp
  blamed := by simp [h, IsBlamed]
  hindered _ := ⟨fault, rfl⟩

theorem Gated.of_missing {failure : Failure} (h : ¬ IsHindered s step binary ls)
    (hblamed : IsBlamed s step binary ls (.error failure)) :
    Gated s step binary program rest objcopy ls (.error failure) t' where
  order := horder
  converted := hconverted
  returned := by simp
  blamed := by simp [h, hblamed]
  hindered hbad := absurd hbad h

end

section

variable {ls' : List Launch} {failure : Failure} {t₁ t₂ : FileTree}

/-- A command that fails leaves no linked program to look for. -/
theorem StageRun.gated_of_error (hprograms : s.programs.IsOrderly)
    (hcommand : (program :: rest).any Action.hasNull = false)
    (h : StageRun s .build program rest step.workDirectory step.result t ls (.error failure) t₁) :
    Gated s step binary program rest objcopy ls (.error failure) t' := by
  rcases h.of_error hprograms with ⟨hspoiled, rfl, rfl⟩ | ⟨hsound, ⟨reason, rfl⟩, hls⟩
  · have hdirectory : ∃ d ∈ step.workDirectory, Action.hasNull d.text = true := by
      by_contra hnone
      exact not_isSpoiled_iff.2 ⟨hcommand, by simpa using hnone⟩ hspoiled
    exact .of_file (by simp) (by simp) (isHindered_nil_iff.2 hdirectory)
  · rcases hls with rfl | ⟨l, rfl, hl, hended⟩
    · have hclear : ¬ IsHindered s step binary [] := by
        simpa [isHindered_nil_iff] using (not_isSpoiled_iff.1 hsound).2
      exact .of_missing (by simp) (by simp) hclear ⟨reason, .inl ⟨not_isBuilt_nil, rfl⟩⟩
    · have hnot : ¬ IsBuilt s step [l] := by simp [isBuilt_cons_iff, hended]
      exact .of_missing (by simp [hl]) (by simp) (by simp [isHindered_one_iff, hended, hnot])
        ⟨reason, .inl ⟨hnot, rfl⟩⟩

/-- Of the words that the converter is given after a linked program was found, only the binary can
have a null character. -/
theorem hasNull_binary_of_isSpoiled (hobjcopy : Action.hasNull objcopy = false)
    (look : s.seesFile t₁ step.result = .ok true)
    (hdirectory : ∀ d ∈ step.workDirectory, Action.hasNull d.text = false)
    (h : IsSpoiled objcopy (step.conversionWords binary) step.workDirectory) :
    Action.hasNull binary.render = true := by
  by_contra hnone
  refine not_isSpoiled_iff.2 ⟨?_, hdirectory⟩ h
  have hresult := (Setting.seesFile_eq_true_iff.1 look).1
  have hoption : Action.hasNull "-O" = false := by decide
  have hformat : Action.hasNull "binary" = false := by decide
  simp [conversionWords, hobjcopy, hresult, hoption, hformat, Bool.eq_false_iff.2 hnone]

section

variable {build : Launch} (hbuild : build.words = program :: rest) (hended : build.ended = .ok 0)
  (look : s.seesFile build.after step.result = .ok true)

include hbuild hended look

/-- A converter that fails leaves no binary to look for. -/
theorem StageRun.gated_of_conversion_error (hprograms : s.programs.IsOrderly)
    (hobjcopy : Action.hasNull objcopy = false)
    (hdirectory : ∀ d ∈ step.workDirectory, Action.hasNull d.text = false)
    (h : StageRun s .objcopy objcopy (step.conversionWords binary) step.workDirectory binary
      build.after ls' (.error failure) t₂) :
    Gated s step binary program rest objcopy (build :: ls') (.error failure) t' := by
  have hbuilt : ∀ rest', IsBuilt s step (build :: rest') := fun _ =>
    isBuilt_cons_iff.2 ⟨hended, look⟩
  rcases h.of_error hprograms with ⟨hspoiled, rfl, rfl⟩ | ⟨hclear, ⟨reason, rfl⟩, hls⟩
  · have hbinary := hasNull_binary_of_isSpoiled hobjcopy look hdirectory hspoiled
    exact .of_file (by simp [hbuild]) (by simp) (isHindered_one_iff.2 (.inr ⟨hbuilt [], hbinary⟩))
  · rcases hls with rfl | ⟨l, rfl, hl, hfailed⟩
    · have hbinary := hasNull_binary_of_not_isSpoiled hclear
      exact .of_missing (by simp [hbuild]) (by simp) (by simp [isHindered_one_iff, look, hbinary])
        ⟨reason, .inr ⟨hbuilt [], rfl⟩⟩
    · exact .of_missing (by simp [hbuild, hl]) (by simp [hbuilt])
        (by simp [isHindered_two_iff, hfailed]) ⟨reason, .inr ⟨hbuilt [l], rfl⟩⟩

/-- After both programs were run well, the end is that of reading the binary. -/
theorem gated_of_reading {convert : Launch}
    (hconvert : convert.words = objcopy :: step.conversionWords binary)
    (hconverted : convert.ended = .ok 0) (h : Provider.Reading s convert.after binary result) :
    Gated s step binary program rest objcopy [build, convert] result convert.after := by
  have hbuilt : IsBuilt s step [build, convert] := isBuilt_cons_iff.2 ⟨hended, look⟩
  have horder : [build, convert].map (·.words) <+:
      [program :: rest, objcopy :: step.conversionWords binary] := by
    simp [hbuild, hconvert]
  cases h with
  | refused hrefused =>
    exact .of_file horder (fun _ _ _ => hbuilt) (isHindered_two_iff.2 ⟨hconverted, _, hrefused⟩)
  | absent habsent =>
    exact .of_missing horder (fun _ _ _ => hbuilt) (by simp [isHindered_two_iff, habsent])
      ⟨_, .inr ⟨hbuilt, rfl⟩⟩
  | found hnull hfile =>
    have hclear : s.seesFile convert.after binary = .ok true :=
      Setting.seesFile_eq_true_iff.2 ⟨hnull, _, _, hfile⟩
    have hnot : ¬ IsHindered s step binary [build, convert] := by
      simp [isHindered_two_iff, hclear]
    cases hdecode : Provider.decode binary _ with
    | error fault =>
      exact .of_missing horder (fun _ _ _ => hbuilt) hnot ⟨_, .inr ⟨hbuilt, rfl⟩⟩
    | ok bytes =>
      exact
        { order := horder
          converted := fun _ _ _ => hbuilt
          returned := by
            intro other hother
            obtain rfl : bytes = other := Except.ok.inj hother
            exact ⟨_, _, _, _, rfl, hconverted, hfile, hdecode⟩
          blamed := by simp [hnot, Except.mapError]
          hindered := fun hbad => absurd hbad hnot }

end

end

/-- **A build passes its gates one after the other.** -/
theorem BuildRun.gated (hprograms : s.programs.IsOrderly)
    (hwords : (objcopy :: program :: rest).any Action.hasNull = false)
    (h : BuildRun s step binary program rest objcopy t ls result t') :
    Gated s step binary program rest objcopy ls result t' := by
  rw [List.any_cons, Bool.or_eq_false_iff] at hwords
  obtain ⟨hobjcopy, hcommand⟩ := hwords
  cases h with
  | failed build => exact build.gated_of_error hprograms hcommand
  | refused build look =>
    obtain ⟨loc, -, -, -, rfl⟩ := build.of_ok
    exact .of_file (by simp) (by simp) (isHindered_one_iff.2 (.inl ⟨rfl, _, look⟩))
  | noResult build look =>
    obtain ⟨loc, -, -, -, rfl⟩ := build.of_ok
    have hnot : ¬ IsBuilt s step [⟨loc, program :: rest, t, .ok 0, t'⟩] := by
      simp [isBuilt_cons_iff, look]
    exact .of_missing (by simp) (by simp) (by simp [isHindered_one_iff, look, hnot])
      ⟨_, .inl ⟨hnot, rfl⟩⟩
  | notConverted build look convert =>
    obtain ⟨loc, hsound, -, -, rfl⟩ := build.of_ok
    exact convert.gated_of_conversion_error rfl rfl look hprograms hobjcopy
      (not_isSpoiled_iff.1 hsound).2
  | converted build look convert read =>
    obtain ⟨loc, -, -, -, rfl⟩ := build.of_ok
    obtain ⟨loc', -, -, -, rfl⟩ := convert.of_ok
    exact gated_of_reading rfl rfl look rfl rfl read

end BuildStep

end NorFlash
