import NorFlash.Proofs.CommandLine.ComposeImage
import NorFlash.Proofs.CommandLine.LookAtImage
import NorFlash.Proofs.CommandLine.ShowLayout

/-!
# Exit codes

A command line without a configuration ends with the exit code that it is promised exactly if
nothing stands in the way, and otherwise as the hindrance tells (`run_exit_code`). No configuration
is read, so all paths that a command follows stand on the command line or are defaults, and no null
character is in them.
-/

namespace NorFlash.CommandLine

open FileTree

variable {s : Setting} {device : DeviceOptions} {options : MakeOptions} {w : World}

/-! ## Paths without null characters -/

theorem isPlain_of_isReadFrom {path : Path} (h : IsReadFrom (· ≠ '\x00') path) : path.IsPlain := by
  obtain ⟨text, htext, rfl⟩ := h
  intro name hname hnull
  exact htext _ (Path.mem_of_mem_names hname hnull) rfl

/-- The paths that a command line names hold no null character if the command line holds none. -/
theorem isPlain_of_parse {words : List String} {verbosity : Nat} {command : Command}
    (hwords : ∀ word ∈ words, '\x00' ∉ word.toList)
    (hparse : Arguments.parse words = .ok ⟨verbosity, some (command, device)⟩) :
    ∀ path ∈ command.named, path.IsPlain := by
  have hmade : ∀ word ∈ words, MadeOf (· ≠ '\x00') word :=
    fun word hword c hc hnull => hwords word hword (hnull ▸ hc)
  exact fun path hpath =>
    isPlain_of_isReadFrom (Arguments.isReadFrom_of_parse hmade hparse path hpath)

/-- So do the paths that a command reads from and writes to. -/
theorem isPlain_source (hnamed : ∀ path ∈ (Command.makeImage options).named, path.IsPlain)
    {path : Path} (h : options.source? = some path) : path.IsPlain := by
  rw [MakeOptions.source?] at h
  split at h
  · obtain rfl := Option.some.inj h
    exact Path.isPlain_iff.2 (by decide)
  · next given hartifact =>
    obtain rfl := Option.some.inj h
    refine hnamed given (List.mem_append_right _ ?_)
    rw [hartifact]
    exact List.mem_singleton_self _
  · cases h

theorem isPlain_output (hnamed : ∀ path ∈ (Command.makeImage options).named, path.IsPlain) :
    (outputOf options none).IsPlain := by
  rw [outputOf, Option.bind_none, Option.or_none]
  cases houtput : options.output with
  | some path =>
    refine hnamed path (List.mem_append_left _ ?_)
    rw [houtput]
    exact List.mem_singleton_self _
  | none =>
    rw [Option.getD_none]
    split
    · exact Path.isPlain_iff.2 (by decide)
    · exact Path.isPlain_iff.2 (by decide)

/-! ## Runs of the program -/

theorem runOn_filterLog {α : Type} (count : Nat) (a : Action α) (w : World) :
    let inner := a.runOn { w with log := [] }
    ∃ log, (Program.filterLog count a).runOn w = (inner.1, { inner.2 with log := log }) := ⟨_, rfl⟩

/-- The program runs the command on an empty log and keeps all of the run but what it notes. -/
theorem runOn_run_command {words : List String} {verbosity : Nat} {command : Command}
    (hparse : Arguments.parse words = .ok ⟨verbosity, some (command, device)⟩) (w : World) :
    let inner := (command.run s device).runOn { w with log := [] }
    ∃ log, (Program.run s words).runOn w =
      (inner.1.map .exit, { inner.2 with log := log }) := by
  dsimp only
  obtain ⟨log, hfilter⟩ := runOn_filterLog verbosity (command.run s device) w
  rw [Program.run, hparse]
  dsimp only
  rw [Program.runArguments, Action.runOn_bind, hfilter]
  cases (command.run s device).runOn { w with log := [] } with
  | mk result w' =>
    cases result with
    | ok code => exact ⟨log, rfl⟩
    | error failure => exact ⟨log, rfl⟩

/-- The program ends as the command does, and leaves the files that it leaves. -/
theorem runOn_run {words : List String} {verbosity : Nat} {command : Command}
    (hparse : Arguments.parse words = .ok ⟨verbosity, some (command, device)⟩) (w : World) :
    let run := (Program.run s words).runOn w
    let inner := (command.run s device).runOn { w with log := [] }
    run.1 = inner.1.map .exit ∧ run.2.tree = inner.2.tree := by
  obtain ⟨log, hrun⟩ := runOn_run_command (s := s) hparse w
  dsimp only
  rw [hrun]
  exact ⟨rfl, rfl⟩

/-- Without a command there is a hint how to use the program. -/
theorem runOn_run_of_none {words : List String} {verbosity : Nat}
    (hparse : Arguments.parse words = .ok ⟨verbosity, none⟩) (w : World) :
    ((Program.run s words).runOn w).1 = .ok (.exit .usage) := by
  rw [Program.run, hparse]
  rfl

/-- A command whose paths hold no null character settles its promise. -/
theorem command_settles {command : Command} (hconfig : device.config = .missing)
    (hnamed : ∀ path ∈ command.named, path.IsPlain)
    (houtput : ∀ options, command = .makeImage options → HasProperOutput options)
    (hdirectory : ∀ name ∈ s.directory, '\x00' ∉ name.toList)
    (hhex : ∀ options, command = .makeImage options → options.hex = true →
      ∀ artifact, options.artifact? s w.tree = some artifact → artifact.size ≤ 0x100000000) :
    let run := (command.run s device).runOn w
    Settles (command.promised s w.tree device)
      (command.Hindered s w.tree run.2.tree device) run.1 := by
  cases command with
  | makeImage options =>
    exact makeImage_settles hconfig (fun path => isPlain_source hnamed)
      (isProper_outputOf (houtput options rfl) (by simp)) (isPlain_output hnamed) hdirectory w
      (hhex options rfl)
  | showLayout artifactSize json => exact showLayout_settles hconfig artifactSize json w
  | checkImage image =>
    exact checkImage_settles hconfig (hnamed image (List.mem_singleton_self _)) w
  | showTrials image maxTrials json =>
    exact showTrials_settles hconfig (hnamed image (List.mem_singleton_self _)) maxTrials json w

theorem map_exit_eq_iff {result : Except Failure ExitCode} {code : ExitCode} :
    result.map Ending.exit = .ok (.exit code) ↔ result = .ok code := by
  cases result with
  | ok found => simp [Except.map]
  | error failure => simp [Except.map]

/-- **Exit codes.** A command line that is read, names no configuration and holds no null character
ends with the exit code that it is promised exactly if nothing stands in the way, and otherwise as
that tells: with a failure or with another code. With records asked for, this is so for artifacts
that have 32-bit addresses. -/
theorem run_exit_code (s : Setting) (w : World) {words : List String} {args : Arguments}
    (hparse : Arguments.parse words = .ok args)
    (hconfig : ∀ command device, args.command = some (command, device) → device.config = .missing)
    (hwords : ∀ word ∈ words, '\x00' ∉ word.toList)
    (hdirectory : ∀ name ∈ s.directory, '\x00' ∉ name.toList)
    (hhex : ∀ options device, args.command = some (.makeImage options, device) →
      options.hex = true → ∀ artifact, options.artifact? s w.tree = some artifact →
        artifact.size ≤ 0x100000000) :
    let run := (Program.run s words).runOn w
    (run.1 = .ok (.exit (args.promised s w.tree)) ↔
      ∀ r, ¬ args.Hindered s w.tree run.2.tree r) ∧
    ∀ r, args.Hindered s w.tree run.2.tree r → run.1 = r.map .exit := by
  obtain ⟨verbosity, called⟩ := args
  cases called with
  | none =>
    have hrun := runOn_run_of_none (s := s) hparse w
    have hfree : ∀ r, ¬ Arguments.Hindered s w.tree ((Program.run s words).runOn w).2.tree
        ⟨verbosity, none⟩ r := by
      rintro r ⟨command, device, hcommand, -⟩
      cases hcommand
    exact ⟨⟨fun _ => hfree, fun _ => hrun⟩, fun r hr => absurd hr (hfree r)⟩
  | some called =>
    obtain ⟨command, device⟩ := called
    obtain ⟨hresult, htree⟩ := runOn_run (s := s) hparse w
    have hnamed := isPlain_of_parse hwords hparse
    obtain ⟨hkept, hends⟩ := command_settles (w := { w with log := [] })
      (hconfig command device rfl) hnamed (fun options hcommand =>
        Arguments.hasProperOutput_of_parse (hcommand ▸ hparse)) hdirectory fun options hcommand =>
          hhex options device (by rw [hcommand])
    have hiff : ∀ r, Arguments.Hindered s w.tree ((Program.run s words).runOn w).2.tree
        ⟨verbosity, some (command, device)⟩ r ↔
          command.Hindered s w.tree ((Program.run s words).runOn w).2.tree device r := by
      intro r
      constructor
      · rintro ⟨_, _, hcommand, hr⟩
        obtain ⟨rfl, rfl⟩ := Prod.ext_iff.1 (Option.some.inj hcommand)
        exact hr
      · exact fun hr => ⟨command, device, rfl, hr⟩
    dsimp only
    simp only [hiff]
    rw [hresult, htree, map_exit_eq_iff]
    exact ⟨hkept, fun r hr => congrArg _ (hends r hr)⟩

/-! ## A device of four blocks -/

/-- The sizes of four blocks of sixteen bytes are given, and nothing else. -/
def smallOptions : DeviceOptions :=
  ⟨.missing, .given 64, .given 16, .missing⟩

theorem geometryOf_smallOptions : geometryOf smallOptions none = .ok smallDevice := rfl

theorem not_unshowable_smallOptions (json : Bool) (failure : Failure) :
    ¬ Unshowable smallOptions json failure := by
  rintro (⟨haddress⟩ | ⟨haddress, -⟩)
  · cases haddress
  · cases haddress

/-- Two bytes fit on the device. -/
theorem fits_smallOptions :
    Fits .atRoot addresslessTree smallOptions (addresslessOptions false) smallDevice ⟨#[1, 2]⟩ where
  geometry := geometryOf_smallOptions
  unbuilt := rfl
  found := by
    have hartifact : artifactAt? .atRoot addresslessTree (Path.ofString "a.bin") =
        some ⟨#[1, 2]⟩ := by
      rw [artifactAt?, FileTree.read, status_artifact_addressless]
      rfl
    exact hartifact
  size_le := by decide

theorem placeable_smallOptions :
    placeable .atRoot addresslessTree (Path.ofString "o.img") = true := by
  cases hplaceable : placeable .atRoot addresslessTree (Path.ofString "o.img") with
  | true => rfl
  | false =>
    obtain ⟨w', hrun⟩ := exists_runOn_persist_addressless ByteArray.empty []
    obtain ⟨failure, hfail, -⟩ : ∃ failure,
        ((persist .atRoot ByteArray.empty (Path.ofString "o.img")).runOn
          (.ofTree addresslessTree)).1 = .error failure ∧ IsSystemFailure failure :=
      runOn_persist_of_not_placeable (Path.isProper_ofString _) (Path.isPlain_iff.2 (by decide))
        (fun _ hname => absurd hname List.not_mem_nil) hplaceable
    cases (congrArg Prod.fst hrun).symm.trans hfail

/-- Nothing stands in the way of an image of two bytes, whatever files are there after it. -/
theorem not_hindered_smallOptions (after : FileTree) (r : Except Failure ExitCode) :
    ¬ MakeHindered .atRoot addresslessTree after smallOptions (addresslessOptions false) r := by
  have hdevice : ∀ {g}, geometryOf smallOptions none = .ok g → g = smallDevice :=
    fun h => (Except.ok.inj (geometryOf_smallOptions.symm.trans h)).symm
  have hfound : ∀ {g artifact}, Fits .atRoot addresslessTree smallOptions (addresslessOptions false)
      g artifact → artifact = ⟨#[1, 2]⟩ :=
    fun h => Option.some.inj (h.found.symm.trans fits_smallOptions.found)
  rintro (hslip | ⟨-, hempty⟩ | ⟨-, -, hpath, hstatus, -⟩ | ⟨hfits, hlong⟩ | ⟨hfits, -, hlarge⟩ |
    ⟨-, -, -, hparent⟩ | ⟨-, -, -, -, hunshowable⟩)
  · cases hslip
  · cases hempty
  · obtain rfl := Option.some.inj hpath
    cases status_artifact_addressless.symm.trans hstatus
  · obtain rfl := hfound hfits
    have hshort : Numeral.isWritable ((2 : Nat) : Int) = true :=
      Image.isWritable_of_lt (by decide)
    cases hlong.symm.trans hshort
  · obtain rfl := hdevice hfits.geometry
    exact absurd hlarge (by decide)
  · have hhere : after.status [] "." = .ok (.directory directoryMode) :=
      status_eq_ok_iff.2 ⟨_, locate_here after true, rfl⟩
    cases hhere.symm.trans hparent
  · exact not_unshowable_smallOptions _ _ hunshowable

/-- An image of two bytes is made, and its report is shown. -/
theorem run_exit_code_small :
    let words := ["mkimg", "--flash-size", "64", "--block-size", "16", "-a", "a.bin", "o.img"]
    let args : Arguments := ⟨0, some (.makeImage (addresslessOptions false), smallOptions)⟩
    let w := World.ofTree addresslessTree
    Arguments.parse words = .ok args ∧ args.promised .atRoot w.tree = .success ∧
      ((Program.run .atRoot words).runOn w).1 = .ok (.exit .success) := by
  intro words args w
  have hparse : Arguments.parse words = .ok args := by decide +kernel
  have hpromised : args.promised .atRoot w.tree = .success :=
    (promisedToMake_of_fits fits_smallOptions).trans (if_pos placeable_smallOptions)
  obtain ⟨hkept, -⟩ := run_exit_code .atRoot w hparse
    (by rintro _ _ hcommand; obtain ⟨-, rfl⟩ := Prod.ext_iff.1 (Option.some.inj hcommand); rfl)
    (by decide) (fun _ hname => absurd hname List.not_mem_nil)
    (by
      rintro _ _ hcommand hhex
      obtain ⟨hmake, -⟩ := Prod.ext_iff.1 (Option.some.inj hcommand)
      obtain rfl := Command.makeImage.inj hmake
      cases hhex)
  rw [hpromised] at hkept
  refine ⟨hparse, hpromised, hkept.2 ?_⟩
  rintro r ⟨command, device, hcommand, hr⟩
  obtain ⟨rfl, rfl⟩ := Prod.ext_iff.1 (Option.some.inj hcommand)
  exact not_hindered_smallOptions _ r hr

/-- A file of records that are none but the end record. -/
def blankTree : FileTree :=
  ⟨[(["x.hex"], .file outputMode ":00000001FF\n".toUTF8)]⟩

theorem leadsToNoData_blankTree :
    leadsToNoData .atRoot blankTree (Path.ofString "x.hex") = true := by
  have htext : (Path.ofString "x.hex").render = "x.hex" := by decide
  have hfile : blankTree.status Setting.atRoot.directory (Path.ofString "x.hex").render =
      .ok (.file outputMode ":00000001FF\n".toUTF8) := by
    rw [htext]
    exact status_eq_ok_iff.2
      ⟨_, locate_root ⟨by decide, by decide, by decide⟩ (by decide) rfl (by simp), rfl⟩
  rw [leadsToNoData, FileTree.read, hfile]
  decide +kernel

/-- The sizes of two blocks of half as many bytes as the largest index has. -/
def hugeOptions : DeviceOptions :=
  ⟨.missing, .given 0x10000000000000000, .given 0x8000000000000000, .missing⟩

theorem geometryOf_hugeOptions : geometryOf hugeOptions none = .ok hugeDevice := rfl

/-- Two bytes fit on that device too. -/
theorem fits_hugeOptions :
    Fits .atRoot addresslessTree hugeOptions (addresslessOptions false) hugeDevice ⟨#[1, 2]⟩ where
  geometry := geometryOf_hugeOptions
  unbuilt := rfl
  found := fits_smallOptions.found
  size_le := by decide

/-- An image of two bytes on a device that is larger than any memory ends with a failure instead of
an exit code, and so does the check of one byte on that device; and a check refuses records without
data, which describe an erased device. -/
theorem run_not_as_promised :
    (let words := ["mkimg", "--flash-size", "0x10000000000000000", "--block-size",
        "0x8000000000000000", "-a", "a.bin", "o.img"]
     let args : Arguments := ⟨0, some (.makeImage (addresslessOptions false), hugeOptions)⟩
     let w := World.ofTree addresslessTree
     Arguments.parse words = .ok args ∧
       ((Program.run .atRoot words).runOn w).1 = .error (.slip .wideAddress)) ∧
    (let words := ["check", "--flash-size", "0x10000000000000000", "--block-size",
        "0x8000000000000000", "x.hex"]
     let args : Arguments := ⟨0, some (.checkImage (Path.ofString "x.hex"), hugeOptions)⟩
     let w := World.ofTree (Image.recordsTree Image.oneByteText)
     Arguments.parse words = .ok args ∧
       ((Program.run .atRoot words).runOn w).1 = .error (.slip .noMemory)) ∧
    (let words := ["check", "--flash-size", "64", "--block-size", "16", "x.hex"]
     let args : Arguments := ⟨0, some (.checkImage (Path.ofString "x.hex"), smallOptions)⟩
     let w := World.ofTree blankTree
     Arguments.parse words = .ok args ∧ args.promised .atRoot w.tree = .success ∧
       ((Program.run .atRoot words).runOn w).1 = .ok (.exit .dataError)) := by
  refine ⟨?made, ?checked, ?blank⟩
  case made =>
    intro words args w
    have hparse : Arguments.parse words = .ok args := by decide +kernel
    have hshort : Numeral.isWritable ((2 : Nat) : Int) = true :=
      Image.isWritable_of_lt (by decide)
    have hplain : ∀ path, (addresslessOptions false).source? = some path → path.IsPlain := by
      intro path hpath
      obtain rfl := Option.some.inj hpath
      exact Path.isPlain_iff.2 (by decide)
    have hmake := makeImage_of_hindered (w := { w with log := [] }) rfl hplain
      (fun hhex => absurd hhex (by decide)) (Path.isProper_ofString "o.img")
      (Path.isPlain_iff.2 (by decide)) (fun _ hname => absurd hname List.not_mem_nil)
      (.largeDevice fits_hugeOptions hshort (by decide))
    refine ⟨hparse, ?_⟩
    rw [(runOn_run hparse w).1]
    exact congrArg (Except.map Ending.exit) hmake
  case checked =>
    intro words args w
    have hparse : Arguments.parse words = .ok args := by decide +kernel
    have hplain : (Path.ofString "x.hex").IsPlain := Path.isPlain_iff.2 (by decide)
    have hcheck := withImage_of_hindered hplain (looksAt_check rfl _ { w with log := [] })
      (.largeDevice geometryOf_hugeOptions Image.lacksMemory_oneByte)
    refine ⟨hparse, ?_⟩
    rw [(runOn_run hparse w).1]
    exact congrArg (Except.map Ending.exit) hcheck
  case blank =>
    intro words args w
    have hparse : Arguments.parse words = .ok args := by decide +kernel
    have hplain : (Path.ofString "x.hex").IsPlain := Path.isPlain_iff.2 (by decide)
    have hcheck := withImage_of_hindered hplain (looksAt_check rfl _ { w with log := [] })
      (.noData geometryOf_smallOptions leadsToNoData_blankTree)
    refine ⟨hparse, ?_, ?_⟩
    · exact promisedToLook_of_noData geometryOf_smallOptions leadsToNoData_blankTree
        fun content => verdict_of_erased
    · rw [(runOn_run hparse w).1]
      exact congrArg (Except.map Ending.exit) hcheck

end NorFlash.CommandLine
