import NorFlash.Proofs.Build.Gates
import NorFlash.Proofs.CommandLine.MakeImage

/-!
# Images of artifacts that are built

A failed build ends a composer in `failed` and a command with the exit code for its failure, and the
tree is the one that the programs left (`BuildStep.build_gated`).
-/

namespace NorFlash

open FileTree CommandLine

/-! ## Failed providers -/

/-- A composer whose provider fails ends in `failed` with the same failure and does nothing more. -/
theorem Composer.run_of_provider_error {s : Setting} {c : Composer} {failure : Failure}
    {w w₁ : World} (hstart : c.state = .start)
    (hprovider : c.provider.runOn w = (.error failure, w₁)) :
    ∃ log, c.run s w = ((.error failure, { c with state := .failed }), { w₁ with log := log }) := by
  rw [run_of_start hstart, guarded, runStaged_tryCatch, stages, runStaged_bind, runStaged_act,
    hprovider]
  exact ⟨_, rfl⟩

theorem runOn_compose_of_provider_error {s : Setting} {provider : Provider} {failure : Failure}
    {w w₁ : World} (g : Geometry) (output : Option Path) (hexOutput : Bool)
    (hprovider : provider.runOn w = (.error failure, w₁)) :
    ∃ log, (compose s provider g output hexOutput).runOn w =
      (.error failure, { w₁ with log := log }) := by
  obtain ⟨log, hrun⟩ := Composer.run_of_provider_error (s := s)
    (c := Composer.new g provider output hexOutput) rfl hprovider
  have hcompose : (compose s provider g output hexOutput).runOn w =
      (((Composer.new g provider output hexOutput).run s w).1.1,
        ((Composer.new g provider output hexOutput).run s w).2) := rfl
  exact ⟨log, by rw [hcompose, hrun]⟩

namespace CommandLine

variable {s : Setting} {options : MakeOptions} {device : DeviceOptions} {c : Configuration}
  {g : Geometry} {step : BuildStep} {failure : Failure} {w₀ w w₁ : World}

theorem providerOf_build (hartifact : options.artifact = .missing) (hbuild : options.build = true)
    (hstep : c.build = some step) :
    providerOf s options (some c) = .ok (step.provider s (c.binary.getD defaultArtifact)) := by
  simp [providerOf, hartifact, hbuild, hstep]

/-- A command whose artifact is missing ends with the exit code for that. -/
theorem runOn_makeImage_of_missing {provider : Provider} {path : Path} {reason : MissingReason}
    (hconfig : (configuration s device options.buildDirectory).runOn w₀ = (.ok (some c), w))
    (hgeometry : geometryOf device (some c) = .ok g)
    (hchoice : providerOf s options (some c) = .ok provider)
    (hprovider : provider.runOn w = (.error (.missing path reason), w₁)) :
    ∃ log, (makeImage s options device).runOn w₀ = (.ok .noInput, { w₁ with log := log }) := by
  obtain ⟨log, hcompose⟩ := runOn_compose_of_provider_error (s := s) g
    (some (outputOf options (some c))) options.hex hprovider
  have hrun : (composeFor s options device).runOn w₀ =
      (.error (.missing path reason), { w₁ with log := log }) :=
    (runOn_composeFor_of_provider hconfig hgeometry hchoice).trans hcompose
  rw [runOn_makeImage, hrun]
  exact ⟨_, rfl⟩

end CommandLine

namespace BuildStep

variable {s : Setting} {step : BuildStep} {binary : Path} {program : String} {rest : List String}
  {objcopy : String}

/-- **What a build keeps to.** The programs that it runs are all that it consults, and the tree at
the end is the one that they left. It passes its gates in order (`Gated`). A failure ends a composer
in `failed`, and a missing artifact ends `mkimg --build` with the exit code for that; neither
changes the tree any further. -/
theorem build_gated (hprograms : s.programs.IsOrderly)
    (hcommand : step.command = (program :: rest).map some) (hobjcopy : step.objcopy = some objcopy)
    (hwords : (objcopy :: program :: rest).any Action.hasNull = false) (binary : Path) (w : World) :
    let provider := step.provider s binary
    let run := provider.runOn w
    (∃ launches, Launched s.programs w.tree launches run.2.tree ∧
      (∀ programs, Launched programs w.tree launches run.2.tree →
        let other := (step.provider { s with programs := programs } binary).runOn w
        other.1 = run.1 ∧ other.2.tree = run.2.tree) ∧
      Gated s step binary program rest objcopy launches run.1 run.2.tree) ∧
    (∀ failure, run.1 = .error failure → ∀ g output hexOutput,
      let c := Composer.new g provider output hexOutput
      (c.run s w).1 = (.error failure, { c with state := .failed }) ∧
        (c.run s w).2.tree = run.2.tree) ∧
    ∀ path reason, run.1 = .error (.missing path reason) → ∀ options device c g w₀,
      options.artifact = .missing → options.build = true → c.build = some step →
      c.binary.getD defaultArtifact = binary →
      (configuration s device options.buildDirectory).runOn w₀ = (.ok (some c), w) →
      geometryOf device (some c) = .ok g →
      ((makeImage s options device).runOn w₀).1 = .ok .noInput ∧
        ((makeImage s options device).runOn w₀).2.tree = run.2.tree := by
  obtain ⟨launches, result, t', hway⟩ := exists_buildRun s step binary program rest objcopy w.tree
  obtain ⟨log, hrun⟩ := runOn_provider hcommand hobjcopy hway
  dsimp only
  rw [hrun]
  refine ⟨⟨launches, hway.launched, fun programs hprograms => ?_, hway.gated hprograms hwords⟩,
    fun failure hfailure g output hexOutput => ?_,
    fun path reason hmissing options device c g w₀ hartifact hbuild hstep hbinary hconfig
      hgeometry => ?_⟩
  · obtain ⟨log', hother⟩ := runOn_provider hcommand hobjcopy (hway.transfer hprograms)
    rw [hother]
    exact ⟨rfl, rfl⟩
  · dsimp only at hfailure
    rw [hfailure] at hrun
    obtain ⟨log', hcomposer⟩ := Composer.run_of_provider_error (s := s)
      (c := Composer.new g (step.provider s binary) output hexOutput) rfl hrun
    rw [hcomposer]
    exact ⟨rfl, rfl⟩
  · dsimp only at hmissing
    rw [hmissing] at hrun
    have hchoice := providerOf_build (s := s) hartifact hbuild hstep
    rw [hbinary] at hchoice
    obtain ⟨log', hmake⟩ := runOn_makeImage_of_missing hconfig hgeometry hchoice hrun
    rw [hmake]
    exact ⟨rfl, rfl⟩

/-! ## Programs that do nothing -/

/-- Programs that end with zero and change nothing. -/
def idle : Programs :=
  fun _ _ t => (.ok 0, t)

/-- Where these programs are run from the root. -/
def idleSetting : Setting :=
  { Setting.atRoot with programs := idle }

/-- A build of a linked program that is converted into the file `b`. -/
def idleStep (result : Path) : BuildStep :=
  ⟨[some "true"], result, some "cp", none⟩

theorem command_idleStep (result : Path) : (idleStep result).command = ["true"].map some :=
  rfl

theorem stageRun_idle (result : Path) :
    StageRun idleSetting .build "true" [] (idleStep result).workDirectory (idleStep result).result
      .empty [⟨[], ["true"], .empty, .ok 0, .empty⟩] (.ok ()) .empty :=
  .launched (not_isSpoiled_iff.2 ⟨by decide, by simp [idleStep]⟩) rfl rfl

/-- Programs that do nothing leave no linked program where there was none. -/
theorem build_gated_idle :
    let provider := (idleStep (Path.ofString "a")).provider idleSetting (Path.ofString "b")
    let run := provider.runOn (World.ofTree .empty)
    let c := Composer.new smallDevice provider none false
    run.1 = .error (.missing (Path.ofString "a") .noResult) ∧
      (∃ launches, Launched idle .empty launches run.2.tree ∧
        Gated idleSetting (idleStep (Path.ofString "a")) (Path.ofString "b") "true" [] "cp"
          launches run.1 run.2.tree) ∧
      (c.run idleSetting (World.ofTree .empty)).1 =
        (.error (.missing (Path.ofString "a") .noResult), { c with state := .failed }) := by
  intro provider run c
  have hlook : idleSetting.seesFile .empty (Path.ofString "a") = .ok false := by
    have hrender : (Path.ofString "a").render = "a" := by decide
    have hparts : components "a" = ["a"] := by decide
    have hsize : "a".utf8ByteSize = 1 := by decide
    have hnull : Action.hasNull "a" = false := by decide
    simp [idleSetting, Setting.atRoot, Setting.seesFile, test, status, find, locate, walk, get?,
      FileTree.empty, startOf, maxPath, maxName, Errno.meansAbsent, hrender, hparts, hsize, hnull]
  have hway : BuildRun idleSetting (idleStep (Path.ofString "a")) (Path.ofString "b") "true" [] "cp"
      .empty _ _ .empty := .noResult (stageRun_idle (Path.ofString "a")) hlook
  obtain ⟨log, hrun⟩ := runOn_provider (w := World.ofTree .empty) (command_idleStep _) rfl hway
  have hfailure : run.1 = .error (.missing (Path.ofString "a") .noResult) := congrArg (·.1) hrun
  obtain ⟨⟨launches, hlaunched, -, hgated⟩, hcomposer, -⟩ :=
    build_gated (s := idleSetting) (fun _ _ _ _ => by simp [idleSetting, idle])
      (command_idleStep (Path.ofString "a")) rfl (by decide) (Path.ofString "b")
      (World.ofTree .empty)
  exact ⟨hfailure, ⟨launches, hlaunched, hgated⟩, (hcomposer _ hfailure _ _ _).1⟩

/-- A name of so many letters. -/
def letters (n : Nat) : String :=
  String.ofList (List.replicate n 'e')

theorem utf8ByteSize_letters (n : Nat) : (letters n).utf8ByteSize = n := by
  induction n with
  | zero => rfl
  | succ n ih =>
    rw [letters] at ih
    rw [letters, List.replicate_succ, String.ofList_cons, String.utf8ByteSize_append, ih,
      String.utf8ByteSize_singleton, Nat.add_comm]
    rfl

/-- The system refuses to look for a name of too many letters. -/
theorem seesFile_letters {n : Nat} (hlong : maxName < n) (t : FileTree) :
    idleSetting.seesFile t ⟨.relative, [letters n]⟩ = .error .nameTooLong := by
  have hsize := utf8ByteSize_letters n
  have hother : ∀ c, c ≠ 'e' → c ∉ (letters n).toList := by
    intro c hc hmem
    rw [letters, String.toList_ofList] at hmem
    exact hc (List.eq_of_mem_replicate hmem)
  have hshort : ∀ name : String, name.utf8ByteSize ≤ maxName → letters n ≠ name := by
    rintro name hname rfl
    omega
  have hproper : Path.IsProper ⟨.relative, [letters n]⟩ := by
    simpa [Path.IsProper] using
      ⟨hshort "" (by decide), hshort "." (by decide), hother '/' (by decide)⟩
  have hnull : Action.hasNull (Path.render ⟨.relative, [letters n]⟩) = false := by
    rw [Action.hasNull, List.contains_eq_mem, decide_eq_false_iff_not,
      Path.mem_render (by decide) (by decide)]
    simpa using hother '\x00' (by decide)
  have hlocate : t.locate [] true (Path.render ⟨.relative, [letters n]⟩) = .error .nameTooLong :=
    locate_of_long_name hproper rfl (hshort ".." (by decide)) ⟨_, rfl⟩ (hsize.symm ▸ hlong)
  rw [Setting.seesFile, if_neg (by simp [hnull]), test, status, find,
    show idleSetting.directory = [] from rfl, hlocate]
  rfl

/-- A linked program whose name is too long ends the build with an error of the system, which is no
missing artifact. -/
theorem build_not_blamed :
    let step := idleStep ⟨.relative, [letters 256]⟩
    idle.IsOrderly ∧
      ((step.provider idleSetting (Path.ofString "b")).runOn (World.ofTree .empty)).1 =
        .error (.file (.file (.of .nameTooLong step.result.render))) := by
  intro step
  have hway : BuildRun idleSetting step (Path.ofString "b") "true" [] "cp" .empty _ _ .empty :=
    .refused (stageRun_idle step.result) (seesFile_letters (by decide) .empty)
  obtain ⟨log, hrun⟩ := runOn_provider (w := World.ofTree .empty) (command_idleStep _) rfl hway
  exact ⟨fun _ _ _ _ => by simp [idle], congrArg (·.1) hrun⟩

end BuildStep

end NorFlash
