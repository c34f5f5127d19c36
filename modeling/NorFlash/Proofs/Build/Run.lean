import NorFlash.Build
import NorFlash.Proofs.Artifact

/-!
# Runs of a build

What a build does, as a relation with one case for each way it goes: `StageRun` for one program,
`BuildRun` for the build as a whole. Both list the runs of programs (`Launch`), and the tree at the
end is the one that the last of these left. A build goes in one of these ways
(`exists_buildRun`), and it ends as the way says (`runOn_provider`); nothing but the programs that
were run matters for it (`BuildRun.transfer`).
-/

namespace NorFlash

open FileTree

/-! ## Runs of programs -/

/-- A run of a program. -/
structure Launch where
  /-- The directory it was started in. -/
  directory : Location
  /-- The words of its command. -/
  words : List String
  /-- The tree it found. -/
  before : FileTree
  /-- How it ended. -/
  ended : Except LaunchFault Int
  /-- The tree it left. -/
  after : FileTree

/-- Programs were run one after the other, each in the tree that the one before it left. -/
inductive Launched (programs : Programs) : FileTree → List Launch → FileTree → Prop
  /-- No program was run. -/
  | none (t : FileTree) : Launched programs t [] t
  /-- A program was run, and others after it. -/
  | more {directory : Location} {words : List String} {t t₁ t' : FileTree}
      {ended : Except LaunchFault Int} {rest : List Launch}
      (run : programs directory words t = (ended, t₁)) (next : Launched programs t₁ rest t') :
      Launched programs t (⟨directory, words, t, ended, t₁⟩ :: rest) t'

theorem Launched.append {programs : Programs} {t t₁ t₂ : FileTree} {first second : List Launch}
    (h : Launched programs t first t₁) (h' : Launched programs t₁ second t₂) :
    Launched programs t (first ++ second) t₂ := by
  induction h with
  | none t => exact h'
  | more run next ih => exact .more run (ih h')

theorem Launched.split {programs : Programs} {t t' : FileTree} {first second : List Launch}
    (h : Launched programs t (first ++ second) t') :
    ∃ t₁, Launched programs t first t₁ ∧ Launched programs t₁ second t' := by
  induction first generalizing t with
  | nil => exact ⟨t, .none t, h⟩
  | cons l first ih =>
    rw [List.cons_append] at h
    cases h with
    | more run next =>
      obtain ⟨t₁, hfirst, hsecond⟩ := ih next
      exact ⟨t₁, .more run hfirst, hsecond⟩

/-! ## Looking for files -/

/-- What looking for a file at a path says. A path with a null character leads to none. -/
def Setting.seesFile (s : Setting) (t : FileTree) (path : Path) : Except Errno Bool :=
  if Action.hasNull path.render then .ok false else t.test s.directory path.render Node.isFile

theorem Action.runOn_isFile (s : Setting) (path : Path) (w : World) :
    (Action.isFile s path).runOn w =
      match s.seesFile w.tree path with
      | .ok found => (.ok found, w)
      | .error errno => (.error (.file (.file (.of errno path.render))), w) := by
  rw [isFile, testEntry, Setting.seesFile]
  split
  · rfl
  · rw [runOn_bind_ok (runOn_tree w)]
    cases w.tree.test s.directory path.render Node.isFile <;> rfl

theorem Setting.seesFile_eq_true_iff {s : Setting} {t : FileTree} {path : Path} :
    s.seesFile t path = .ok true ↔ Action.hasNull path.render = false ∧
      ∃ mode content, t.status s.directory path.render = .ok (.file mode content) := by
  rw [seesFile]
  split
  · next hnull => simp [hnull]
  · next hnull =>
    rw [FileTree.test]
    cases t.status s.directory path.render with
    | error errno =>
      simp only [reduceCtorEq, exists_false, and_false, iff_false]
      split <;> simp
    | ok node => cases node <;> simp [Node.isFile, hnull]

namespace BuildStep

variable {s : Setting} {stage : BuildStage} {program : String} {rest : List String}
  {directory : Option WorkDirectory} {subject : Path} {t t' : FileTree} {ls : List Launch}

/-! ## One program -/

/-- How a stage ends whose program was run. -/
def stageEnd (stage : BuildStage) (program : String) (subject : Path) :
    Except LaunchFault Int → Except Failure Unit
  | .error .nullCharacter => .error (.file .nullCharacter)
  | .error (.program errno) =>
    .error (.missing subject (.notStarted stage (.of errno program)))
  | .ok status => if status ≠ 0 then .error (.missing subject (.exited stage status)) else .ok ()

/-- A program cannot be started with a null character in a word or in the text of its directory. -/
def IsSpoiled (program : String) (rest : List String) (directory : Option WorkDirectory) : Prop :=
  ((program :: rest).any Action.hasNull || directory.any fun d => Action.hasNull d.text) = true

theorem not_isSpoiled_iff :
    ¬ IsSpoiled program rest directory ↔ (program :: rest).any Action.hasNull = false ∧
      ∀ d ∈ directory, Action.hasNull d.text = false := by
  rw [IsSpoiled, Bool.or_eq_true, not_or, Bool.not_eq_true, Bool.not_eq_true]
  cases directory <;> simp

/-- The way that a stage goes: the runs of programs, how the stage ends, and the tree at the end. -/
inductive StageRun (s : Setting) (stage : BuildStage) (program : String) (rest : List String)
    (directory : Option WorkDirectory) (subject : Path) (t : FileTree) :
    List Launch → Except Failure Unit → FileTree → Prop
  /-- Nothing is run for a null character. -/
  | spoiled (h : IsSpoiled program rest directory) :
      StageRun s stage program rest directory subject t [] (.error (.file .nullCharacter)) t
  /-- Nothing is run in a directory that is not there. -/
  | nowhere {fault : FileFault} (h : ¬ IsSpoiled program rest directory)
      (start : startLocation s t directory = .error fault) :
      StageRun s stage program rest directory subject t []
        (.error (.missing subject (.notStarted stage fault))) t
  /-- The program is run. -/
  | launched {loc : Location} {ended : Except LaunchFault Int} {t' : FileTree}
      (h : ¬ IsSpoiled program rest directory) (start : startLocation s t directory = .ok loc)
      (run : s.programs loc (program :: rest) t = (ended, t')) :
      StageRun s stage program rest directory subject t
        [⟨loc, program :: rest, t, ended, t'⟩] (stageEnd stage program subject ended) t'

theorem exists_stageRun (s : Setting) (stage : BuildStage) (program : String) (rest : List String)
    (directory : Option WorkDirectory) (subject : Path) (t : FileTree) :
    ∃ ls result t', StageRun s stage program rest directory subject t ls result t' := by
  by_cases h : IsSpoiled program rest directory
  · exact ⟨_, _, _, .spoiled h⟩
  · cases hstart : startLocation s t directory with
    | error fault => exact ⟨_, _, _, .nowhere h hstart⟩
    | ok loc => exact ⟨_, _, _, .launched h hstart rfl⟩

theorem runOn_launch {result : Except Failure Unit} {w : World}
    (h : StageRun s stage program rest directory subject w.tree ls result t') :
    (launch s stage program rest directory subject).runOn w = (result, { w with tree := t' }) := by
  rw [launch]
  cases h with
  | spoiled hspoiled =>
    unfold IsSpoiled at hspoiled
    rw [if_pos hspoiled]
    rfl
  | nowhere hsound hstart =>
    unfold IsSpoiled at hsound
    rw [if_neg hsound, Action.runOn_bind_ok (Action.runOn_tree w), hstart]
    rfl
  | launched hsound hstart hrun =>
    next loc ended =>
    unfold IsSpoiled at hsound
    rw [if_neg hsound, Action.runOn_bind_ok (Action.runOn_tree w), hstart]
    dsimp only
    rw [Action.runOn_bind_ok (Action.runOn_tree w)]
    simp only [hrun]
    rw [Action.runOn_bind_ok (Action.runOn_setTree w t')]
    cases ended with
    | error fault => cases fault <;> rfl
    | ok status =>
      dsimp only [stageEnd]
      split <;> rfl

/-- A stage ends as its way says. -/
theorem runOn_runStage {command : List (Option String)} {result : Except Failure Unit} {w : World}
    (hwords : words? command = some (program :: rest))
    (h : StageRun s stage program rest directory subject w.tree ls result t') :
    ∃ log, (runStage s stage command directory subject).runOn w =
      (result, { w with tree := t', log := log }) := by
  have hinfo : ∀ message, (Action.info message).runOn w =
      (.ok (), { w with log := w.log ++ [⟨.info, message⟩] }) := fun _ => rfl
  rw [runStage, hwords]
  dsimp only
  rw [Action.runOn_bind_ok (hinfo _)]
  exact ⟨_, runOn_launch h⟩

/-- What a stage does depends only on what the program that it ran does. -/
theorem StageRun.transfer {programs : Programs} {result : Except Failure Unit} {t'' : FileTree}
    (h : StageRun s stage program rest directory subject t ls result t')
    (hls : Launched programs t ls t'') :
    StageRun { s with programs := programs } stage program rest directory subject t ls result t' ∧
      t'' = t' := by
  cases h with
  | spoiled hspoiled =>
    cases hls
    exact ⟨.spoiled hspoiled, rfl⟩
  | nowhere hsound hstart =>
    cases hls
    exact ⟨.nowhere hsound hstart, rfl⟩
  | launched hsound hstart hrun =>
    cases hls with
    | more hother hnone =>
      cases hnone
      exact ⟨.launched hsound hstart hother, rfl⟩

theorem StageRun.launched_of {result : Except Failure Unit}
    (h : StageRun s stage program rest directory subject t ls result t') :
    Launched s.programs t ls t' := by
  cases h with
  | spoiled | nowhere => exact .none t
  | launched hsound hstart hrun => exact .more hrun (.none _)

theorem stageEnd_eq_ok_iff {ended : Except LaunchFault Int} {u : Unit} :
    stageEnd stage program subject ended = .ok u ↔ ended = .ok 0 := by
  cases ended with
  | error fault => cases fault <;> simp [stageEnd]
  | ok status =>
    rw [stageEnd]
    split <;> simp_all

/-- A stage that ends well has run its program, which ended with zero. -/
theorem StageRun.of_ok {u : Unit}
    (h : StageRun s stage program rest directory subject t ls (.ok u) t') :
    ∃ loc, ¬ IsSpoiled program rest directory ∧ startLocation s t directory = .ok loc ∧
      s.programs loc (program :: rest) t = (.ok 0, t') ∧
      ls = [⟨loc, program :: rest, t, .ok 0, t'⟩] := by
  generalize hresult : (.ok u : Except Failure Unit) = result at h
  cases h with
  | spoiled | nowhere => simp at hresult
  | launched hsound hstart hrun =>
    obtain rfl := stageEnd_eq_ok_iff.1 hresult.symm
    exact ⟨_, hsound, hstart, hrun, rfl⟩

end BuildStep

/-! ## Reading the artifact -/

namespace Provider

/-- The way that the reading of an artifact goes. -/
inductive Reading (s : Setting) (t : FileTree) (path : Path) : Except Failure ByteArray → Prop
  /-- The system refuses to look for the file. -/
  | refused {errno : Errno} (look : s.seesFile t path = .error errno) :
      Reading s t path (.error (.file (.file (.of errno path.render))))
  /-- There is no file. -/
  | absent (look : s.seesFile t path = .ok false) :
      Reading s t path (.error (.missing path .notFound))
  /-- There is a file, and its content is decoded. -/
  | found {mode : Nat} {content : ByteArray} (hnull : Action.hasNull path.render = false)
      (file : t.status s.directory path.render = .ok (.file mode content)) :
      Reading s t path
        ((decode path content).mapError fun fault => .missing path (.unreadable fault))

theorem exists_reading (s : Setting) (t : FileTree) (path : Path) :
    ∃ result, Reading s t path result := by
  cases hlook : s.seesFile t path with
  | error errno => exact ⟨_, .refused hlook⟩
  | ok found =>
    cases found with
    | false => exact ⟨_, .absent hlook⟩
    | true =>
      obtain ⟨hnull, mode, content, hfile⟩ := Setting.seesFile_eq_true_iff.1 hlook
      exact ⟨_, .found hnull hfile⟩

theorem runOn_ofFile_of_reading {s : Setting} {path : Path} {w : World}
    {result : Except Failure ByteArray} (h : Reading s w.tree path result) :
    (ofFile s path).runOn w = (result, w) := by
  have hlook := Action.runOn_isFile s path w
  cases h with
  | refused look =>
    rw [look] at hlook
    rw [ofFile, Action.runOn_bind_error hlook]
  | absent look =>
    rw [look] at hlook
    rw [ofFile, Action.runOn_bind_ok hlook]
    rfl
  | found hnull file => exact runOn_ofFile hnull file

/-- Bytes are those of a file that is there. -/
theorem Reading.of_ok {s : Setting} {t : FileTree} {path : Path} {bytes : ByteArray}
    (h : Reading s t path (.ok bytes)) :
    ∃ mode content, t.status s.directory path.render = .ok (.file mode content) ∧
      decode path content = .ok bytes := by
  generalize hresult : (.ok bytes : Except Failure ByteArray) = result at h
  cases h with
  | refused | absent => simp at hresult
  | found hnull file =>
    next mode content =>
    refine ⟨mode, content, file, ?_⟩
    cases hdecode : decode path content with
    | ok other => simpa [hdecode, Except.mapError] using hresult.symm
    | error fault => simp [hdecode, Except.mapError] at hresult

/-- Reading runs no program. -/
theorem Reading.transfer {s : Setting} {t : FileTree} {path : Path}
    {result : Except Failure ByteArray} (programs : Programs) (h : Reading s t path result) :
    Reading { s with programs := programs } t path result := by
  cases h with
  | refused look => exact .refused look
  | absent look => exact .absent look
  | found hnull file => exact .found hnull file

end Provider

namespace BuildStep

/-! ## A whole build -/

/-- The words that the converter gets besides its name. -/
def conversionWords (step : BuildStep) (binary : Path) : List String :=
  ["-O", "binary", step.result.render, binary.render]

/-- A converter that can be started can be given the name of the binary. -/
theorem hasNull_binary_of_not_isSpoiled {step : BuildStep} {binary : Path} {objcopy : String}
    (h : ¬ IsSpoiled objcopy (step.conversionWords binary) directory) :
    Action.hasNull binary.render = false := by
  have hwords := (not_isSpoiled_iff.1 h).1
  simpa [conversionWords] using (List.any_eq_false.1 hwords) binary.render

section

variable (s : Setting) (step : BuildStep) (binary : Path) (program : String) (rest : List String)
  (objcopy : String)

/-- The way that a build goes whose command and converter are given: the runs of programs, what the
build ends with, and the tree at the end. -/
inductive BuildRun (t : FileTree) : List Launch → Except Failure ByteArray → FileTree → Prop
  /-- The command fails. -/
  | failed {ls : List Launch} {failure : Failure} {t₁ : FileTree}
      (build : StageRun s .build program rest step.workDirectory step.result t ls
        (.error failure) t₁) :
      BuildRun t ls (.error failure) t₁
  /-- The system refuses to look for the linked program. -/
  | refused {ls : List Launch} {errno : Errno} {t₁ : FileTree}
      (build : StageRun s .build program rest step.workDirectory step.result t ls (.ok ()) t₁)
      (look : s.seesFile t₁ step.result = .error errno) :
      BuildRun t ls (.error (.file (.file (.of errno step.result.render)))) t₁
  /-- The command leaves no linked program. -/
  | noResult {ls : List Launch} {t₁ : FileTree}
      (build : StageRun s .build program rest step.workDirectory step.result t ls (.ok ()) t₁)
      (look : s.seesFile t₁ step.result = .ok false) :
      BuildRun t ls (.error (.missing step.result .noResult)) t₁
  /-- The converter fails. -/
  | notConverted {ls ls' : List Launch} {failure : Failure} {t₁ t₂ : FileTree}
      (build : StageRun s .build program rest step.workDirectory step.result t ls (.ok ()) t₁)
      (look : s.seesFile t₁ step.result = .ok true)
      (convert : StageRun s .objcopy objcopy (step.conversionWords binary) step.workDirectory binary
        t₁ ls' (.error failure) t₂) :
      BuildRun t (ls ++ ls') (.error failure) t₂
  /-- The binary is read. -/
  | converted {ls ls' : List Launch} {result : Except Failure ByteArray} {t₁ t₂ : FileTree}
      (build : StageRun s .build program rest step.workDirectory step.result t ls (.ok ()) t₁)
      (look : s.seesFile t₁ step.result = .ok true)
      (convert : StageRun s .objcopy objcopy (step.conversionWords binary) step.workDirectory binary
        t₁ ls' (.ok ()) t₂)
      (read : Provider.Reading s t₂ binary result) :
      BuildRun t (ls ++ ls') result t₂

theorem exists_buildRun (t : FileTree) :
    ∃ ls result t', BuildRun s step binary program rest objcopy t ls result t' := by
  obtain ⟨ls, built, t₁, hbuild⟩ :=
    exists_stageRun s .build program rest step.workDirectory step.result t
  cases built with
  | error failure => exact ⟨_, _, _, .failed hbuild⟩
  | ok u =>
    cases hlook : s.seesFile t₁ step.result with
    | error errno => exact ⟨_, _, _, .refused hbuild hlook⟩
    | ok found =>
      cases found with
      | false => exact ⟨_, _, _, .noResult hbuild hlook⟩
      | true =>
        obtain ⟨ls', converted, t₂, hconvert⟩ := exists_stageRun s .objcopy objcopy
          (step.conversionWords binary) step.workDirectory binary t₁
        cases converted with
        | error failure => exact ⟨_, _, _, .notConverted hbuild hlook hconvert⟩
        | ok u =>
          obtain ⟨result, hread⟩ := Provider.exists_reading s t₂ binary
          exact ⟨_, _, _, .converted hbuild hlook hconvert hread⟩

end

variable {step : BuildStep} {binary : Path} {objcopy : String} {result : Except Failure ByteArray}

theorem words?_map_some (words : List String) : words? (words.map some) = some words := by
  induction words with
  | nil => rfl
  | cons word words ih =>
    rw [words?] at ih
    rw [words?, List.map_cons, List.mapM_cons, ih]
    rfl

/-- **A build ends as its way says.** -/
theorem runOn_provider {w : World} (hcommand : step.command = (program :: rest).map some)
    (hobjcopy : step.objcopy = some objcopy)
    (h : BuildRun s step binary program rest objcopy w.tree ls result t') :
    ∃ log, (step.provider s binary).runOn w = (result, { w with tree := t', log := log }) := by
  have hwords : words? step.command = some (program :: rest) := by
    rw [hcommand, words?_map_some]
  have hconversion : words? [step.objcopy, some "-O", some "binary", some step.result.render,
      some binary.render] = some (objcopy :: step.conversionWords binary) := by
    rw [hobjcopy]
    rfl
  rw [provider]
  cases h with
  | failed build =>
    obtain ⟨log, hbuild⟩ := runOn_runStage hwords build
    exact ⟨log, by rw [Action.runOn_bind_error hbuild]⟩
  | refused build look =>
    obtain ⟨log, hbuild⟩ := runOn_runStage hwords build
    have hlook := Action.runOn_isFile s step.result { w with tree := t', log := log }
    rw [look] at hlook
    exact ⟨log, by rw [Action.runOn_bind_ok hbuild, Action.runOn_bind_error hlook]⟩
  | noResult build look =>
    obtain ⟨log, hbuild⟩ := runOn_runStage hwords build
    have hlook := Action.runOn_isFile s step.result { w with tree := t', log := log }
    rw [look] at hlook
    refine ⟨log, ?_⟩
    rw [Action.runOn_bind_ok hbuild, Action.runOn_bind_ok hlook]
    rfl
  | notConverted build look convert =>
    next t₁ =>
    obtain ⟨log, hbuild⟩ := runOn_runStage hwords build
    have hlook := Action.runOn_isFile s step.result { w with tree := t₁, log := log }
    rw [look] at hlook
    obtain ⟨log', hconvert⟩ :=
      runOn_runStage (w := { w with tree := t₁, log := log }) hconversion convert
    refine ⟨log', ?_⟩
    rw [Action.runOn_bind_ok hbuild, Action.runOn_bind_ok hlook]
    simp only [Bool.not_true, Bool.false_eq_true, if_false]
    rw [Action.runOn_bind_error hconvert]
  | converted build look convert read =>
    next t₁ =>
    obtain ⟨log, hbuild⟩ := runOn_runStage hwords build
    have hlook := Action.runOn_isFile s step.result { w with tree := t₁, log := log }
    rw [look] at hlook
    obtain ⟨log', hconvert⟩ :=
      runOn_runStage (w := { w with tree := t₁, log := log }) hconversion convert
    refine ⟨log', ?_⟩
    rw [Action.runOn_bind_ok hbuild, Action.runOn_bind_ok hlook]
    simp only [Bool.not_true, Bool.false_eq_true, if_false]
    rw [Action.runOn_bind_ok hconvert, Provider.runOn_ofFile_of_reading read]

/-- The tree at the end is the one that the programs left. -/
theorem BuildRun.launched (h : BuildRun s step binary program rest objcopy t ls result t') :
    Launched s.programs t ls t' := by
  cases h with
  | failed build | refused build | noResult build => exact build.launched_of
  | notConverted build _ convert => exact build.launched_of.append convert.launched_of
  | converted build _ convert => exact build.launched_of.append convert.launched_of

/-- What a build does depends only on what the programs that it ran do. -/
theorem BuildRun.transfer {programs : Programs} {t'' : FileTree}
    (h : BuildRun s step binary program rest objcopy t ls result t')
    (hls : Launched programs t ls t'') :
    BuildRun { s with programs := programs } step binary program rest objcopy t ls result t' := by
  cases h with
  | failed build => exact .failed (build.transfer hls).1
  | refused build look => exact .refused (build.transfer hls).1 look
  | noResult build look => exact .noResult (build.transfer hls).1 look
  | notConverted build look convert =>
    obtain ⟨t₁, hbuild, hconvert⟩ := hls.split
    obtain ⟨hbuild, rfl⟩ := build.transfer hbuild
    exact .notConverted hbuild look (convert.transfer hconvert).1
  | converted build look convert read =>
    obtain ⟨t₁, hbuild, hconvert⟩ := hls.split
    obtain ⟨hbuild, rfl⟩ := build.transfer hbuild
    exact .converted hbuild look (convert.transfer hconvert).1 (read.transfer _)

end BuildStep

end NorFlash
