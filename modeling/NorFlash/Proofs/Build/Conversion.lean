import NorFlash.Proofs.Build.Run

/-!
# What a build returns

The programs of a build follow paths from the directory that they are started in, the build itself
follows them from the working directory. A converter therefore writes to one place and the build may
read another one, where an older file lies. `BuildStep.build_returns` says which bytes are returned
in each case: those of the conversion whenever both directories lead to the same files, as they do
for absolute paths and without a directory of its own for the programs.
-/

namespace NorFlash

open FileTree

/-- The program ends with zero where its source is a file and its target can take one, and only
there, and then the conversion of the source is in the target. -/
structure Programs.IsConverter (programs : Programs) (objcopy : String)
    (convert : ByteArray → ByteArray) : Prop where
  /-- It ends with zero where it can. -/
  succeeds : ∀ {loc source target t mode content place},
    t.status loc source = .ok (.file mode content) → t.locate loc true target = .ok place →
    t.IsOpen place.location → (programs loc [objcopy, "-O", "binary", source, target] t).1 = .ok 0
  /-- Where it ends with zero it has read the one file and written the other. -/
  writes : ∀ {loc source target t t'},
    programs loc [objcopy, "-O", "binary", source, target] t = (.ok 0, t') →
    ∃ mode content place mode', t.status loc source = .ok (.file mode content) ∧
      t.locate loc true target = .ok place ∧ t.IsOpen place.location ∧
      t.IsPut place.location (.file mode' (convert content)) t'

/-- A path leads to the same place from a directory as from the working directory. -/
def Setting.LeadsAlike (s : Setting) (t : FileTree) (loc : Location) (path : Path) : Prop :=
  t.locate loc true path.render = t.locate s.directory true path.render

theorem Setting.leadsAlike_of_absolute {s : Setting} {t : FileTree} {loc : Location} {path : Path}
    (h : path.root ≠ .relative) : s.LeadsAlike t loc path :=
  locate_of_absolute h _

/-- What a file holds after a write: what was written if it is the file that was written to, and
else what it held before. -/
inductive Origin (before : FileTree) (written : Location) (content : ByteArray) :
    Location → ByteArray → Prop
  /-- The file is the one that was written. -/
  | fresh : Origin before written content written content
  /-- The file is another one. -/
  | stale {found : Location} {mode : Nat} {old : ByteArray} (other : found ≠ written)
      (there : before.get? found = some (.file mode old)) :
      Origin before written content found old

section

variable {t t' : FileTree} {loc found : Location} {mode : Nat} {content old : ByteArray}

theorem FileTree.IsPut.origin_iff (h : t.IsPut loc (.file mode content) t') :
    Origin t loc content found old ↔ ∃ mode', t'.get? found = some (.file mode' old) := by
  rw [h]
  constructor
  · rintro (_ | ⟨hother, hthere⟩)
    · exact ⟨mode, by simp⟩
    · exact ⟨_, by rw [if_neg hother, hthere]⟩
  · rintro ⟨mode', hfound⟩
    split at hfound
    · next heq =>
      obtain ⟨-, rfl⟩ := Node.file.inj (Option.some.inj hfound)
      exact heq ▸ .fresh
    · next hother => exact .stale hother hfound

/-- The bytes that are read after a write. -/
theorem FileTree.IsPut.reading_iff {s : Setting} {path : Path} {bytes : ByteArray}
    (h : t.IsPut loc (.file mode content) t') (hnull : Action.hasNull path.render = false) :
    Provider.Reading s t' path (.ok bytes) ↔
      ∃ found old, t'.find s.directory true path.render = .ok found ∧
        Origin t loc content found old ∧ Provider.decode path old = .ok bytes := by
  simp only [h.origin_iff]
  constructor
  · intro hread
    obtain ⟨mode, old, hfile, hdecode⟩ := hread.of_ok
    obtain ⟨found, hplace, hfound⟩ := status_eq_ok_iff.1 hfile
    exact ⟨found, old, find_eq_ok_iff.2 hplace, ⟨mode, hfound⟩, hdecode⟩
  · rintro ⟨found, old, hplace, ⟨mode, hfound⟩, hdecode⟩
    have hfile := status_eq_ok_iff.2 ⟨found, find_eq_ok_iff.1 hplace, hfound⟩
    have hread := Provider.Reading.found hnull hfile
    rwa [hdecode] at hread

end

namespace BuildStep

variable {s : Setting} {step : BuildStep} {binary : Path} {program : String} {rest : List String}
  {objcopy : String} {convert : ByteArray → ByteArray} {t t₁ t₂ : FileTree} {loc : Location}
  {elf : ByteArray} {place : Place}

/-! ## What the converter is given -/

/-- The command was run well on a tree and left another one with a linked program, and the converter
finds a file to read and a place to write to, seen from the directory that it is started in. -/
structure Convertible (s : Setting) (step : BuildStep) (binary : Path) (program : String)
    (rest : List String) (objcopy : String) (t t₁ : FileTree) (loc : Location) (elf : ByteArray)
    (place : Place) : Prop where
  /-- The command was run well. -/
  built : ∃ ls, StageRun s .build program rest step.workDirectory step.result t ls (.ok ()) t₁
  /-- It left a linked program, seen from the working directory. -/
  tested : s.seesFile t₁ step.result = .ok true
  /-- The converter can be given its words. -/
  sound : ¬ IsSpoiled objcopy (step.conversionWords binary) step.workDirectory
  /-- It is started here. -/
  start : startLocation s t₁ step.workDirectory = .ok loc
  /-- It reads this file. -/
  source : ∃ mode, t₁.status loc step.result.render = .ok (.file mode elf)
  /-- It writes to this place. -/
  target : t₁.locate loc true binary.render = .ok place
  /-- A file can be written there. -/
  isOpen : t₁.IsOpen place.location

/-- A converter that can be run writes the conversion. -/
theorem Convertible.exists_stageRun (hconverter : s.programs.IsConverter objcopy convert)
    (h : Convertible s step binary program rest objcopy t t₁ loc elf place) :
    ∃ ls mode t₂, StageRun s .objcopy objcopy (step.conversionWords binary) step.workDirectory
        binary t₁ ls (.ok ()) t₂ ∧
      t₁.IsPut place.location (.file mode (convert elf)) t₂ := by
  obtain ⟨mode, hsource⟩ := h.source
  have hended := hconverter.succeeds hsource h.target h.isOpen
  obtain ⟨t₂, hrun⟩ : ∃ t₂, s.programs loc (objcopy :: step.conversionWords binary) t₁ =
      (.ok 0, t₂) := ⟨_, Prod.ext hended rfl⟩
  obtain ⟨mode', elf', place', mode₂, hsource', htarget', -, hput⟩ := hconverter.writes hrun
  obtain ⟨-, rfl⟩ := Node.file.inj (Except.ok.inj (hsource.symm.trans hsource'))
  obtain rfl := Except.ok.inj (h.target.symm.trans htarget')
  exact ⟨_, mode₂, t₂, .launched h.sound h.start hrun, hput⟩

/-- A converter that was run well could be run. -/
theorem convertible_of_stageRun {ls ls' : List Launch}
    (hconverter : s.programs.IsConverter objcopy convert)
    (build : StageRun s .build program rest step.workDirectory step.result t ls (.ok ()) t₁)
    (look : s.seesFile t₁ step.result = .ok true)
    (conversion : StageRun s .objcopy objcopy (step.conversionWords binary) step.workDirectory
      binary t₁ ls' (.ok ()) t₂) :
    ∃ loc elf place mode, Convertible s step binary program rest objcopy t t₁ loc elf place ∧
      t₁.IsPut place.location (.file mode (convert elf)) t₂ := by
  obtain ⟨loc, hsound, hstart, hrun, -⟩ := conversion.of_ok
  obtain ⟨mode, elf, place, mode', hsource, htarget, hopen, hput⟩ := hconverter.writes hrun
  have hconvertible : Convertible s step binary program rest objcopy t t₁ loc elf place :=
    ⟨⟨ls, build⟩, look, hsound, hstart, ⟨mode, hsource⟩, htarget, hopen⟩
  exact ⟨loc, elf, place, mode', hconvertible, hput⟩

/-! ## What is returned -/

variable {w : World}

section

variable (hconverter : s.programs.IsConverter objcopy convert)
  (hcommand : step.command = (program :: rest).map some) (hobjcopy : step.objcopy = some objcopy)

include hconverter hcommand hobjcopy

/-- A build whose converter can be run ends with the reading of the binary. -/
theorem Convertible.runOn_provider
    (h : Convertible s step binary program rest objcopy w.tree t₁ loc elf place) :
    ∃ mode t₂, t₁.IsPut place.location (.file mode (convert elf)) t₂ ∧
      ∀ result, Provider.Reading s t₂ binary result →
        ∃ log, (step.provider s binary).runOn w = (result, { w with tree := t₂, log := log }) := by
  obtain ⟨ls, build⟩ := h.built
  obtain ⟨ls', mode, t₂, conversion, hput⟩ := h.exists_stageRun hconverter
  exact ⟨mode, t₂, hput, fun result hread =>
    BuildStep.runOn_provider hcommand hobjcopy (.converted build h.tested conversion hread)⟩

/-- A build that returns bytes has run its converter and has read the binary. -/
theorem convertible_of_runOn_provider {bytes : ByteArray}
    (h : ((step.provider s binary).runOn w).1 = .ok bytes) :
    ∃ t₁ loc elf place mode,
      Convertible s step binary program rest objcopy w.tree t₁ loc elf place ∧
      t₁.IsPut place.location (.file mode (convert elf))
        ((step.provider s binary).runOn w).2.tree ∧
      Provider.Reading s ((step.provider s binary).runOn w).2.tree binary (.ok bytes) := by
  obtain ⟨ls, result, t', hway⟩ := exists_buildRun s step binary program rest objcopy w.tree
  obtain ⟨log, hrun⟩ := BuildStep.runOn_provider hcommand hobjcopy hway
  rw [hrun] at h ⊢
  obtain rfl : result = .ok bytes := h
  generalize hresult : (.ok bytes : Except Failure ByteArray) = result at hway
  cases hway with
  | failed | refused | noResult | notConverted => simp at hresult
  | converted build look conversion read =>
    next t₁ =>
    subst hresult
    obtain ⟨loc, elf, place, mode, hconvertible, hput⟩ :=
      convertible_of_stageRun hconverter build look conversion
    exact ⟨t₁, loc, elf, place, mode, hconvertible, hput, read⟩

/-- Bytes are returned once the converter could be run, and are those of the file that the binary
leads to from the working directory. -/
theorem runOn_provider_eq_ok_iff {bytes : ByteArray} :
    ((step.provider s binary).runOn w).1 = .ok bytes ↔ ∃ t₁ loc elf place found content,
      Convertible s step binary program rest objcopy w.tree t₁ loc elf place ∧
      ((step.provider s binary).runOn w).2.tree.find s.directory true binary.render = .ok found ∧
      Origin t₁ place.location (convert elf) found content ∧
      Provider.decode binary content = .ok bytes := by
  constructor
  · intro hbytes
    obtain ⟨t₁, loc, elf, place, mode, h, hput, hread⟩ :=
      convertible_of_runOn_provider hconverter hcommand hobjcopy hbytes
    have hnull := hasNull_binary_of_not_isSpoiled h.sound
    obtain ⟨found, content, hfound⟩ := (hput.reading_iff hnull).1 hread
    exact ⟨t₁, loc, elf, place, found, content, h, hfound⟩
  · rintro ⟨t₁, loc, elf, place, found, content, h, hfound⟩
    have hnull := hasNull_binary_of_not_isSpoiled h.sound
    obtain ⟨mode, t₂, hput, hreading⟩ := h.runOn_provider hconverter hcommand hobjcopy
    -- However the reading goes, the tree at the end is the one that the converter left.
    obtain ⟨result, hread⟩ := Provider.exists_reading s t₂ binary
    obtain ⟨log, hrun⟩ := hreading result hread
    rw [hrun] at hfound
    obtain ⟨log', hrun'⟩ := hreading _ ((hput.reading_iff hnull).2 ⟨found, content, hfound⟩)
    rw [hrun']

/-- What the converter writes is read, if both directories lead to it alike. -/
theorem Convertible.runOn_provider_of_leadsAlike
    (h : Convertible s step binary program rest objcopy w.tree t₁ loc elf place)
    (halike : s.LeadsAlike t₁ loc binary) :
    ((step.provider s binary).runOn w).1 = (Provider.decode binary (convert elf)).mapError
      fun fault => .missing binary (.unreadable fault) := by
  obtain ⟨mode, t₂, hput, hreading⟩ := h.runOn_provider hconverter hcommand hobjcopy
  have hnull := hasNull_binary_of_not_isSpoiled h.sound
  have hplace : t₂.locate s.directory true binary.render = .ok (.entry place.location) :=
    hput.locate_of_isOpen h.isOpen (halike ▸ h.target)
  have hwritten : t₂.get? place.location = some (.file mode (convert elf)) := by
    rw [hput, if_pos rfl]
  obtain ⟨log, hrun⟩ := hreading _ (.found hnull (status_eq_ok_iff.2 ⟨_, hplace, hwritten⟩))
  rw [hrun]

end

/-- What the converter reads was tested, if both directories lead to it alike. -/
theorem Convertible.status_of_leadsAlike
    (h : Convertible s step binary program rest objcopy t t₁ loc elf place)
    (halike : s.LeadsAlike t₁ loc step.result) :
    ∃ mode, t₁.status s.directory step.result.render = .ok (.file mode elf) := by
  obtain ⟨mode, hsource⟩ := h.source
  obtain ⟨found, hplace, hfound⟩ := status_eq_ok_iff.1 hsource
  exact ⟨mode, status_eq_ok_iff.2 ⟨found, halike ▸ hplace, hfound⟩⟩

/-- Directories lead alike to absolute paths, and to all paths if the programs have no directory of
their own. -/
theorem Convertible.leadsAlike {path : Path}
    (h : Convertible s step binary program rest objcopy t t₁ loc elf place)
    (hpath : path.root ≠ .relative ∨ step.workDirectory = none) : s.LeadsAlike t₁ loc path := by
  rcases hpath with habsolute | hnone
  · exact Setting.leadsAlike_of_absolute habsolute
  · have hstart := h.start
    rw [hnone] at hstart
    obtain rfl : s.directory = loc := Except.ok.inj hstart
    rfl

/-- **Which bytes a build returns.** They are decoded from the file that the binary leads to from
the working directory, which holds the conversion if that is the place which the converter wrote to,
and else what was in it before. Where both directories lead to the same files, what was tested is
what is converted and what is returned is the conversion; absolute paths and programs that are
started in the working directory are such. -/
theorem build_returns (hconverter : s.programs.IsConverter objcopy convert)
    (hcommand : step.command = (program :: rest).map some) (hobjcopy : step.objcopy = some objcopy)
    (binary : Path) (w : World) :
    let run := (step.provider s binary).runOn w
    let IsConvertible := Convertible s step binary program rest objcopy w.tree
    (∀ bytes, run.1 = .ok bytes ↔ ∃ t₁ loc elf place found content,
      IsConvertible t₁ loc elf place ∧
      run.2.tree.find s.directory true binary.render = .ok found ∧
      Origin t₁ place.location (convert elf) found content ∧
      Provider.decode binary content = .ok bytes) ∧
    ∀ t₁ loc elf place, IsConvertible t₁ loc elf place →
      (s.LeadsAlike t₁ loc step.result →
        ∃ mode, t₁.status s.directory step.result.render = .ok (.file mode elf)) ∧
      (s.LeadsAlike t₁ loc binary →
        run.1 = (Provider.decode binary (convert elf)).mapError
            (fun fault => .missing binary (.unreadable fault)) ∧
          (binary.isHex = false → run.1 = .ok (convert elf))) ∧
      ∀ path : Path, path.root ≠ .relative ∨ step.workDirectory = none →
        s.LeadsAlike t₁ loc path := by
  intro run IsConvertible
  refine ⟨fun bytes => runOn_provider_eq_ok_iff hconverter hcommand hobjcopy,
    fun t₁ loc elf place h => ⟨h.status_of_leadsAlike, fun halike => ?_, fun path => h.leadsAlike⟩⟩
  have hrun : run.1 = _ := h.runOn_provider_of_leadsAlike hconverter hcommand hobjcopy halike
  refine ⟨hrun, fun hflat => ?_⟩
  rw [hrun, Provider.decode_of_not_isHex hflat]
  rfl

/-! ## A converter that copies -/

/-- A program that copies the file it is given as fourth word to its fifth one. -/
def copier : Programs
  | loc, [_, _, _, source, target], t =>
    match t.status loc source, t.locate loc true target with
    | .ok (.file _ content), .ok place =>
      if (t.get? place.location).all Node.isFile then
        (.ok 0, t.insert place.location (.file 0o644 content))
      else (.ok 1, t)
    | _, _ => (.ok 1, t)
  | _, _, t => (.ok 0, t)

theorem isConverter_copier (objcopy : String) : copier.IsConverter objcopy id where
  succeeds hsource htarget hopen := by
    simp only [copier, hsource, htarget, if_pos ((Option.all_eq_true _ _).2 hopen)]
  writes {loc source target t t'} h := by
    simp only [copier] at h
    split at h
    · next mode content place hsource htarget =>
      split at h
      · next hall =>
        have hopen : t.IsOpen place.location := (Option.all_eq_true _ _).1 hall
        obtain rfl := (Prod.ext_iff.1 h).2
        exact ⟨mode, content, place, _, hsource, htarget, hopen,
          fun other => get?_insert t _ hopen.ne_root other⟩
      · simp at h
    · simp at h

/-- Where it is run from the root. -/
def copierSetting : Setting :=
  { Setting.atRoot with programs := copier }

/-- A linked program and an older binary, both in the root and in a directory. -/
def copierTree : FileTree :=
  ⟨[(["a"], .file 0o644 ⟨#[1]⟩), (["b"], .file 0o644 ⟨#[9]⟩), (["w"], .directory 0o755),
    (["w", "a"], .file 0o644 ⟨#[1]⟩), (["w", "b"], .file 0o644 ⟨#[9]⟩)]⟩

/-- A build that converts `a` into the file `b`, in the directory or in the root. -/
def copierStep (inside : Bool) : BuildStep :=
  ⟨[some "true"], Path.ofString "a", some "cp", if inside then some (.ofText "w") else none⟩

theorem command_copierStep (inside : Bool) : (copierStep inside).command = ["true"].map some :=
  rfl

/-- The directory that its programs are started in. -/
def copierStart (inside : Bool) : Location :=
  if inside then ["w"] else []

theorem locate_copierTree (inside : Bool) {name : String} {content : ByteArray}
    (hname : name = "a" ∨ name = "b")
    (hget : copierTree.get? (copierStart inside ++ [name]) = some (.file 0o644 content)) :
    copierTree.locate (copierStart inside) true name =
      .ok (.entry (copierStart inside ++ [name])) := by
  have hdir : copierTree.IsDirectory (copierStart inside) := by
    cases inside <;> exact ⟨0o755, rfl⟩
  rcases hname with rfl | rfl <;>
    exact locate_child ⟨by decide, by decide, by decide⟩ (by decide) (if_neg (by decide)) hdir hget
      (by simp)

theorem status_copierTree (inside : Bool) {name : String} {content : ByteArray}
    (hname : name = "a" ∨ name = "b")
    (hget : copierTree.get? (copierStart inside ++ [name]) = some (.file 0o644 content)) :
    copierTree.status (copierStart inside) name = .ok (.file 0o644 content) :=
  status_eq_ok_iff.2 ⟨_, locate_copierTree inside hname hget, hget⟩

theorem startLocation_copier (inside : Bool) :
    startLocation copierSetting copierTree (copierStep inside).workDirectory =
      .ok (copierStart inside) := by
  cases inside with
  | false => rfl
  | true =>
    have hplace : copierTree.locate [] true "w" = .ok (.entry ["w"]) :=
      locate_root ⟨by decide, by decide, by decide⟩ (by decide)
        (show copierTree.get? ["w"] = some (.directory 0o755) from rfl) (by simp)
    have hfind : copierTree.find [] true "w" = .ok ["w"] := find_eq_ok_iff.2 hplace
    simp [startLocation, copierStep, copierSetting, Setting.atRoot, WorkDirectory.ofText, hfind]
    rfl

theorem not_isSpoiled_copier (inside : Bool) {program : String} {rest : List String}
    (hwords : (program :: rest).any Action.hasNull = false) :
    ¬ IsSpoiled program rest (copierStep inside).workDirectory := by
  refine not_isSpoiled_iff.2 ⟨hwords, ?_⟩
  cases inside <;> simp [copierStep, WorkDirectory.ofText]
  decide

theorem convertible_copier (inside : Bool) :
    Convertible copierSetting (copierStep inside) (Path.ofString "b") "true" [] "cp" copierTree
      copierTree (copierStart inside) ⟨#[1]⟩ (.entry (copierStart inside ++ ["b"])) where
  built :=
    ⟨_, .launched (not_isSpoiled_copier inside (by decide)) (startLocation_copier inside) rfl⟩
  tested := Setting.seesFile_eq_true_iff.2 ⟨by decide +revert, 0o644, ⟨#[1]⟩,
    status_copierTree false (.inl rfl) rfl⟩
  sound := not_isSpoiled_copier inside (by decide +revert)
  start := startLocation_copier inside
  source := ⟨0o644, status_copierTree inside (.inl rfl) (by cases inside <;> rfl)⟩
  target := locate_copierTree inside (.inr rfl)
    (show _ = some (Node.file 0o644 ⟨#[9]⟩) by cases inside <;> rfl)
  isOpen := (Option.all_eq_true _ _).1 (by cases inside <;> rfl)

/-- Without a directory of its own for the programs the build returns the copy. -/
theorem build_returns_copy :
    copier.IsConverter "cp" id ∧
      Convertible copierSetting (copierStep false) (Path.ofString "b") "true" [] "cp" copierTree
        copierTree [] ⟨#[1]⟩ (.entry ["b"]) ∧
      (((copierStep false).provider copierSetting (Path.ofString "b")).runOn
        (World.ofTree copierTree)).1 = .ok ⟨#[1]⟩ := by
  obtain ⟨-, halike⟩ := build_returns (s := copierSetting) (isConverter_copier "cp")
    (command_copierStep false) rfl (Path.ofString "b") (World.ofTree copierTree)
  obtain ⟨-, hbinary, hpath⟩ := halike _ _ _ _ (convertible_copier false)
  exact ⟨isConverter_copier "cp", convertible_copier false,
    (hbinary (hpath _ (.inr rfl))).2 (by decide)⟩

/-- With a directory of its own for the programs the build returns the older binary, although the
copier was run well and copied another one. -/
theorem build_returns_older :
    copier.IsConverter "cp" id ∧
      Convertible copierSetting (copierStep true) (Path.ofString "b") "true" [] "cp" copierTree
        copierTree ["w"] ⟨#[1]⟩ (.entry ["w", "b"]) ∧
      (((copierStep true).provider copierSetting (Path.ofString "b")).runOn
        (World.ofTree copierTree)).1 = .ok ⟨#[9]⟩ := by
  obtain ⟨mode, t₂, hput, hreading⟩ := (convertible_copier true).runOn_provider
    (w := World.ofTree copierTree) (isConverter_copier "cp") (command_copierStep true) rfl
  have hold : t₂.get? ["b"] = some (.file 0o644 ⟨#[9]⟩) := by
    rw [hput]
    rfl
  have hplace : t₂.locate [] true "b" = .ok (.entry ["b"]) :=
    locate_root ⟨by decide, by decide, by decide⟩ (by decide) hold (by simp)
  obtain ⟨log, hrun⟩ := hreading _ (.found (by decide) (status_eq_ok_iff.2 ⟨_, hplace, hold⟩))
  exact ⟨isConverter_copier "cp", convertible_copier true, congrArg (·.1) hrun⟩

end BuildStep

end NorFlash
