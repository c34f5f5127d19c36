import NorFlash.Proofs.Configuration
import NorFlash.Proofs.Configuration.Settings

/-!
# How loading a configuration ends

Loading ends with a configuration or with the report that there is none to be used, unless the
document is one that the schema allows and its settings are not usable
(`Configuration.load_configured_iff`). The schema lets bytes pass for texts, nothing for the words
of a command, and integers of any length for the sizes of a device; what comes after it does not
expect them (`Settings.IsUsable`).
-/

namespace NorFlash

open Yaml (Document)

/-! ## Settings that can be used -/

/-- A word is a text. -/
def Word.IsText (word : Word) : Prop :=
  ∃ s, word = .text s

/-- The names in what a file says about a build can be replaced. -/
structure BuildSettings.IsUsable (env : Substitution.Environment) (b : BuildSettings) : Prop where
  /-- The words of the command are texts if there is anything to replace. -/
  command : ∀ word ∈ b.command, env.isEmpty = true ∨ ∃ s, word = some (.text s)
  /-- The linked program is named by a text. -/
  result : b.result.IsText
  /-- So is the directory, if there is one. -/
  workDirectory : ∀ word ∈ b.workDirectory, word.IsText

/-- The settings describe a configuration, or sizes that are those of no device and can be shown. -/
def Settings.IsUsable (env : Substitution.Environment) (s : Settings) : Prop :=
  (∀ b ∈ s.artifact.bind (·.build), b.IsUsable env) ∧
    match Geometry.ofSizes s.deviceSize s.blockSize
      (s.baseAddress.getD (some Geometry.defaultBase)) with
    | .error fault => ∀ value ∈ fault.values, Numeral.isWritable value.2 = true
    | .ok _ => (∀ word ∈ s.artifact.map (·.binary), word.IsText) ∧ ∀ word ∈ s.output, word.IsText

namespace Configuration

variable {env : Substitution.Environment}

/-! ## Computations that decide -/

/-- A text is needed where a document has none. -/
def IsTextSlip (failure : Failure) : Prop :=
  failure = .slip .nullText ∨ failure = .slip .noText

/-- A computation has a value exactly under a condition, and fails for want of a text otherwise. -/
def Decides {α : Type} (p : Prop) (x : Except Failure α) : Prop :=
  (p ∧ ∃ a, x = .ok a) ∨ (¬ p ∧ ∃ failure, IsTextSlip failure ∧ x = .error failure)

theorem Decides.bind {α β : Type} {p q : Prop} {x : Except Failure α} {f : α → Except Failure β}
    (hx : Decides p x) (hf : ∀ a, x = .ok a → Decides q (f a)) : Decides (p ∧ q) (x >>= f) := by
  rcases hx with ⟨hp, a, ha⟩ | ⟨hp, failure, hslip, hx⟩
  · rw [ha]
    rcases hf a ha with ⟨hq, hy⟩ | ⟨hq, hy⟩
    · exact .inl ⟨⟨hp, hq⟩, hy⟩
    · exact .inr ⟨fun h => hq h.2, hy⟩
  · exact .inr ⟨fun h => hp h.1, failure, hslip, by rw [hx]; rfl⟩

theorem decides_pure {α : Type} (a : α) : Decides True (pure a : Except Failure α) :=
  .inl ⟨trivial, a, rfl⟩

theorem Decides.congr {α : Type} {p q : Prop} {x : Except Failure α} (h : Decides p x)
    (hiff : p ↔ q) : Decides q x := by
  rwa [← propext hiff]

theorem Decides.list {α β : Type} {p : α → Prop} {f : α → Except Failure β}
    (h : ∀ a, Decides (p a) (f a)) (items : List α) :
    Decides (∀ a ∈ items, p a) (items.mapM f) := by
  induction items with
  | nil => exact .inl ⟨by simp, [], rfl⟩
  | cons a rest ih =>
    rw [List.mapM_cons]
    exact ((h a).bind fun b _ => ih.bind fun bs _ => decides_pure _).congr (by simp)

theorem Decides.option {α β : Type} {p : α → Prop} {f : α → Except Failure β}
    (h : ∀ a, Decides (p a) (f a)) (item : Option α) :
    Decides (∀ a ∈ item, p a) (item.mapM f) := by
  cases item with
  | none => exact .inl ⟨by simp, none, rfl⟩
  | some a => exact ((h a).bind fun b _ => decides_pure _).congr (by simp)

/-! ## Words and builds -/

theorem decides_pathIn (word : Word) : Decides word.IsText (pathIn env word) := by
  cases word with
  | text s => exact .inl ⟨⟨s, rfl⟩, _, rfl⟩
  | bytes data => exact .inr ⟨by simp [Word.IsText], _, .inr rfl, rfl⟩

theorem decides_wordIn (word : Option Word) :
    Decides (env.isEmpty = true ∨ ∃ s, word = some (.text s)) (wordIn env word) := by
  match word with
  | some (.text s) => exact .inl ⟨.inr ⟨s, rfl⟩, _, rfl⟩
  | some (.bytes data) =>
    by_cases henv : env.isEmpty = true
    · exact .inl ⟨.inl henv, none, by rw [wordIn, if_pos henv]⟩
    · exact .inr ⟨by simp [henv], _, .inr rfl, by rw [wordIn, if_neg henv]⟩
  | none =>
    by_cases henv : env.isEmpty = true
    · exact .inl ⟨.inl henv, none, by rw [wordIn, if_pos henv]⟩
    · exact .inr ⟨by simp [henv], _, .inl rfl, by rw [wordIn, if_neg henv]⟩

theorem decides_buildIn (b : BuildSettings) : Decides (b.IsUsable env) (buildIn env b) := by
  have hsteps : Decides ((∀ word ∈ b.command, env.isEmpty = true ∨ ∃ s, word = some (.text s)) ∧
      b.result.IsText ∧ (∀ word ∈ b.workDirectory, word.IsText) ∧ True) (buildIn env b) :=
    (Decides.list decides_wordIn b.command).bind fun _ _ =>
      (decides_pathIn b.result).bind fun _ _ =>
        (Decides.option decides_pathIn b.workDirectory).bind fun _ _ => decides_pure _
  exact hsteps.congr ⟨fun h => ⟨h.1, h.2.1, h.2.2.1⟩,
    fun h => ⟨h.command, h.result, h.workDirectory, trivial⟩⟩

/-! ## Settings -/

/-- A run ends with a value, or with the report that a configuration cannot be used. -/
def IsConfigured {α : Type} : Except Failure α → Prop
  | .ok _ => True
  | .error (.configuration _) => True
  | .error _ => False

/-- What is not expected where a configuration is loaded: a text that is none, or a number that is
too long to be shown. -/
def Escapes (failure : Failure) : Prop :=
  IsTextSlip failure ∨ failure = .longNumber

theorem IsTextSlip.worded {failure : Failure} (h : IsTextSlip failure) :
    failure.worded = failure := by
  rcases h with rfl | rfl <;> rfl

theorem not_isConfigured {α : Type} {failure : Failure} (h : Escapes failure) :
    ¬ IsConfigured (.error failure : Except Failure α) := by
  rcases h with (rfl | rfl) | rfl <;> exact id

theorem runOn_ofExcept_escaped {result : Except Failure Configuration} {failure : Failure}
    (h : IsTextSlip failure) (hresult : result = .error failure) (w : World) :
    ((Action.ofExcept id result).runOn w).1 = .error failure := by
  rw [hresult, Action.runOn_ofExcept_error, id, h.worded]

/-- Sizes that are those of no device are reported as they are if they can be shown. -/
theorem worded_geometry_cases (fault : GeometryFault) :
    let failure := Failure.configuration (.geometry fault)
    ((∀ value ∈ fault.values, Numeral.isWritable value.2 = true) ∧ failure.worded = failure) ∨
      ¬ (∀ value ∈ fault.values, Numeral.isWritable value.2 = true) ∧
        failure.worded = .longNumber := by
  have hall : (Failure.configuration (.geometry fault)).numbers.all Numeral.isWritable = true ↔
      ∀ value ∈ fault.values, Numeral.isWritable value.2 = true := by
    simp only [Failure.numbers, ConfigurationFault.values, List.all_map, List.all_eq_true,
      Function.comp_apply]
  dsimp only
  rw [← hall, Failure.worded]
  split
  · next h => exact .inl ⟨h, rfl⟩
  · next h => exact .inr ⟨h, rfl⟩

/-- What becomes of settings: a configuration or a report, or else one of the failures that are not
expected. The build comes first; the paths count only where the sizes are those of a device. -/
theorem ofSettings_cases (env : Substitution.Environment) (settings : Settings) (w : World) :
    let result := ((Action.ofExcept id (ofSettings env settings)).runOn w).1
    (settings.IsUsable env ∧ IsConfigured result) ∨
      ¬ settings.IsUsable env ∧ ∃ failure, Escapes failure ∧ result = .error failure := by
  dsimp only
  have hbuild : Decides (∀ b ∈ settings.artifact.bind (·.build), b.IsUsable env)
      ((settings.artifact.bind (·.build)).mapM (buildIn env)) :=
    Decides.option decides_buildIn _
  rcases hbuild with ⟨husable, build, hbuild⟩ | ⟨hnot, failure, hslip, hbuild⟩
  · cases hsizes : Geometry.ofSizes settings.deviceSize settings.blockSize
      (settings.baseAddress.getD (some Geometry.defaultBase)) with
    | error fault =>
      have hresult : ofSettings env settings = .error (.configuration (.geometry fault)) := by
        rw [ofSettings, hbuild, geometryOf, hsizes]
        rfl
      rw [Settings.IsUsable, hsizes, hresult, Action.runOn_ofExcept_error, id]
      rcases worded_geometry_cases fault with ⟨hshown, heq⟩ | ⟨hlong, heq⟩
      · exact .inl ⟨⟨husable, hshown⟩, by rw [heq]; trivial⟩
      · exact .inr ⟨fun h => hlong h.2, _, .inr rfl, by rw [heq]⟩
    | ok g =>
      have hpaths : Decides ((∀ word ∈ settings.artifact.map (·.binary), word.IsText) ∧
          (∀ word ∈ settings.output, word.IsText) ∧ True) (ofSettings env settings) := by
        rw [ofSettings, hbuild, geometryOf, hsizes]
        exact (Decides.option decides_pathIn _).bind fun _ _ =>
          (Decides.option decides_pathIn _).bind fun _ _ => decides_pure _
      rw [Settings.IsUsable, hsizes]
      rcases hpaths with ⟨h, config, hconfig⟩ | ⟨h, failure, hslip, hresult⟩
      · exact .inl ⟨⟨husable, h.1, h.2.1⟩, by rw [hconfig]; trivial⟩
      · exact .inr ⟨fun hbad => h ⟨hbad.2.1, hbad.2.2, trivial⟩, failure, .inl hslip,
          runOn_ofExcept_escaped hslip hresult w⟩
  · have hresult : ofSettings env settings = .error failure := by
      rw [ofSettings, hbuild]
      rfl
    exact .inr ⟨fun h => hnot h.1, failure, .inl hslip, runOn_ofExcept_escaped hslip hresult w⟩

/-! ## Documents -/

/-- The settings in the content of a file are those of a document that the schema allows. -/
theorem settingsOf_eq_ok_iff {content : ByteArray} {settings : Settings} :
    settingsOf content = .ok settings ↔
      ∃ d, Document.read content = .ok d ∧ Settings.schema.violations d = [] ∧
        Settings.ofDocument? d = some settings := by
  rw [settingsOf]
  cases hread : Document.read content with
  | error fault => simp
  | ok d =>
    simp only [Except.ok.injEq, exists_eq_left']
    split
    · next hnull =>
      -- Nothing is no mapping, so the schema does not allow it.
      refine ⟨by simp, fun ⟨hallowed, _⟩ => ?_⟩
      have hroot : Schema.Allows Settings.schema d d.root := ⟨"", hallowed⟩
      obtain ⟨path, entries, hobject, -⟩ := hroot.map
      simp [Document.isNull, hobject] at hnull
    · cases Settings.schema.violations d with
      | nil => cases Settings.ofDocument? d <;> simp
      | cons violation rest => simp

/-- The settings in a file: it can be read, and it holds a document that the schema allows. -/
def HasSettings (s : Setting) (path : Path) (w : World) (settings : Settings) : Prop :=
  s.schemaPresent = true ∧ ∃ content d, ((Action.readFile s path).runOn w).1 = .ok content ∧
    Document.read content = .ok d ∧ Settings.schema.violations d = [] ∧
    Settings.ofDocument? d = some settings

theorem runOn_readContent (s : Setting) (path : Path) (w : World) :
    (readContent s path).runOn w =
      match (Action.readFile s path).runOn w with
      | (.ok content, w') => (.ok (.ok content), w')
      | (.error failure, w') => (.ok (.error failure.message), w') := by
  rw [readContent, Action.runOn_bind_ok (Action.runOn_attempt _)]
  cases (Action.readFile s path).runOn w with
  | mk result w' => cases result <;> rfl

/-- Loading goes on with the settings in the file, or ends with a report where there are none. -/
theorem runOn_load_cases (s : Setting) (path : Path) (env : Substitution.Environment) (w : World) :
    (∃ settings w', HasSettings s path w settings ∧
        (load s path env).runOn w = (Action.ofExcept id (ofSettings env settings)).runOn w') ∨
      (∀ settings, ¬ HasSettings s path w settings) ∧
        ∃ fault, ((load s path env).runOn w).1 = .error (.configuration fault) := by
  cases hschema : s.schemaPresent with
  | false =>
    refine .inr ⟨fun settings h => ?_, .schemaMissing s.schema, ?_⟩
    · simp [HasSettings, hschema] at h
    · simp only [load, hschema, Bool.not_false, if_true]
      rfl
  | true =>
    have hrun := runOn_readContent s path w
    simp only [load, hschema, Bool.not_true, Bool.false_eq_true, if_false]
    cases hread : (Action.readFile s path).runOn w with
    | mk result w' =>
      rw [hread] at hrun
      cases result with
      | error failure =>
        refine .inr ⟨fun settings h => ?_, .invalid path s.schema failure.message, ?_⟩
        · obtain ⟨-, content, d, hcontent, -⟩ := h
          simp [hread] at hcontent
        · rw [Action.runOn_bind_ok hrun]
          rfl
      | ok content =>
        rw [Action.runOn_bind_ok hrun]
        dsimp only
        cases hsettings : settingsOf content with
        | ok settings =>
          obtain ⟨d, hd⟩ := settingsOf_eq_ok_iff.1 hsettings
          exact .inl ⟨settings, w', ⟨hschema, content, d, by rw [hread], hd⟩, rfl⟩
        | error reason =>
          refine .inr ⟨fun settings h => ?_, .invalid path s.schema reason, rfl⟩
          obtain ⟨-, other, d, hcontent, hd⟩ := h
          obtain rfl : content = other := by simpa [hread] using hcontent
          simp [settingsOf_eq_ok_iff.2 ⟨d, hd⟩] at hsettings

/-- There is at most one answer to what settings a file holds. -/
theorem HasSettings.unique {s : Setting} {path : Path} {w : World} {first second : Settings}
    (h : HasSettings s path w first) (h' : HasSettings s path w second) : first = second := by
  obtain ⟨-, content, d, hcontent, hd, -, hfirst⟩ := h
  obtain ⟨-, content', d', hcontent', hd', -, hsecond⟩ := h'
  obtain rfl : content = content' := Except.ok.inj (hcontent.symm.trans hcontent')
  obtain rfl : d = d' := Except.ok.inj (hd.symm.trans hd')
  exact Option.some.inj (hfirst.symm.trans hsecond)

/-- **How loading a configuration ends.** Each document that the schema allows has settings. Loading
ends with a configuration or with the report that there is none to be used, exactly if settings
that the file has are usable; otherwise a text is needed where there is none, or a number is too
long to be shown. -/
theorem load_configured_iff (s : Setting) (path : Path) (env : Substitution.Environment)
    (w : World) :
    let result := ((load s path env).runOn w).1
    (∀ d, Settings.schema.violations d = [] →
      ∃ settings, Settings.ofDocument? d = some settings) ∧
    (IsConfigured result ↔
      ∀ settings, HasSettings s path w settings → settings.IsUsable env) ∧
    (¬ IsConfigured result → ∃ failure, Escapes failure ∧ result = .error failure) := by
  refine ⟨fun d => Settings.exists_ofDocument?, ?_⟩
  rcases runOn_load_cases s path env w with ⟨settings, w', hsettings, hrun⟩ | ⟨hnone, fault, hrun⟩
  · rw [hrun]
    rcases ofSettings_cases env settings w' with ⟨husable, hend⟩ | ⟨hnot, failure, hescapes, hend⟩
    · exact ⟨⟨fun _ other hother => hsettings.unique hother ▸ husable, fun _ => hend⟩,
        fun hbad => absurd hend hbad⟩
    · have hbad : ¬ IsConfigured ((Action.ofExcept id (ofSettings env settings)).runOn w').1 := by
        rw [hend]
        exact not_isConfigured hescapes
      exact ⟨⟨fun h => absurd h hbad, fun h => absurd (h settings hsettings) hnot⟩,
        fun _ => ⟨failure, hescapes, hend⟩⟩
  · rw [hrun]
    exact ⟨⟨fun _ settings hsettings => absurd hsettings (hnone settings), fun _ => trivial⟩,
      fun hbad => absurd trivial hbad⟩

/-! ## A document that is allowed and cannot be used -/

/-- A configuration whose command has a word without a text. -/
def wordlessText : String :=
  "name: t\nflash:\n  device_size: 64\n  block_size: 16\nartifact:\n  binary: a.bin\n  build:\n"
    ++ "    command: [~]\n    elf: a.elf\n"

/-- The configuration in a file. -/
def wordlessTree : FileTree :=
  ⟨[(["c.yml"], .file 0o644 wordlessText.toUTF8)]⟩

/-- A word without a text ends the loading with a failure that is no report. -/
theorem load_wordless :
    let result := ((load .atRoot (Path.ofString "c.yml") [("$ROOT", "/r")]).runOn
      (.ofTree wordlessTree)).1
    result = .error (.slip .nullText) ∧ ¬ IsConfigured result := by
  have htext : (Path.ofString "c.yml").render = "c.yml" := by decide
  have hlocate : wordlessTree.locate [] true "c.yml" = .ok (.entry ["c.yml"]) :=
    FileTree.locate_root ⟨by decide, by decide, by decide⟩ (by decide) rfl (by simp)
  have hfile : (World.ofTree wordlessTree).tree.status Setting.atRoot.directory
      (Path.ofString "c.yml").render = .ok (.file 0o644 wordlessText.toUTF8) := by
    rw [htext]
    exact FileTree.status_eq_ok_iff.2 ⟨_, hlocate, rfl⟩
  have hsettings : settingsOf wordlessText.toUTF8 =
      .ok ⟨.text "t", 64, 16, none,
        some ⟨.text "a.bin", some ⟨[none], .text "a.elf", none, none⟩⟩, none⟩ := by
    decide +kernel
  have hresult : ((load .atRoot (Path.ofString "c.yml") [("$ROOT", "/r")]).runOn
      (.ofTree wordlessTree)).1 = .error (.slip .nullText) := by
    rw [runOn_load rfl (by decide) hfile hsettings]
    rfl
  dsimp only
  rw [hresult]
  exact ⟨rfl, not_isConfigured (.inl (.inl rfl))⟩

end Configuration

end NorFlash
