import NorFlash.Proofs.Configuration.Document
import NorFlash.Proofs.Path
import NorFlash.Proofs.Text.Reference

/-!
# What becomes of the names in a document

A configuration has the paths and the words of the command that its document has, with the names in
them replaced (`Configuration.Expands`); the converter alone is taken over as it stands. Where names
are left in these texts although no replacement can bring one, the document had only their
beginnings (`Configuration.load_expands`).
-/

namespace NorFlash

open Substitution (bindingsOf expand Named Unsigned Begins)
open Yaml (Document ObjectId)

/-! ## Places of a document -/

namespace Schema

variable {d : Document} {id key value : ObjectId} {path name : String} {schema sub : Schema}

/-- The schema for a key of a mapping. -/
def field? (schema : Schema) (name : String) : Option Schema :=
  match schema with
  | .map fields => (fields.find? (·.1.text == name)).map (·.2)
  | _ => none

/-- The schema for the place that keys lead to. -/
def at? (schema : Schema) (keys : List String) : Option Schema :=
  keys.foldlM field? schema

theorem allows_of_entryViolations {fields : List (FieldName × Schema)}
    {field : FieldName × Schema} (h : entryViolations d path key value fields = [])
    (hkey : d.isText name key = true)
    (hfind : fields.find? (·.1.text == name) = some field) : Allows field.2 d value := by
  induction fields with
  | nil => simp at hfind
  | cons first rest ih =>
    rw [entryViolations] at h
    by_cases hname : first.1.text = name
    · obtain rfl : first = field := by simpa [hname] using hfind
      rw [hname, if_pos hkey] at h
      split at h
      · simp at h
      · exact ⟨_, h⟩
    · have hother : d.isText first.1.text key = false := isText_eq_false hkey (Ne.symm hname)
      rw [if_neg (by simp [hother])] at h
      exact ih h (by simpa [hname] using hfind)

theorem Allows.field? (h : Allows schema d id) (hfield : schema.field? name = some sub)
    (hentry : d.entry? name id = some value) : Allows sub d value := by
  cases schema with
  | map fields =>
    obtain ⟨field, hfind, rfl⟩ := Option.map_eq_some_iff.1 hfield
    obtain ⟨path, entries, hobject, -, hvalid⟩ := h.map
    rw [entry?_eq hobject, Option.map_eq_some_iff] at hentry
    obtain ⟨entry, hentry, rfl⟩ := hentry
    have hkey := List.find?_some hentry
    exact allows_of_entryViolations (hvalid entry (List.mem_of_find?_eq_some hentry)) hkey hfind
  | text | integer | list => cases hfield

/-- **What stands at a place of an allowed document is what the schema allows for this place.** -/
theorem Allows.at? {keys : List String} (h : Allows schema d d.root)
    (hat : schema.at? keys = some sub) (hfollow : d.follow? keys = some id) :
    Allows sub d id := by
  rw [Document.follow?] at hfollow
  generalize d.root = start at h hfollow
  induction keys generalizing schema start with
  | nil =>
    obtain rfl := Option.some.inj hat
    obtain rfl := Option.some.inj hfollow
    exact h
  | cons key rest ih =>
    rw [Schema.at?, List.foldlM_cons] at hat
    rw [List.foldlM_cons] at hfollow
    obtain ⟨field, hfield, hat⟩ := Option.bind_eq_some_iff.1 hat
    obtain ⟨next, hnext, hfollow⟩ := Option.bind_eq_some_iff.1 hfollow
    exact ih hat next (h.field? hfield hnext) hfollow

end Schema

theorem Yaml.Document.follow?_concat (d : Document) (keys : List String) (key : String) :
    d.follow? (keys ++ [key]) = (d.follow? keys).bind (d.entry? key) := by
  rw [follow?, List.foldlM_append, follow?]
  cases keys.foldlM (fun id key => d.entry? key id) d.root with
  | none => rfl
  | some id =>
    simp only [Option.bind_eq_bind, Option.bind_some, List.foldlM_cons, List.foldlM_nil]
    cases d.entry? key id <;> rfl

namespace Configuration

variable {d : Document} {env : Substitution.Environment} {settings : Settings}
  {config : Configuration}

/-! ## Texts of a document with their names replaced -/

/-- A document has a text at the place that keys lead to. -/
def TextAt (d : Document) (keys : List String) (text : String) : Prop :=
  ∃ id, d.follow? keys = some id ∧ d.object id = .atom (.text text)

/-- A path is the one that a document has at a place, with the names in it replaced; there is none
where the document has nothing at the place. -/
def PathAt (d : Document) (env : Substitution.Environment) (keys : List String)
    (path : Option Path) : Prop :=
  ((∀ id, d.follow? keys = some id → d.object id = .atom .null) ∧ path = none) ∨
    ∃ text, TextAt d keys text ∧ path = some (Path.ofString (expand env text))

/-- A word of a command is a text with the names in it replaced. Where there are no names to
replace, what is no text passes for a missing word. -/
def WordOf (d : Document) (env : Substitution.Environment) (id : ObjectId)
    (word : Option String) : Prop :=
  (∃ text, d.object id = .atom (.text text) ∧ word = some (expand env text)) ∨
    (env = [] ∧ (∀ text, d.object id ≠ .atom (.text text)) ∧ word = none)

/-- The words of a command are the items of a list, one by one. -/
def CommandOf (d : Document) (env : Substitution.Environment) (id : ObjectId)
    (command : List (Option String)) : Prop :=
  (∃ items, d.object id = .list items ∧ List.Forall₂ (WordOf d env) items command) ∨
    (d.object id = .pairs [] ∧ command = [])

/-- Where a document has what it says about the way to build its artifact. -/
def buildKeys : List String := ["artifact", "build"]

/-- Where a document has the converter. -/
def converterKeys : List String := buildKeys ++ ["objcopy"]

/-- The converter is the text that a document has for it, as it stands there, and the default where
the document says nothing about it. -/
def ConverterOf (d : Document) (converter : Option String) : Prop :=
  match d.follow? converterKeys with
  | none => converter = some BuildStep.defaultObjcopy
  | some id =>
    (∃ text, d.object id = .atom (.text text) ∧ converter = some text) ∨
      (∀ text, d.object id ≠ .atom (.text text)) ∧ converter = none

/-- A way to build an artifact is the one that a document has, with the names replaced in its
command and its paths. -/
structure StepExpands (step : BuildStep) (d : Document) (env : Substitution.Environment) :
    Prop where
  /-- The words of the command. -/
  command : ∃ id, d.follow? (buildKeys ++ ["command"]) = some id ∧
    CommandOf d env id step.command
  /-- The linked program. -/
  result : PathAt d env (buildKeys ++ ["elf"]) (some step.result)
  /-- The directory that programs are started in. -/
  workDirectory : ∃ path, PathAt d env (buildKeys ++ ["workdir"]) path ∧
    step.workDirectory = path.map WorkDirectory.ofPath
  /-- The converter, in which nothing is replaced. -/
  converter : ConverterOf d step.objcopy

/-- A configuration has the paths of a document, with the names in them replaced, and its way to
build the artifact. -/
structure Expands (config : Configuration) (d : Document) (env : Substitution.Environment) :
    Prop where
  /-- The flat binary of the artifact. -/
  binary : PathAt d env ["artifact", "binary"] config.binary
  /-- The image to write. -/
  output : PathAt d env ["image", "output"] config.output
  /-- There is a way to build the artifact where the document has one. -/
  built : config.build.isSome = true ↔ ∃ id, d.follow? buildKeys = some id
  /-- It is the one of the document. -/
  step : ∀ step ∈ config.build, StepExpands step d env

/-! ## Values -/

theorem pathAt_of_mapM {keys : List String} {path : Option Path}
    (hallowed : ∀ id, d.follow? keys = some id → Schema.Allows .text d id)
    (h : ((d.follow? keys).bind (Settings.word? d)).mapM (pathIn env) = .ok path) :
    PathAt d env keys path := by
  cases hfollow : d.follow? keys with
  | none =>
    rw [hfollow] at h
    obtain rfl := Except.ok.inj h
    refine .inl ⟨?_, rfl⟩
    intro id hid
    rw [hfollow] at hid
    cases hid
  | some id =>
    rw [hfollow, Option.bind_some, Settings.word?, Document.atom?] at h
    rcases Schema.allows_text_iff.1 (hallowed id hfollow) with ⟨text, hobject⟩ | ⟨data, hobject⟩ |
      hobject
    · rw [hobject] at h
      obtain rfl := Except.ok.inj h
      exact .inr ⟨text, ⟨id, hfollow, hobject⟩, rfl⟩
    · rw [hobject] at h
      cases h
    · rw [hobject] at h
      obtain rfl := Except.ok.inj h
      refine .inl ⟨?_, rfl⟩
      intro other hother
      obtain rfl : id = other := Option.some.inj (hfollow.symm.trans hother)
      exact hobject

theorem word?_eq_text_iff {id : ObjectId} {text : String} :
    Settings.word? d id = some (.text text) ↔ d.object id = .atom (.text text) := by
  constructor
  · intro h
    rcases Settings.of_word? h with ⟨other, hobject, heq⟩ | ⟨data, -, heq⟩
    · rw [hobject, Word.text.inj heq]
    · cases heq
  · intro hobject
    rw [Settings.word?, Document.atom?, hobject]

theorem wordOf_of_wordIn {id : ObjectId} {word : Option String}
    (h : wordIn env (Settings.word? d id) = .ok word) : WordOf d env id word := by
  -- What is no text is no slip only where there is nothing to replace.
  have hempty : (∀ text, Settings.word? d id ≠ some (.text text)) → ∀ failure : Failure,
      (if env.isEmpty then .ok none else .error failure) = Except.ok word →
      WordOf d env id word := by
    intro hword failure h
    split at h
    · next henv =>
      refine .inr ⟨List.isEmpty_iff.1 henv, ?_, (Except.ok.inj h).symm⟩
      intro text hobject
      exact hword text (word?_eq_text_iff.2 hobject)
    · cases h
  match hword : Settings.word? d id with
  | some (.text text) =>
    rw [hword] at h
    obtain rfl := Except.ok.inj h
    exact .inl ⟨text, word?_eq_text_iff.1 hword, rfl⟩
  | some (.bytes data) =>
    rw [hword] at h
    exact hempty (by simp [hword]) _ h
  | none =>
    rw [hword] at h
    exact hempty (by simp [hword]) _ h

theorem forall₂_of_mapM_wordIn {items : List ObjectId} {command : List (Option String)}
    (h : (items.map (Settings.word? d)).mapM (wordIn env) = .ok command) :
    List.Forall₂ (WordOf d env) items command := by
  induction items generalizing command with
  | nil =>
    obtain rfl := Except.ok.inj h
    exact .nil
  | cons id rest ih =>
    rw [List.map_cons, List.mapM_cons] at h
    obtain ⟨word, hword, h⟩ := of_bind_eq_ok h
    obtain ⟨words, hwords, h⟩ := of_bind_eq_ok h
    obtain rfl := Except.ok.inj h
    exact .cons (wordOf_of_wordIn hword) (ih hwords)

theorem commandOf_of_words? {id : ObjectId} {words : List (Option Word)}
    {command : List (Option String)} (hwords : Settings.words? d id = some words)
    (h : words.mapM (wordIn env) = .ok command) : CommandOf d env id command := by
  rw [Settings.words?] at hwords
  split at hwords
  · next items hobject =>
    obtain rfl := Option.some.inj hwords
    exact .inl ⟨items, hobject, forall₂_of_mapM_wordIn h⟩
  · next hobject =>
    obtain rfl := Option.some.inj hwords
    exact .inr ⟨hobject, (Except.ok.inj h).symm⟩
  · cases hwords

theorem converterOf_converter (d : Document) :
    ConverterOf d (converter ((d.follow? converterKeys).map (Settings.word? d))) := by
  rw [ConverterOf]
  cases d.follow? converterKeys with
  | none => rfl
  | some id =>
    rw [Option.map_some]
    match hword : Settings.word? d id with
    | some (.text text) => exact .inl ⟨text, word?_eq_text_iff.1 hword, rfl⟩
    | some (.bytes data) =>
      refine .inr ⟨?_, rfl⟩
      intro text hobject
      simp [word?_eq_text_iff.2 hobject] at hword
    | none =>
      refine .inr ⟨?_, rfl⟩
      intro text hobject
      simp [word?_eq_text_iff.2 hobject] at hword

/-! ## Settings -/

/-- Where settings have their image and their artifact from. -/
theorem of_ofDocument?_paths (h : Settings.ofDocument? d = some settings) :
    settings.output = (d.follow? ["image", "output"]).bind (Settings.word? d) ∧
      settings.artifact.map (·.binary) =
        (d.follow? ["artifact", "binary"]).bind (Settings.word? d) ∧
      settings.artifact.bind (·.build) = (d.follow? buildKeys).bind (Settings.buildOf? d) := by
  simp only [Settings.ofDocument?_eq, Option.bind_eq_some_iff] at h
  obtain ⟨flash, -, artifact, hartifact, name, -, total, -, block, -, h⟩ := h
  obtain rfl := Option.some.inj h
  simp only [buildKeys, Document.follow?_two, Option.bind_assoc]
  refine ⟨rfl, ?_⟩
  rw [Settings.artifactIn?] at hartifact
  cases hentry : d.entry? "artifact" d.root with
  | none =>
    rw [hentry] at hartifact
    obtain rfl := Option.some.inj hartifact
    exact ⟨rfl, rfl⟩
  | some id =>
    rw [hentry] at hartifact
    obtain ⟨made, hmade, rfl⟩ := Option.map_eq_some_iff.1 hartifact
    simp only [Settings.artifactOf?, Option.bind_eq_bind, Option.bind_eq_some_iff] at hmade
    obtain ⟨binary, hbinary, hmade⟩ := hmade
    rw [Settings.wordAt?] at hbinary
    cases hbuild : d.entry? "build" id with
    | none =>
      rw [hbuild] at hmade
      obtain rfl := Option.some.inj hmade
      exact ⟨hbinary.symm, by simp [hbuild]⟩
    | some build =>
      rw [hbuild] at hmade
      obtain ⟨step, hstep, hmade⟩ := Option.bind_eq_some_iff.1 hmade
      obtain rfl := Option.some.inj hmade
      exact ⟨hbinary.symm, by simp [hbuild, hstep]⟩

/-- What the texts of a configuration are made of. -/
theorem of_ofSettings_paths (h : ofSettings env settings = .ok config) :
    settings.output.mapM (pathIn env) = .ok config.output ∧
      (settings.artifact.map (·.binary)).mapM (pathIn env) = .ok config.binary ∧
      (settings.artifact.bind (·.build)).mapM (buildIn env) = .ok config.build := by
  obtain ⟨build, hbuild, h⟩ := of_bind_eq_ok h
  obtain ⟨g, -, h⟩ := of_bind_eq_ok h
  obtain ⟨binary, hbinary, h⟩ := of_bind_eq_ok h
  obtain ⟨output, houtput, h⟩ := of_bind_eq_ok h
  obtain rfl := Except.ok.inj h
  exact ⟨houtput, hbinary, hbuild⟩

theorem stepExpands_of_buildIn {id : ObjectId} {b : BuildSettings} {step : BuildStep}
    (hallowed : Settings.schema.violations d = []) (hfollow : d.follow? buildKeys = some id)
    (hbuild : Settings.buildOf? d id = some b) (h : buildIn env b = .ok step) :
    StepExpands step d env := by
  have hplace : ∀ key, d.follow? (buildKeys ++ [key]) = d.entry? key id := by
    intro key
    rw [Document.follow?_concat, hfollow, Option.bind_some]
  have hroot : Schema.Allows Settings.schema d d.root := ⟨"", hallowed⟩
  simp only [Settings.buildOf?, Option.bind_eq_bind, Option.bind_eq_some_iff] at hbuild
  obtain ⟨words, ⟨commandId, hcommandId, hwords⟩, result, hresult, hbuild⟩ := hbuild
  obtain rfl := Option.some.inj hbuild
  obtain ⟨command, hcommand, h⟩ := of_bind_eq_ok h
  obtain ⟨linked, hlinked, h⟩ := of_bind_eq_ok h
  obtain ⟨directory, hdirectory, h⟩ := of_bind_eq_ok h
  obtain rfl := Except.ok.inj h
  refine ⟨⟨commandId, ?_, commandOf_of_words? hwords hcommand⟩, ?_, ⟨directory, ?_, rfl⟩, ?_⟩
  · rw [hplace, hcommandId]
  · have hword : (d.follow? (buildKeys ++ ["elf"])).bind (Settings.word? d) = some result := by
      rw [hplace]
      exact hresult
    refine pathAt_of_mapM (fun other hother => hroot.at? rfl hother) ?_
    rw [hword]
    simp only [Option.mapM_some]
    rw [hlinked]
    rfl
  · refine pathAt_of_mapM (fun other hother => hroot.at? rfl hother) ?_
    rw [hplace]
    exact hdirectory
  · have hconverter := converterOf_converter d
    rwa [converterKeys, hplace] at hconverter

/-- **A configuration of the settings in an allowed document has its texts with the names
replaced.** -/
theorem expands_of_ofSettings (hallowed : Settings.schema.violations d = [])
    (hsettings : Settings.ofDocument? d = some settings)
    (h : ofSettings env settings = .ok config) : config.Expands d env := by
  have hroot : Schema.Allows Settings.schema d d.root := ⟨"", hallowed⟩
  obtain ⟨houtputAt, hbinaryAt, hbuildAt⟩ := of_ofDocument?_paths hsettings
  obtain ⟨houtput, hbinary, hbuild⟩ := of_ofSettings_paths h
  refine ⟨?_, ?_, (reflects_of_ofSettings hallowed hsettings h).build, ?_⟩
  · refine pathAt_of_mapM (fun other hother => hroot.at? rfl hother) ?_
    rw [← hbinaryAt, hbinary]
  · refine pathAt_of_mapM (fun other hother => hroot.at? rfl hother) ?_
    rw [← houtputAt, houtput]
  · intro step hstep
    cases hb : settings.artifact.bind (·.build) with
    | none =>
      rw [hb] at hbuild
      rw [← Except.ok.inj hbuild] at hstep
      cases hstep
    | some b =>
      rw [hb] at hbuild hbuildAt
      obtain ⟨id, hfollow, hsettings⟩ := Option.bind_eq_some_iff.1 hbuildAt.symm
      obtain ⟨made, hmade, hbuild⟩ := of_bind_eq_ok hbuild
      rw [← Except.ok.inj hbuild] at hstep
      obtain rfl := Option.mem_some.1 hstep
      exact stepExpands_of_buildIn hallowed hfollow hsettings hmade

/-- The converter of a document is taken over as it stands. -/
theorem Expands.converter_kept (h : config.Expands d env) {text : String}
    (htext : TextAt d converterKeys text) : ∃ step ∈ config.build, step.objcopy = some text := by
  obtain ⟨id, hfollow, hobject⟩ := htext
  have hbuild : ∃ build, d.follow? buildKeys = some build := by
    rw [converterKeys, Document.follow?_concat] at hfollow
    obtain ⟨build, hbuild, -⟩ := Option.bind_eq_some_iff.1 hfollow
    exact ⟨build, hbuild⟩
  obtain ⟨step, hstep⟩ := Option.isSome_iff_exists.1 (h.built.2 hbuild)
  refine ⟨step, hstep, ?_⟩
  have hconverter := (h.step step hstep).converter
  rw [ConverterOf, hfollow] at hconverter
  rcases hconverter with ⟨other, hother, hsame⟩ | ⟨hnone, -⟩
  · rw [hobject] at hother
    cases hother
    exact hsame
  · exact absurd hobject (hnone text)

/-! ## Names that are left -/

/-- A text is what a path or a word of a command becomes where the names in it are replaced. -/
def IsExpansion (env : Substitution.Environment) (source text : String) : Prop :=
  text = expand env source ∨ text = (Path.ofString (expand env source)).render

/-- A name that is left has its beginning only in the text where the names were replaced: taking
what was put in for a path brings no name together either. -/
theorem IsExpansion.begins {source text : String} (h : IsExpansion env source text)
    (hnamed : Named (bindingsOf env)) (hunsigned : Unsigned (bindingsOf env))
    {binding : String × String} (hmem : binding ∈ env)
    (hleft : binding.1.toList <:+: text.toList) :
    Begins (bindingsOf env) source.toList binding.1.toList := by
  have hchars : (binding.1.toList, binding.2.toList) ∈ bindingsOf env := List.mem_map_of_mem hmem
  have hplain : binding.1.toList <:+: (expand env source).toList := by
    rcases h with rfl | rfl
    · exact hleft
    · obtain ⟨word, hword, -, hslash⟩ := hnamed _ hchars
      simp only at hword
      rw [hword] at hleft ⊢
      exact Path.infix_of_infix_render (by simp [hslash]) (by simp) (by simp) hleft
  rw [Substitution.toList_expand] at hplain
  exact Substitution.begins_of_infix_apply hnamed hunsigned hchars hplain

/-- The paths and words that a way to build an artifact is made of. -/
def stepTexts (step : BuildStep) : List String :=
  step.command.filterMap id ++ step.result.render :: step.objcopy.toList ++
    step.workDirectory.toList.map (·.text)

/-- The paths and the words of commands in a configuration. -/
def texts (config : Configuration) : List String :=
  config.binary.toList.map Path.render ++ config.output.toList.map Path.render ++
    config.build.toList.flatMap stepTexts

/-- A text comes from a text of the document in which the names were replaced, or it is the
converter. -/
def ComesFrom (d : Document) (env : Substitution.Environment) (text : String) : Prop :=
  (∃ id source, d.object id = .atom (.text source) ∧ IsExpansion env source text) ∨
    TextAt d converterKeys text ∨ text = BuildStep.defaultObjcopy

theorem PathAt.comesFrom {keys : List String} {path : Option Path} (h : PathAt d env keys path)
    {text : String} (hmem : text ∈ path.toList.map Path.render) : ComesFrom d env text := by
  rcases h with ⟨-, rfl⟩ | ⟨source, ⟨id, -, hobject⟩, rfl⟩
  · simp at hmem
  · obtain rfl : text = (Path.ofString (expand env source)).render := by simpa using hmem
    exact .inl ⟨id, source, hobject, .inr rfl⟩

theorem WordOf.comesFrom {items : List ObjectId} {command : List (Option String)}
    (h : List.Forall₂ (WordOf d env) items command) {text : String} (hmem : some text ∈ command) :
    ComesFrom d env text := by
  induction h with
  | nil => simp at hmem
  | @cons id word items command hword hrest ih =>
    rcases List.mem_cons.1 hmem with rfl | hmem
    · rcases hword with ⟨source, hobject, hsame⟩ | ⟨-, -, hnone⟩
      · exact .inl ⟨id, source, hobject, .inl (Option.some.inj hsame)⟩
      · cases hnone
    · exact ih hmem

theorem StepExpands.comesFrom {step : BuildStep} (h : StepExpands step d env) {text : String}
    (hmem : text ∈ stepTexts step) : ComesFrom d env text := by
  rw [stepTexts, List.mem_append, List.mem_append, List.mem_cons] at hmem
  rcases hmem with (hcommand | rfl | hconverter) | hdirectory
  · have hword : some text ∈ step.command := by simpa using hcommand
    obtain ⟨id, -, ⟨items, -, hwords⟩ | ⟨-, hnone⟩⟩ := h.command
    · exact WordOf.comesFrom hwords hword
    · simp [hnone] at hword
  · exact h.result.comesFrom (by simp)
  · have hconverter' : step.objcopy = some text := by simpa using hconverter
    have hfrom := h.converter
    rw [ConverterOf, hconverter'] at hfrom
    split at hfrom
    · exact .inr (.inr (Option.some.inj hfrom))
    · next id hfollow =>
      rcases hfrom with ⟨source, hobject, hsame⟩ | ⟨-, hnone⟩
      · obtain rfl := Option.some.inj hsame
        exact .inr (.inl ⟨id, hfollow, hobject⟩)
      · cases hnone
  · obtain ⟨path, hpath, hsame⟩ := h.workDirectory
    refine hpath.comesFrom ?_
    rw [hsame] at hdirectory
    cases path with
    | none => simp at hdirectory
    | some path => simpa [WorkDirectory.ofPath] using hdirectory

theorem Expands.comesFrom (h : config.Expands d env) {text : String} (hmem : text ∈ config.texts) :
    ComesFrom d env text := by
  rw [texts, List.mem_append, List.mem_append] at hmem
  rcases hmem with (hbinary | houtput) | hbuild
  · exact h.binary.comesFrom hbinary
  · exact h.output.comesFrom houtput
  · obtain ⟨step, hstep, htext⟩ := List.mem_flatMap.1 hbuild
    exact (h.step step (by simpa using hstep)).comesFrom htext

/-- Where replacing the names would leave the converter as it is, nothing in a configuration has a
name that the document did not have the beginning of only. -/
theorem Expands.begins (h : config.Expands d env) (hnamed : Named (bindingsOf env))
    (hunsigned : Unsigned (bindingsOf env)) {text : String} (hmem : text ∈ config.texts) :
    (TextAt d converterKeys text ∧ expand env text ≠ text) ∨
      ∀ binding ∈ env, binding.1.toList <:+: text.toList →
        ∃ id source, d.object id = .atom (.text source) ∧ IsExpansion env source text ∧
          Begins (bindingsOf env) source.toList binding.1.toList := by
  rcases h.comesFrom hmem with ⟨id, source, hobject, hfrom⟩ | ⟨id, hfollow, hobject⟩ | rfl
  · right
    intro binding hbinding hleft
    exact ⟨id, source, hobject, hfrom, hfrom.begins hnamed hunsigned hbinding hleft⟩
  · by_cases hsame : expand env text = text
    · right
      intro binding hbinding hleft
      have hfrom : IsExpansion env text text := .inl hsame.symm
      exact ⟨id, text, hobject, hfrom, hfrom.begins hnamed hunsigned hbinding hleft⟩
    · exact .inl ⟨⟨id, hfollow, hobject⟩, hsame⟩
  · right
    intro binding hbinding hleft
    exfalso
    obtain ⟨word, hword, -, -⟩ := hnamed _ (List.mem_map_of_mem hbinding)
    simp only at hword
    rw [hword] at hleft
    have hsign : '$' ∈ BuildStep.defaultObjcopy.toList := hleft.subset List.mem_cons_self
    exact absurd hsign (by decide)

/-! ## Loading -/

/-- **A configuration that is loaded has the texts of its document with the names replaced**, all
but the converter, for which this holds exactly if there is nothing in it to replace. A name that
is left in one of the other texts, where no replacement has a dollar sign, stands in the document
with its beginning only. -/
theorem load_expands {s : Setting} {path : Path} {w w' : World}
    (h : (load s path env).runOn w = (.ok config, w')) :
    ∃ content d, ((Action.readFile s path).runOn w).1 = .ok content ∧
      Document.read content = .ok d ∧ config.Expands d env ∧
      ((∀ text, TextAt d converterKeys text →
          ∃ step ∈ config.build, step.objcopy = some (expand env text)) ↔
        ∀ text, TextAt d converterKeys text → expand env text = text) ∧
      (Named (bindingsOf env) → Unsigned (bindingsOf env) → ∀ text ∈ config.texts,
        (TextAt d converterKeys text ∧ expand env text ≠ text) ∨
          ∀ binding ∈ env, binding.1.toList <:+: text.toList →
            ∃ id source, d.object id = .atom (.text source) ∧ IsExpansion env source text ∧
              Begins (bindingsOf env) source.toList binding.1.toList) := by
  rcases runOn_load_cases s path env w with ⟨settings, w₁, hsettings, hrun⟩ | ⟨-, fault, hrun⟩
  · obtain ⟨-, content, d, hcontent, hread, hallowed, hdocument⟩ := hsettings
    obtain ⟨hconfig, -⟩ := Action.of_runOn_ofExcept_ok (hrun.symm.trans h)
    have hexpands := expands_of_ofSettings hallowed hdocument hconfig
    refine ⟨content, d, hcontent, hread, hexpands, ⟨?_, ?_⟩, ?_⟩
    · intro hall text htext
      obtain ⟨step, hstep, hexpanded⟩ := hall text htext
      obtain ⟨other, hother, hplain⟩ := hexpands.converter_kept htext
      obtain rfl : step = other := Option.some.inj (hstep.symm.trans hother)
      exact Option.some.inj (hexpanded.symm.trans hplain)
    · intro hall text htext
      rw [hall text htext]
      exact hexpands.converter_kept htext
    · intro hnamed hunsigned text hmem
      exact hexpands.begins hnamed hunsigned hmem
  · rw [h] at hrun
    cases hrun

/-! ## A converter with a name in it -/

/-- A way to build an artifact with a converter, after the sizes of a small device. -/
def convertedText (objcopy : String) : String :=
  namedText "t" ++ "artifact:\n  binary: $ROOT/a.bin\n  build:\n    command: ['true']\n" ++
    "    elf: a.elf\n    objcopy: " ++ objcopy ++ "\n"

/-- Its settings. -/
def convertedSettings (objcopy : String) : Settings :=
  ⟨.text "t", 64, 16, none, some ⟨.text "$ROOT/a.bin", some ⟨[some (.text "true")], .text "a.elf",
    some (some (.text objcopy)), none⟩⟩, none⟩

/-- The configuration where the one name stands for `/r`. -/
def convertedConfiguration (objcopy : String) : Configuration :=
  ⟨.text "t", smallDevice, some (Path.ofString "/r/a.bin"),
    some ⟨[some "true"], Path.ofString "a.elf", some objcopy, none⟩, none⟩

/-- The environment with that name. -/
def rootOnly : Substitution.Environment := [("$ROOT", "/r")]

theorem runOn_load_converted {objcopy : String}
    (hsettings : settingsOf (convertedText objcopy).toUTF8 = .ok (convertedSettings objcopy)) :
    (load .atRoot (Path.ofString "c.yml") rootOnly).runOn
        (.ofTree (configTree (convertedText objcopy))) =
      (.ok (convertedConfiguration objcopy), .ofTree (configTree (convertedText objcopy))) := by
  have hsizes : Geometry.ofSizes 64 16 (some Geometry.defaultBase) = .ok smallDevice := rfl
  have hgeometry : geometryOf (convertedSettings objcopy) = .ok smallDevice := by
    rw [geometryOf, convertedSettings, Option.getD_none, hsizes]
    rfl
  have hbinary : expand rootOnly "$ROOT/a.bin" = "/r/a.bin" := by decide
  have hword : expand rootOnly "true" = "true" := by decide
  have hresult : expand rootOnly "a.elf" = "a.elf" := by decide
  have hconfig : ofSettings rootOnly (convertedSettings objcopy) =
      .ok (convertedConfiguration objcopy) := by
    rw [ofSettings, hgeometry]
    simp only [convertedSettings, Option.bind_some, Option.map_some, Option.mapM_some, buildIn,
      List.mapM_cons, wordIn, pathIn, hbinary, hword, hresult]
    rfl
  rw [runOn_load_configTree rootOnly hsettings, hconfig, Action.runOn_ofExcept_ok]

/-- The configuration with a converter that has no name in it is loaded with all its texts
replaced, and no name is left. -/
theorem load_expands_converted :
    ∃ w' content d,
      (load .atRoot (Path.ofString "c.yml") rootOnly).runOn
          (.ofTree (configTree (convertedText "oc"))) = (.ok (convertedConfiguration "oc"), w') ∧
      Document.read content = .ok d ∧ (convertedConfiguration "oc").Expands d rootOnly ∧
      ∀ text ∈ (convertedConfiguration "oc").texts,
        (TextAt d converterKeys text ∧ expand rootOnly text ≠ text) ∨
          ∀ binding ∈ rootOnly, binding.1.toList <:+: text.toList →
            ∃ id source, d.object id = .atom (.text source) ∧ IsExpansion rootOnly source text ∧
              Begins (bindingsOf rootOnly) source.toList binding.1.toList := by
  have hsettings : settingsOf (convertedText "oc").toUTF8 = .ok (convertedSettings "oc") := by
    decide +kernel
  have hrun := runOn_load_converted hsettings
  obtain ⟨content, d, -, hread, hexpands, -, hleft⟩ := load_expands hrun
  have hnamed : Named (bindingsOf rootOnly) :=
    Substitution.named_singleton_iff.2 ⟨"ROOT".toList, by decide, by decide, by decide⟩
  have hunsigned : Unsigned (bindingsOf rootOnly) := by
    intro binding hmem
    obtain rfl := List.mem_singleton.1 hmem
    decide
  exact ⟨_, content, d, hrun, hread, hexpands, hleft hnamed hunsigned⟩

theorem textAt_converter {b : BuildSettings} {text : String}
    (h : Settings.ofDocument? d = some settings) (hb : settings.artifact.bind (·.build) = some b)
    (hobjcopy : b.objcopy = some (some (.text text))) : TextAt d converterKeys text := by
  obtain ⟨-, -, hbuild⟩ := of_ofDocument?_paths h
  rw [hb] at hbuild
  obtain ⟨id, hfollow, hmade⟩ := Option.bind_eq_some_iff.1 hbuild.symm
  simp only [Settings.buildOf?, Option.bind_eq_bind, Option.bind_eq_some_iff] at hmade
  obtain ⟨words, -, result, -, hmade⟩ := hmade
  obtain rfl := Option.some.inj hmade
  obtain ⟨value, hentry, hword⟩ := Option.map_eq_some_iff.1 hobjcopy
  refine ⟨value, ?_, word?_eq_text_iff.1 hword⟩
  rw [converterKeys, Document.follow?_concat, hfollow, Option.bind_some, hentry]

/-- A name in the converter of a document is left where it stands. -/
theorem load_converter_not_expanded :
    ∃ w' d,
      (load .atRoot (Path.ofString "c.yml") rootOnly).runOn
          (.ofTree (configTree (convertedText "$ROOT/oc"))) =
        (.ok (convertedConfiguration "$ROOT/oc"), w') ∧
      Document.read (convertedText "$ROOT/oc").toUTF8 = .ok d ∧
      TextAt d converterKeys "$ROOT/oc" ∧
      ∀ step ∈ (convertedConfiguration "$ROOT/oc").build,
        step.objcopy ≠ some (expand rootOnly "$ROOT/oc") := by
  have hsettings :
      settingsOf (convertedText "$ROOT/oc").toUTF8 = .ok (convertedSettings "$ROOT/oc") := by
    decide +kernel
  obtain ⟨d, hread, -, hdocument⟩ := settingsOf_eq_ok_iff.1 hsettings
  refine ⟨_, d, runOn_load_converted hsettings, hread, textAt_converter hdocument rfl rfl, ?_⟩
  intro step hstep
  obtain rfl := Option.mem_some.1 hstep
  decide

end Configuration

end NorFlash
