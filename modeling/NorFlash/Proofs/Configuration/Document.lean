import NorFlash.Proofs.Configuration.Load
import NorFlash.Proofs.Image
import NorFlash.Proofs.Schema.Shape

/-!
# Configurations and their documents

A configuration that was loaded says what its document says (`Configuration.load_sound`): the
document has the shape of the schema, the sizes are those of the device as they are written, the
address is the one that is written or the default where none is, and there is a build where the
document has one. The name is that of the document too, but the document may hold bytes there,
which the schema lets pass for a text.
-/

namespace NorFlash

open Yaml (Document ObjectId)

/-- The object that keys lead to from the root of a document. -/
def Yaml.Document.follow? (d : Document) (keys : List String) : Option ObjectId :=
  keys.foldlM (fun id key => d.entry? key id) d.root

theorem Yaml.Document.follow?_one (d : Document) (key : String) :
    d.follow? [key] = d.entry? key d.root := by
  rw [follow?, List.foldlM_cons]
  cases d.entry? key d.root <;> rfl

theorem Yaml.Document.follow?_two (d : Document) (first second : String) :
    d.follow? [first, second] = (d.entry? first d.root).bind (d.entry? second) := by
  rw [follow?, List.foldlM_cons]
  cases d.entry? first d.root with
  | none => rfl
  | some id =>
    simp only [List.foldlM_cons, List.foldlM_nil, Option.bind_eq_bind, Option.bind_some]
    cases d.entry? second id <;> rfl

namespace Configuration

variable {d : Document} {config : Configuration} {env : Substitution.Environment}
  {settings : Settings}

/-- A configuration says what a document says. -/
structure Reflects (config : Configuration) (d : Document) : Prop where
  /-- Each mapping of the document has only keys that the schema names at its place. -/
  shaped : Schema.Shaped d Settings.schema d.root
  /-- The name is the text, or the bytes, that the document has for it. -/
  name : ∃ id, d.follow? ["name"] = some id ∧
    ((∃ s, d.object id = .atom (.text s) ∧ config.name = .text s) ∨
      ∃ data, d.object id = .atom (.binary data) ∧ config.name = .bytes data)
  /-- The bytes of the device are an integer of the document. -/
  total : ∃ id, d.follow? ["flash", "device_size"] = some id ∧
    d.object id = .atom (.integer config.geometry.totalSize)
  /-- So are the bytes of a block. -/
  block : ∃ id, d.follow? ["flash", "block_size"] = some id ∧
    d.object id = .atom (.integer config.geometry.blockSize)
  /-- A block is not empty. -/
  positive : 1 ≤ config.geometry.blockSize
  /-- The device is made of whole blocks. -/
  whole : config.geometry.blockSize ∣ config.geometry.totalSize
  /-- There are two blocks at least. -/
  two : 2 * config.geometry.blockSize ≤ config.geometry.totalSize
  /-- The address is the default where the document has none; otherwise it is the one that the
  document has, or none where the document says so. -/
  base : match d.follow? ["flash", "base_address"] with
    | none => config.geometry.baseAddress = some Geometry.defaultBase
    | some id =>
      (d.object id = .atom .null ∧ config.geometry.baseAddress = none) ∨
        ∃ i, d.object id = .atom (.integer i) ∧ 0 ≤ i ∧ config.geometry.baseAddress = some i
  /-- There is a build where the artifact of the document has one. -/
  build : config.build.isSome = true ↔ ∃ id, d.follow? ["artifact", "build"] = some id

/-- The address is the default exactly where the document has none or has that one. -/
theorem Reflects.base_eq_default_iff (h : config.Reflects d) :
    config.geometry.baseAddress = some Geometry.defaultBase ↔
      ∀ id, d.follow? ["flash", "base_address"] = some id →
        d.object id = .atom (.integer Geometry.defaultBase) := by
  have hbase := h.base
  cases hfollow : d.follow? ["flash", "base_address"] with
  | none =>
    rw [hfollow] at hbase
    simp [hbase]
  | some id =>
    rw [hfollow] at hbase
    rcases hbase with ⟨hobject, hnone⟩ | ⟨i, hobject, -, hsome⟩
    · simp [hobject, hnone]
    · simp [hobject, hsome]

/-! ## From settings -/

/-- What a configuration takes over from settings. -/
theorem of_ofSettings (h : ofSettings env settings = .ok config) :
    config.name = settings.name ∧ (config.geometry.totalSize : Int) = settings.deviceSize ∧
      (config.geometry.blockSize : Int) = settings.blockSize ∧
      config.geometry.baseAddress = settings.baseAddress.getD (some Geometry.defaultBase) ∧
      (config.build.isSome = true ↔ (settings.artifact.bind (·.build)).isSome = true) := by
  obtain ⟨build, hbuild, h⟩ := of_bind_eq_ok h
  obtain ⟨g, hg, h⟩ := of_bind_eq_ok h
  obtain ⟨binary, -, h⟩ := of_bind_eq_ok h
  obtain ⟨output, -, h⟩ := of_bind_eq_ok h
  obtain rfl := Except.ok.inj h
  have hsizes : Geometry.ofSizes settings.deviceSize settings.blockSize
      (settings.baseAddress.getD (some Geometry.defaultBase)) = .ok g := by
    rw [geometryOf] at hg
    cases hs : Geometry.ofSizes settings.deviceSize settings.blockSize
        (settings.baseAddress.getD (some Geometry.defaultBase)) with
    | error fault =>
      rw [hs] at hg
      cases hg
    | ok g' =>
      rw [hs] at hg
      exact congrArg Except.ok (Except.ok.inj hg)
  obtain ⟨htotal, hblock, hbase⟩ := Geometry.of_ofSizes hsizes
  refine ⟨rfl, htotal, hblock, hbase, ?_⟩
  cases hstep : settings.artifact.bind (·.build) with
  | none =>
    rw [hstep] at hbuild
    obtain rfl := Except.ok.inj hbuild
    rfl
  | some step =>
    rw [hstep] at hbuild
    obtain ⟨made, -, hbuild⟩ := of_bind_eq_ok hbuild
    obtain rfl := Except.ok.inj hbuild
    rfl

end Configuration

/-! ## From a document -/

namespace Settings

variable {d : Document} {id : ObjectId} {settings : Settings}

theorem of_word? {word : Word} (h : word? d id = some word) :
    (∃ s, d.object id = .atom (.text s) ∧ word = .text s) ∨
      ∃ data, d.object id = .atom (.binary data) ∧ word = .bytes data := by
  rw [word?, Document.atom?] at h
  cases hobject : d.object id with
  | atom a => cases a <;> simp_all
  | _ => simp [hobject] at h

theorem of_integer? {i : Int} (h : integer? d id = some i) :
    d.object id = .atom (.integer i) := by
  rw [integer?, Document.atom?] at h
  cases hobject : d.object id with
  | atom a => cases a <;> simp_all
  | _ => simp [hobject] at h

/-- What a document says about its artifact, if it says anything about one. -/
def artifactIn? (d : Document) : Option (Option ArtifactSettings) :=
  match d.entry? "artifact" d.root with
  | none => some none
  | some id => (artifactOf? d id).map some

/-- Settings are taken from a document one after the other. -/
theorem ofDocument?_eq (d : Document) :
    ofDocument? d =
      (d.entry? "flash" d.root).bind fun flash =>
        (artifactIn? d).bind fun artifact =>
          (wordAt? d "name" d.root).bind fun name =>
            ((d.entry? "device_size" flash).bind (integer? d)).bind fun deviceSize =>
              ((d.entry? "block_size" flash).bind (integer? d)).bind fun blockSize =>
                some ⟨name, deviceSize, blockSize,
                  (d.entry? "base_address" flash).map (integer? d), artifact,
                  (d.entry? "image" d.root).bind (wordAt? d "output")⟩ := by
  rw [ofDocument?, artifactIn?]
  cases d.entry? "flash" d.root with
  | none => rfl
  | some flash => cases d.entry? "artifact" d.root <;> rfl

theorem build_of_artifactOf? {artifact : ArtifactSettings} (h : artifactOf? d id = some artifact) :
    artifact.build.isSome = true ↔ ∃ build, d.entry? "build" id = some build := by
  rw [artifactOf?] at h
  cases hentry : d.entry? "build" id with
  | none =>
    simp only [hentry, Option.bind_eq_bind, Option.bind_eq_some_iff] at h
    obtain ⟨binary, -, h⟩ := h
    obtain rfl := Option.some.inj h
    simp
  | some build =>
    simp only [hentry, Option.bind_eq_bind, Option.bind_eq_some_iff] at h
    obtain ⟨binary, -, made, -, h⟩ := h
    obtain rfl := Option.some.inj h
    simp

/-- What settings take over from a document. -/
theorem of_ofDocument? (h : ofDocument? d = some settings) :
    (∃ id, d.follow? ["name"] = some id ∧ word? d id = some settings.name) ∧
      (∃ id, d.follow? ["flash", "device_size"] = some id ∧
        integer? d id = some settings.deviceSize) ∧
      (∃ id, d.follow? ["flash", "block_size"] = some id ∧
        integer? d id = some settings.blockSize) ∧
      settings.baseAddress = (d.follow? ["flash", "base_address"]).map (integer? d) ∧
      ((settings.artifact.bind (·.build)).isSome = true ↔
        ∃ id, d.follow? ["artifact", "build"] = some id) := by
  simp only [ofDocument?_eq, Option.bind_eq_some_iff, wordAt?] at h
  obtain ⟨flash, hflash, artifact, hartifact, name, ⟨nameId, hname, hword⟩, total,
    ⟨totalId, htotal, htotalValue⟩, block, ⟨blockId, hblock, hblockValue⟩, h⟩ := h
  obtain rfl := Option.some.inj h
  simp only [Document.follow?_one, Document.follow?_two, hflash, Option.bind_some]
  refine ⟨⟨nameId, hname, hword⟩, ⟨totalId, htotal, htotalValue⟩, ⟨blockId, hblock, hblockValue⟩,
    trivial, ?_⟩
  rw [artifactIn?] at hartifact
  cases hentry : d.entry? "artifact" d.root with
  | none =>
    rw [hentry] at hartifact
    obtain rfl := Option.some.inj hartifact
    simp
  | some id =>
    rw [hentry] at hartifact
    obtain ⟨made, hmade, rfl⟩ := Option.map_eq_some_iff.1 hartifact
    exact build_of_artifactOf? hmade

end Settings

namespace Configuration

variable {s : Setting} {path : Path} {env : Substitution.Environment} {w w' : World}
  {config : Configuration} {d : Document} {settings : Settings}

/-- The address in an allowed document is none or an integer that is not negative. -/
theorem base_of_allowed {id : ObjectId} (hallowed : Settings.schema.violations d = [])
    (hbase : d.follow? ["flash", "base_address"] = some id) :
    d.object id = .atom .null ∨ ∃ i, d.object id = .atom (.integer i) ∧ 0 ≤ i := by
  have hroot : Schema.Allows Settings.schema d d.root := ⟨"", hallowed⟩
  obtain ⟨flash, hflash, -, hdevice⟩ :=
    Settings.exists_required hroot (by decide) (.tail _ (.head _))
  rw [Document.follow?_two, hflash, Option.bind_some] at hbase
  exact (hdevice.entry (by decide) (.tail _ (.tail _ (.head _))) hbase).2.integer

/-- A configuration of the settings in an allowed document says what the document says. -/
theorem reflects_of_ofSettings (hallowed : Settings.schema.violations d = [])
    (hsettings : Settings.ofDocument? d = some settings)
    (h : ofSettings env settings = .ok config) : config.Reflects d := by
  obtain ⟨⟨nameId, hname, hword⟩, ⟨totalId, htotal, htotalValue⟩, ⟨blockId, hblock, hblockValue⟩,
    hbase, hbuild⟩ := Settings.of_ofDocument? hsettings
  obtain ⟨hsameName, hsameTotal, hsameBlock, hsameBase, hsameBuild⟩ := of_ofSettings h
  refine ⟨Schema.Allows.shaped ⟨"", hallowed⟩, ⟨nameId, hname, ?_⟩, ⟨totalId, htotal, ?_⟩,
    ⟨blockId, hblock, ?_⟩, config.geometry.blockSize_pos, Nat.dvd_mul_left _ _,
    Nat.mul_le_mul_right _ config.geometry.two_le_blockCount, ?_, hsameBuild.trans hbuild⟩
  · rw [hsameName]
    exact Settings.of_word? hword
  · rw [hsameTotal]
    exact Settings.of_integer? htotalValue
  · rw [hsameBlock]
    exact Settings.of_integer? hblockValue
  · cases hfollow : d.follow? ["flash", "base_address"] with
    | none =>
      rw [hsameBase, hbase, hfollow]
      rfl
    | some id =>
      rw [hsameBase, hbase, hfollow]
      rcases base_of_allowed hallowed hfollow with hobject | ⟨i, hobject, hle⟩
      · exact .inl ⟨hobject, by simp [Settings.integer?, Document.atom?, hobject]⟩
      · exact .inr ⟨i, hobject, hle, by simp [Settings.integer?, Document.atom?, hobject]⟩

/-- **A configuration that is loaded says what its document says.** The file was read, its document
has the shape of the schema at every level, and the sizes, the address and the build are those of
the document. The name is a text exactly if the document has a text for it. -/
theorem load_sound (h : (load s path env).runOn w = (.ok config, w')) :
    ∃ content d, ((Action.readFile s path).runOn w).1 = .ok content ∧
      Document.read content = .ok d ∧ config.Reflects d ∧
      (config.geometry.baseAddress = some Geometry.defaultBase ↔
        ∀ id, d.follow? ["flash", "base_address"] = some id →
          d.object id = .atom (.integer Geometry.defaultBase)) ∧
      (config.name.IsText ↔
        ∃ id s, d.follow? ["name"] = some id ∧ d.object id = .atom (.text s)) := by
  rcases runOn_load_cases s path env w with ⟨settings, w₁, hsettings, hrun⟩ | ⟨-, fault, hrun⟩
  · obtain ⟨-, content, d, hcontent, hread, hallowed, hdocument⟩ := hsettings
    obtain ⟨hconfig, -⟩ := Action.of_runOn_ofExcept_ok (hrun.symm.trans h)
    have hreflects := reflects_of_ofSettings hallowed hdocument hconfig
    refine ⟨content, d, hcontent, hread, hreflects, hreflects.base_eq_default_iff, ?_⟩
    obtain ⟨id, hid, ⟨s, hobject, hname⟩ | ⟨data, hobject, hname⟩⟩ := hreflects.name
    · exact ⟨fun _ => ⟨id, s, hid, hobject⟩, fun _ => ⟨s, hname⟩⟩
    · constructor
      · rintro ⟨s, hs⟩
        rw [hname] at hs
        cases hs
      · rintro ⟨other, s, hother, hs⟩
        obtain rfl : id = other := Option.some.inj (hid.symm.trans hother)
        rw [hobject] at hs
        cases hs
  · rw [h] at hrun
    cases hrun

/-! ## A name of bytes -/

/-- A configuration in a file of its own. -/
def configTree (text : String) : FileTree :=
  ⟨[(["c.yml"], .file 0o644 text.toUTF8)]⟩

/-- What is loaded from a file is what its settings describe. -/
theorem runOn_load_configTree (env : Substitution.Environment) {text : String}
    (hsettings : settingsOf text.toUTF8 = .ok settings) :
    ((load .atRoot (Path.ofString "c.yml") env).runOn (.ofTree (configTree text))) =
      (Action.ofExcept id (ofSettings env settings)).runOn (.ofTree (configTree text)) := by
  have htext : (Path.ofString "c.yml").render = "c.yml" := by decide
  have hlocate : (configTree text).locate [] true "c.yml" = .ok (.entry ["c.yml"]) :=
    FileTree.locate_root ⟨by decide, by decide, by decide⟩ (by decide) rfl (by simp)
  have hfile : (World.ofTree (configTree text)).tree.status Setting.atRoot.directory
      (Path.ofString "c.yml").render = .ok (.file 0o644 text.toUTF8) := by
    rw [htext]
    exact FileTree.status_eq_ok_iff.2 ⟨_, hlocate, rfl⟩
  exact runOn_load rfl (by decide) hfile hsettings

/-- The sizes of a small device after a name. -/
def namedText (name : String) : String :=
  "name: " ++ name ++ "\nflash:\n  device_size: 64\n  block_size: 16\n"

/-- The configuration of the small device with a name. -/
def namedConfiguration (name : Word) : Configuration :=
  ⟨name, smallDevice, none, none, none⟩

/-- A configuration of the small device says what its document says. -/
theorem load_sound_small :
    ∃ w' content d,
      (load .atRoot (Path.ofString "c.yml") []).runOn (.ofTree (configTree (namedText "t"))) =
        (.ok (namedConfiguration (.text "t")), w') ∧
      Document.read content = .ok d ∧ (namedConfiguration (.text "t")).Reflects d := by
  have hsettings : settingsOf (namedText "t").toUTF8 =
      .ok ⟨.text "t", 64, 16, none, none, none⟩ := by
    decide +kernel
  have hrun : (load .atRoot (Path.ofString "c.yml") []).runOn
      (.ofTree (configTree (namedText "t"))) = (.ok (namedConfiguration (.text "t")), _) :=
    runOn_load_configTree [] hsettings
  obtain ⟨content, d, -, hread, hreflects, -⟩ := load_sound hrun
  exact ⟨_, content, d, hrun, hread, hreflects⟩

/-- Bytes pass for the name of a configuration and become its name. -/
theorem load_bytes_name :
    ∃ w', (load .atRoot (Path.ofString "c.yml") []).runOn
        (.ofTree (configTree (namedText "!!binary aGk="))) =
      (.ok (namedConfiguration (.bytes [0x68, 0x69])), w') ∧
    ¬ (namedConfiguration (.bytes [0x68, 0x69])).name.IsText := by
  have hsettings : settingsOf (namedText "!!binary aGk=").toUTF8 =
      .ok ⟨.bytes [0x68, 0x69], 64, 16, none, none, none⟩ := by
    decide +kernel
  refine ⟨_, runOn_load_configTree [] hsettings, ?_⟩
  rintro ⟨s, hs⟩
  cases hs

end Configuration

end NorFlash
