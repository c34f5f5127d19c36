import NorFlash.Configuration.Basic
import NorFlash.Proofs.Action
import NorFlash.Proofs.FileTree.Locate
import NorFlash.Proofs.ImageFile
import NorFlash.Proofs.Path

/-!
# Reading configurations

Reading a configuration only reads files (`Configuration.readsFiles_load`), and the output that it
names was read from a text, as all paths of a configuration are (`Configuration.isProper_of_load`).
`Configuration.runOn_load` tells what is read from a file that is there.
-/

namespace NorFlash.Configuration

variable {s : Setting} {path : Path} {env : Substitution.Environment} {w : World}

theorem readsFiles_readContent (s : Setting) (path : Path) :
    Action.ReadsFiles (readContent s path) := by
  refine (Action.readsFiles_readFile s path).attempt.bind fun content => ?_
  split
  · exact Action.readsFiles_pure _
  · exact Action.readsFiles_pure _

/-- Reading a configuration only reads files. -/
theorem readsFiles_load (s : Setting) (path : Path) (env : Substitution.Environment) :
    Action.ReadsFiles (load s path env) := by
  unfold load
  split
  · exact Action.readsFiles_throw _
  · refine (readsFiles_readContent s path).bind fun content => ?_
    split
    · exact Action.readsFiles_throw _
    · split
      · exact Action.readsFiles_throw _
      · exact Action.readsFiles_ofExcept _ _

theorem isProper_of_pathIn {env : Substitution.Environment} {word : Word} {path : Path}
    (h : pathIn env word = .ok path) : path.IsProper := by
  cases word with
  | text s =>
    obtain rfl := Except.ok.inj h
    exact Path.isProper_ofString _
  | bytes data => simp [pathIn] at h

/-- The output that a configuration names is read from a text. -/
theorem isProper_of_ofSettings {env : Substitution.Environment} {settings : Settings}
    {config : Configuration} (h : ofSettings env settings = .ok config) :
    ∀ path ∈ config.output, path.IsProper := by
  obtain ⟨build, -, h⟩ := of_bind_eq_ok h
  obtain ⟨g, -, h⟩ := of_bind_eq_ok h
  obtain ⟨binary, -, h⟩ := of_bind_eq_ok h
  obtain ⟨output, houtput, h⟩ := of_bind_eq_ok h
  obtain rfl := Except.ok.inj h
  intro path hpath
  cases hword : settings.output with
  | none =>
    rw [hword] at houtput
    obtain rfl := Except.ok.inj houtput
    simp at hpath
  | some word =>
    rw [hword] at houtput
    obtain ⟨found, hfound, houtput⟩ := of_bind_eq_ok houtput
    obtain rfl := Except.ok.inj houtput
    obtain rfl := Option.mem_some.1 hpath
    exact isProper_of_pathIn hfound

theorem isProper_of_load {config : Configuration} {w' : World}
    (h : (load s path env).runOn w = (.ok config, w')) : ∀ p ∈ config.output, p.IsProper := by
  unfold load at h
  split at h
  · simp at h
  · obtain ⟨content, w₁, -, h⟩ := Action.of_runOn_bind_ok h
    split at h
    · simp at h
    · split at h
      · simp at h
      · obtain ⟨hconfig, -⟩ := Action.of_runOn_ofExcept_ok h
        exact isProper_of_ofSettings hconfig

/-- What is read from a file is what its settings describe. -/
theorem runOn_load {mode : Nat} {content : ByteArray} {settings : Settings}
    (hschema : s.schemaPresent = true) (hnull : Action.hasNull path.render = false)
    (hfile : w.tree.status s.directory path.render = .ok (.file mode content))
    (hsettings : settingsOf content = .ok settings) :
    (load s path env).runOn w =
      (Action.ofExcept id (ofSettings env settings)).runOn w := by
  have hread : (readContent s path).runOn w = (.ok (.ok content), w) := by
    have hattempt : (Action.attempt (Action.readFile s path)).runOn w = (.ok (.ok content), w) := by
      rw [Action.runOn_attempt, Image.runOn_readFile hnull hfile]
    rw [readContent, Action.runOn_bind_ok hattempt]
    rfl
  simp only [load, hschema, Bool.not_true, Bool.false_eq_true, if_false]
  rw [Action.runOn_bind_ok hread]
  simp only [hsettings]

end NorFlash.Configuration
