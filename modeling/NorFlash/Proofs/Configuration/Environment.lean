import NorFlash.Proofs.Configuration.Load

/-!
# A configuration in two environments

The environment of a configuration names directories, so it has a bearing on the paths and commands
of a configuration but on nothing else: in any two environments a configuration is loaded with the
same device, or not loaded for the same reason (`Configuration.agreeOn_load`). This is derived along
the reading of the settings, as an agreement of two computations in what matters of their values
(`AgreeOn`).
-/

namespace NorFlash

/-! ## Computations that agree -/

section

variable {ε α β γ δ : Type}

/-- Two computations agree in a part of their values: both have a value with the same part, or they
fail alike. -/
def AgreeOn (part : α → γ) (x y : Except ε α) : Prop :=
  x.map part = y.map part

/-- Two computations both have a value or fail alike. -/
abbrev EndAlike (x y : Except ε α) : Prop :=
  AgreeOn (fun _ => ()) x y

variable {part : α → γ} {part' : β → δ} {x y : Except ε α}

theorem agreeOn_refl (part : α → γ) (x : Except ε α) : AgreeOn part x x := rfl

theorem agreeOn_ok {a b : α} (h : part a = part b) :
    AgreeOn part (.ok a : Except ε α) (.ok b) :=
  congrArg Except.ok h

/-- Two computations that agree fail alike or have values that agree. -/
theorem AgreeOn.cases (h : AgreeOn part x y) :
    (∃ e, x = .error e ∧ y = .error e) ∨ ∃ a b, x = .ok a ∧ y = .ok b ∧ part a = part b := by
  cases x with
  | error e =>
    cases y with
    | error e' => exact .inl ⟨e, rfl, congrArg _ (Except.error.inj h).symm⟩
    | ok b => cases h
  | ok a =>
    cases y with
    | error e' => cases h
    | ok b => exact .inr ⟨a, b, rfl, rfl, Except.ok.inj h⟩

/-- Agreement goes through a sequence if what comes second rests on the part alone. -/
theorem AgreeOn.bind (h : AgreeOn part x y) {f g : α → Except ε β}
    (hf : ∀ a b, part a = part b → AgreeOn part' (f a) (g b)) :
    AgreeOn part' (x >>= f) (y >>= g) := by
  rcases h.cases with ⟨e, rfl, rfl⟩ | ⟨a, b, rfl, rfl, hab⟩
  · rfl
  · exact hf a b hab

theorem AgreeOn.mapError {ε' : Type} (h : AgreeOn part x y) (f : ε → ε') :
    AgreeOn part (x.mapError f) (y.mapError f) := by
  rcases h.cases with ⟨e, rfl, rfl⟩ | ⟨a, b, rfl, rfl, hab⟩
  · rfl
  · exact agreeOn_ok hab

theorem EndAlike.list {f g : α → Except ε β} (h : ∀ a, EndAlike (f a) (g a)) (items : List α) :
    EndAlike (items.mapM f) (items.mapM g) := by
  induction items with
  | nil => rfl
  | cons a rest ih =>
    rw [List.mapM_cons, List.mapM_cons]
    exact (h a).bind fun _ _ _ => ih.bind fun _ _ _ => rfl

theorem EndAlike.option {f g : α → Except ε β} (h : ∀ a, EndAlike (f a) (g a))
    (item : Option α) : EndAlike (item.mapM f) (item.mapM g) := by
  cases item with
  | none => rfl
  | some a => exact (h a).bind fun _ _ _ => rfl

end

namespace Configuration

/-! ## Settings in two environments -/

section

variable {env env' : Substitution.Environment}

theorem endAlike_pathIn (word : Word) : EndAlike (pathIn env word) (pathIn env' word) := by
  cases word with
  | text s => rfl
  | bytes data => rfl

variable (henv : env.isEmpty = env'.isEmpty)

include henv

theorem endAlike_wordIn (word : Option Word) :
    EndAlike (wordIn env word) (wordIn env' word) := by
  match word with
  | some (.text s) => rfl
  | some (.bytes data) =>
    rw [wordIn, wordIn, henv]
    rfl
  | none =>
    rw [wordIn, wordIn, henv]
    rfl

theorem endAlike_buildIn (b : BuildSettings) : EndAlike (buildIn env b) (buildIn env' b) :=
  (EndAlike.list (endAlike_wordIn henv) b.command).bind fun _ _ _ =>
    (endAlike_pathIn b.result).bind fun _ _ _ =>
      (EndAlike.option endAlike_pathIn b.workDirectory).bind fun _ _ _ => rfl

/-- Settings describe the same device in both environments, or no configuration for the same
reason. -/
theorem agreeOn_ofSettings (settings : Settings) :
    AgreeOn (·.geometry) (ofSettings env settings) (ofSettings env' settings) :=
  (EndAlike.option (endAlike_buildIn henv) _).bind fun _ _ _ =>
    (agreeOn_refl id (geometryOf settings)).bind fun _ _ hgeometry =>
      (EndAlike.option endAlike_pathIn _).bind fun _ _ _ =>
        (EndAlike.option endAlike_pathIn settings.output).bind fun _ _ _ => agreeOn_ok hgeometry

end

/-! ## Loading in two environments -/

/-- Only what the settings describe rests on the environment. -/
theorem runOn_load_by_settings (s : Setting) (path : Path) (w : World) :
    (∃ failure, ∀ env, (load s path env).runOn w = (.error failure, w)) ∨
      ∃ settings, ∀ env,
        (load s path env).runOn w = ((ofSettings env settings).mapError Failure.worded, w) := by
  cases hschema : s.schemaPresent with
  | false =>
    refine .inl ⟨.configuration (.schemaMissing s.schema), fun env => ?_⟩
    simp only [load, hschema, Bool.not_false, if_true]
    rfl
  | true =>
    obtain ⟨content, hread⟩ : ∃ content, (readContent s path).runOn w = (.ok content, w) := by
      rw [runOn_readContent, (Action.readsFiles_readFile s path).runOn w]
      cases ((Action.readFile s path).runOn w).1 with
      | ok data => exact ⟨_, rfl⟩
      | error failure => exact ⟨_, rfl⟩
    simp only [load, hschema, Bool.not_true, Bool.false_eq_true, if_false]
    simp only [Action.runOn_bind_ok hread]
    cases content with
    | error reason => exact .inl ⟨_, fun env => rfl⟩
    | ok data =>
      dsimp only
      cases settingsOf data with
      | error reason => exact .inl ⟨_, fun env => rfl⟩
      | ok settings =>
        refine .inr ⟨settings, fun env => ?_⟩
        dsimp only
        cases ofSettings env settings with
        | ok config => rfl
        | error failure => rfl

/-- **A configuration is loaded alike in two environments**: with the same device, or not at all and
for the same reason. -/
theorem agreeOn_load {env env' : Substitution.Environment} (henv : env.isEmpty = env'.isEmpty)
    (s : Setting) (path : Path) (w : World) :
    AgreeOn (·.geometry) ((load s path env).runOn w).1 ((load s path env').runOn w).1 := by
  rcases runOn_load_by_settings s path w with ⟨failure, hload⟩ | ⟨settings, hload⟩
  · rw [hload env, hload env']
    rfl
  · rw [hload env, hload env']
    exact (agreeOn_ofSettings henv settings).mapError Failure.worded

end Configuration

end NorFlash
