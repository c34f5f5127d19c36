import NorFlash.Proofs.Composer
import NorFlash.Proofs.Persist.Outcome

/-!
# The stages as one action

What a composer notes of its states has no bearing on how it ends: `compose` ends, and leaves the
files, as `composeSteps` does, which takes the steps of the stages one after the other
(`runOn_compose_steps`). So each step that fails can be followed by the lemmas on actions alone.
-/

namespace NorFlash

/-! ## Planning -/

/-- An artifact that has no place is refused as bad data. -/
theorem runOn_planFor_of_not_fits {g : Geometry} {size : Int}
    (h : ¬ (0 ≤ size ∧ size ≤ g.metadataOffset)) (w : World) :
    ∃ failure, (planFor g size).runOn w = (.error failure, w) ∧ failure.kind = .data := by
  obtain ⟨fault, hplan⟩ : ∃ fault, Layout.plan g size = .error fault := by
    rw [Layout.plan]
    split
    · exact ⟨_, rfl⟩
    · refine ⟨_, if_pos ?_⟩
      simp only [Layout.metadataOffset, Layout.ofGeometry]
      omega
  refine ⟨(Failure.plan fault).worded, ?_, Failure.kind_worded_of_data rfl⟩
  rw [planFor, hplan, Action.runOn_bind_error (Action.runOn_ofExcept_error ..)]

theorem plan_of_fits {g : Geometry} {size : Int} (h : 0 ≤ size ∧ size ≤ g.metadataOffset) :
    Layout.plan g size = .ok (Layout.ofGeometry g) := by
  obtain ⟨n, rfl⟩ := Int.eq_ofNat_of_zero_le h.1
  exact Layout.plan_of_le (by omega)

/-- A size that is too long cannot be noted. -/
theorem runOn_planFor_of_long {g : Geometry} {size : Int}
    (h : 0 ≤ size ∧ size ≤ g.metadataOffset) (hlong : Numeral.isWritable size = false) (w : World) :
    (planFor g size).runOn w = (.error .longNumber, w) := by
  rw [planFor, plan_of_fits h, Action.runOn_bind_ok (Action.runOn_ofExcept_ok ..), hlong]
  rfl

/-! ## Steps -/

/-- Put an image in place as it is encoded. -/
def putImage (s : Setting) (output : Path) (hexOutput : Bool) (image : Image) : Action Unit := do
  persist s (← Composer.encode hexOutput image) output

/-- The steps of a composer, one after the other. -/
def composeSteps (s : Setting) (provider : Provider) (g : Geometry) (output : Path)
    (hexOutput : Bool) : Action Report := do
  let artifact ← provider
  let layout ← planFor g artifact.size
  let image ← Action.ofExcept Failure.ofImage (Image.compose layout g artifact)
  putImage s output hexOutput image
  return Report.ofLayout layout image.artifactSize (some output)

namespace Composer

variable {α β γ : Type} {f : α → β} {state : ComposeState} {w w' : World}

/-- A staged run ends as an action does, up to a function of its value. -/
def Follows (f : α → β) (run : (Except Failure α × ComposeState) × World)
    (steps : Except Failure β × World) : Prop :=
  run.1.1.map f = steps.1 ∧ run.2.tree = steps.2.tree

/-- A step that goes by the files is taken by both. -/
theorem follows_act_bind {a : Action γ} {k : γ → Staged α} {k' : γ → Action β} (ha : a.ByTree)
    (hw : w.tree = w'.tree)
    (hk : ∀ x w₁ w₁', w₁.tree = w₁'.tree →
      Follows f (runStaged (k x) state w₁) ((k' x).runOn w₁')) :
    Follows f (runStaged (act a >>= k) state w) ((a >>= k').runOn w') := by
  obtain ⟨hresult, htree⟩ := ha w w' hw
  rw [runStaged_bind, runStaged_act, Action.runOn_bind]
  cases hrun : a.runOn w with
  | mk r w₁ =>
    cases hrun' : a.runOn w' with
    | mk r' w₁' =>
      rw [hrun, hrun'] at hresult htree
      obtain rfl : r = r' := hresult
      cases r with
      | ok x => exact hk x w₁ w₁' htree
      | error failure => exact ⟨rfl, htree⟩

/-- A step that notes something is taken by the composer alone. -/
theorem follows_note_bind {a : Action γ} {x : γ} {k : γ → Staged α}
    {steps : Except Failure β × World}
    (ha : ∀ w, ∃ log, a.runOn w = (.ok x, { w with log := log }))
    (hk : ∀ w₁, w₁.tree = w.tree → Follows f (runStaged (k x) state w₁) steps) :
    Follows f (runStaged (act a >>= k) state w) steps := by
  obtain ⟨log, hrun⟩ := ha w
  rw [runStaged_act_bind_ok hrun]
  exact hk _ rfl

theorem follows_advance_bind {next : ComposeState} {k : Unit → Staged α}
    {steps : Except Failure β × World}
    (hk : ∀ w₁, w₁.tree = w.tree → Follows f (runStaged (k ()) next w₁) steps) :
    Follows f (runStaged (advance next >>= k) state w) steps := by
  obtain ⟨log, hrun⟩ := runStaged_advance_bind next k state w
  rw [hrun]
  exact hk _ rfl

theorem runOn_note_log (level : LogLevel) (message : String) (w : World) :
    ∃ log, (Action.note level message).runOn w = (.ok (), { w with log := log }) := ⟨_, rfl⟩

theorem byTree_planFor (g : Geometry) (size : Int) : Action.ByTree (planFor g size) := by
  refine (Action.byTree_ofExcept _ _).bind fun layout => ?_
  split
  · exact Action.byTree_throw _
  · exact (Action.byTree_note _ _).bind fun _ => Action.byTree_pure layout

theorem byTree_encode (hexOutput : Bool) (image : Image) :
    Action.ByTree (encode hexOutput image) := by
  intro w w' h
  obtain ⟨result, hrun⟩ := runOn_encode hexOutput image
  rw [hrun, hrun]
  exact ⟨rfl, h⟩

theorem byTree_putImage (s : Setting) (output : Path) (hexOutput : Bool) (image : Image) :
    Action.ByTree (putImage s output hexOutput image) :=
  (byTree_encode _ _).bind fun _ => byTree_persist _ _ _

/-- The stages end as the steps do. -/
theorem follows_stages (s : Setting) (provider : Provider) (g : Geometry) (output : Path)
    (hexOutput : Bool) (w : World) :
    Follows (fun made => Report.ofLayout made.1 made.2.artifactSize (some output))
      (runStaged (stages s (new g provider (some output) hexOutput)) .start w)
      ((composeSteps s provider g output hexOutput).runOn w) := by
  rw [stages, composeSteps, runStaged_bind, runStaged_act, Action.runOn_bind]
  simp only [new]
  cases provider.runOn w with
  | mk result w₁ =>
    cases result with
    | error failure => exact ⟨rfl, rfl⟩
    | ok artifact =>
      refine follows_note_bind (runOn_note_log _ _) fun w₂ ht => ?_
      refine follows_advance_bind fun w₃ ht₃ => ?_
      refine follows_act_bind (byTree_planFor _ _) (ht₃.trans ht) fun layout w₄ w₄' ht => ?_
      refine follows_advance_bind fun w₅ ht₅ => ?_
      refine follows_act_bind (Action.byTree_ofExcept _ _) (ht₅.trans ht) fun image w₆ w₆' ht => ?_
      refine follows_note_bind (runOn_forM_debug _) fun w₇ ht₇ => ?_
      refine follows_advance_bind fun w₈ ht₈ => ?_
      exact follows_act_bind (byTree_putImage s output hexOutput image)
        (ht₈.trans (ht₇.trans ht)) fun _ w₉ w₉' ht =>
          follows_advance_bind fun w₁₀ ht₁₀ => ⟨rfl, ht₁₀.trans ht⟩

end Composer

/-- **Composing goes by its steps.** A run ends, and leaves the files, as the steps do. -/
theorem runOn_compose_steps (s : Setting) (provider : Provider) (g : Geometry) (output : Path)
    (hexOutput : Bool) (w : World) :
    let run := (compose s provider g (some output) hexOutput).runOn w
    let steps := (composeSteps s provider g output hexOutput).runOn w
    run.1 = steps.1 ∧ run.2.tree = steps.2.tree := by
  dsimp only
  obtain ⟨hend, hafter⟩ := Composer.follows_stages s provider g output hexOutput w
  obtain ⟨hresult, htree⟩ :=
    Composer.runStaged_guarded s (Composer.new g provider (some output) hexOutput) .start w
  rw [← hend, ← hafter, ← hresult, ← htree, runOn_compose]
  cases Composer.runStaged (Composer.guarded s (Composer.new g provider (some output) hexOutput))
    .start w with
  | mk r w₁ =>
    obtain ⟨r, state⟩ := r
    cases r with
    | ok made => exact ⟨rfl, rfl⟩
    | error failure => exact ⟨rfl, rfl⟩

end NorFlash
