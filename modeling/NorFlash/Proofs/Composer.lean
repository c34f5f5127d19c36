import NorFlash.Composer
import NorFlash.Proofs.Action

/-!
# Runs of a composer

The stages of a `Composer` run one after the other, so a run that ends with a report has gone
through all of them: the provider gave the artifact, the artifact was planned and composed, and the
image was encoded and put in place (`of_runOn_compose`). Where all of this succeeds, the run ends
with a report (`runOn_compose_of_persist`).
-/

namespace NorFlash

namespace Composer

/-! ## Staged actions -/

/-- Run a staged action from a state on a world. -/
def runStaged {α : Type} (a : Staged α) (state : ComposeState) (w : World) :
    (Except Failure α × ComposeState) × World :=
  (a.run.run state).run w

variable {α β : Type} {state state' : ComposeState} {w w' : World}

theorem runStaged_bind (a : Staged α) (f : α → Staged β) (state : ComposeState) (w : World) :
    runStaged (a >>= f) state w =
      match runStaged a state w with
      | ((.ok x, state'), w') => runStaged (f x) state' w'
      | ((.error failure, state'), w') => ((.error failure, state'), w') := by
  simp only [runStaged, ExceptT.run_bind, StateT.run_bind]
  cases ((ExceptT.run a).run state).run w with
  | mk r w' =>
    obtain ⟨r, state'⟩ := r
    cases r <;> rfl

theorem runStaged_act (a : Action α) (state : ComposeState) (w : World) :
    runStaged (act a) state w = (((a.runOn w).1, state), (a.runOn w).2) := rfl

/-- Stages go on after an action that ends with a value. -/
theorem runStaged_act_bind_ok {a : Action α} {x : α} (h : a.runOn w = (.ok x, w'))
    (f : α → Staged β) : runStaged (act a >>= f) state w = runStaged (f x) state w' := by
  rw [runStaged_bind, runStaged_act, h]

/-- Going on to a state is noted and changes nothing else. -/
theorem runStaged_advance_bind (next : ComposeState) (f : Unit → Staged β) (state : ComposeState)
    (w : World) :
    ∃ log, runStaged (advance next >>= f) state w = runStaged (f ()) next { w with log := log } :=
  ⟨_, rfl⟩

theorem runStaged_tryCatch (a : Staged α) (handle : Failure → Staged α) (state : ComposeState)
    (w : World) :
    runStaged (tryCatch a handle) state w =
      match runStaged a state w with
      | ((.ok x, state'), w') => ((.ok x, state'), w')
      | ((.error failure, state'), w') => runStaged (handle failure) state' w' := by
  cases h : runStaged a state w with
  | mk r w' =>
    obtain ⟨r, state'⟩ := r
    have hrun : StateT.run (StateT.run a state) w = ((r, state'), w') := h
    simp only [runStaged, tryCatch, tryCatchThe, MonadExceptOf.tryCatch, ExceptT.tryCatch,
      ExceptT.run_mk, StateT.run_bind, hrun]
    cases r <;> rfl

/-- A composer that has not run yet runs its stages. -/
theorem run_of_start {s : Setting} {c : Composer} (h : c.state = .start) (w : World) :
    c.run s w =
      match runStaged (guarded s c) .start w with
      | ((.ok (layout, image), state), w) =>
        ((.ok (Report.ofLayout layout image.artifactSize c.output),
          { c with state := state, image := some image }), w)
      | ((.error failure, state), w) => ((.error failure, { c with state := state }), w) := by
  rw [run, if_pos h, h]
  rfl

end Composer

/-! ## Composing an image -/

theorem runOn_compose (s : Setting) (provider : Provider) (g : Geometry) (output : Option Path)
    (hexOutput : Bool) (w : World) :
    (compose s provider g output hexOutput).runOn w =
      match Composer.runStaged (Composer.guarded s (Composer.new g provider output hexOutput))
        .start w with
      | ((.ok (layout, image), _), w) =>
        (.ok (Report.ofLayout layout image.artifactSize output), w)
      | ((.error failure, _), w) => (.error failure, w) := by
  let c := Composer.new g provider output hexOutput
  have hrun : (compose s provider g output hexOutput).runOn w =
      ((c.run s w).1.1, (c.run s w).2) := rfl
  rw [hrun, Composer.run_of_start rfl]
  cases Composer.runStaged (Composer.guarded s (Composer.new g provider output hexOutput))
    .start w with
  | mk r w₁ =>
    obtain ⟨r, state⟩ := r
    cases r <;> rfl

theorem Layout.plan_eq_ok {g : Geometry} {size : Int} {layout : Layout}
    (h : plan g size = .ok layout) : layout = ofGeometry g := by
  rw [plan] at h
  split at h
  · simp at h
  · dsimp only at h
    split at h
    · simp at h
    · exact (Except.ok.inj h).symm

theorem Layout.plan_of_le {g : Geometry} {size : Nat} (h : size ≤ g.metadataOffset) :
    plan g size = .ok (ofGeometry g) := by
  have hfits : ¬ (ofGeometry g).metadataOffset < (size : Int) := by
    simp only [metadataOffset, ofGeometry]
    omega
  rw [plan, if_neg (by omega)]
  dsimp only
  rw [if_neg hfits]

/-- Planning answers the layout of the device. -/
theorem of_runOn_planFor {g : Geometry} {size : Int} {layout : Layout} {w w' : World}
    (h : (planFor g size).runOn w = (.ok layout, w')) : layout = Layout.ofGeometry g := by
  rw [planFor] at h
  obtain ⟨planned, w₁, hplan, hrest⟩ := Action.of_runOn_bind_ok h
  obtain ⟨hlayout, -⟩ := Action.of_runOn_ofExcept_ok hplan
  split at hrest
  · simp at hrest
  · obtain ⟨_, w₂, -, hend⟩ := Action.of_runOn_bind_ok (a := Action.debug _)
      (f := fun _ => pure planned) hrest
    obtain ⟨rfl, -⟩ : planned = layout ∧ w₂ = w' := by simpa using hend
    exact Layout.plan_eq_ok hlayout

/-- Notes leave the tree as it is. -/
theorem runOn_forM_debug (messages : List String) (w : World) :
    ∃ log, (messages.forM Action.debug).runOn w = (.ok (), { w with log := log }) := by
  induction messages generalizing w with
  | nil => exact ⟨w.log, rfl⟩
  | cons message messages ih =>
    obtain ⟨log, hrest⟩ := ih { w with log := w.log ++ [⟨.debug, message⟩] }
    refine ⟨log, ?_⟩
    have hfirst : (Action.debug message).runOn w =
        (.ok (), { w with log := w.log ++ [⟨.debug, message⟩] }) := rfl
    exact (Action.runOn_bind_ok hfirst _).trans hrest

/-- Encoding an image works on no world. -/
theorem runOn_encode (hexOutput : Bool) (image : Image) :
    ∃ result, ∀ w, (Composer.encode hexOutput image).runOn w = (result, w) := by
  rw [Composer.encode]
  split
  · split
    · exact ⟨_, fun _ => rfl⟩
    · exact ⟨_, fun _ => rfl⟩
  · exact ⟨_, fun _ => rfl⟩

theorem keepsTree_planFor (g : Geometry) (size : Int) : Action.KeepsTree (planFor g size) := by
  refine (Action.keepsTree_ofExcept _ _).bind fun layout => ?_
  split
  · exact Action.keepsTree_throw _
  · exact (Action.keepsTree_note _ _).bind fun _ => Action.keepsTree_pure layout

namespace Composer

/-! ## Stages before the image is put in place -/

/-- A staged run fails and leaves a tree. -/
def Fails {α : Type} (t : FileTree) (run : (Except Failure α × ComposeState) × World) : Prop :=
  (∃ failure, run.1.1 = .error failure) ∧ run.2.tree = t

variable {α β : Type} {state : ComposeState} {w : World} {t : FileTree}
  {P : (Except Failure β × ComposeState) × World → Prop}

/-- A stage that leaves the tree as it is either fails with that tree or the stages after it decide
how the run ends. -/
theorem fails_or_act_bind {a : Action α} {f : α → Staged β} (ha : a.KeepsTree) (ht : w.tree = t)
    (hf : ∀ x w', a.runOn w = (.ok x, w') → w'.tree = t →
      Fails t (runStaged (f x) state w') ∨ P (runStaged (f x) state w')) :
    Fails t (runStaged (act a >>= f) state w) ∨ P (runStaged (act a >>= f) state w) := by
  have htree := ha w
  rw [runStaged_bind, runStaged_act]
  cases hrun : a.runOn w with
  | mk r w₁ =>
    rw [hrun] at htree
    cases r with
    | ok x => exact hf x w₁ hrun (htree.trans ht)
    | error failure => exact .inl ⟨⟨failure, rfl⟩, htree.trans ht⟩

theorem fails_or_advance_bind {next : ComposeState} {f : Unit → Staged β} (ht : w.tree = t)
    (hf : ∀ w', w'.tree = t →
      Fails t (runStaged (f ()) next w') ∨ P (runStaged (f ()) next w')) :
    Fails t (runStaged (advance next >>= f) state w) ∨
      P (runStaged (advance next >>= f) state w) := by
  obtain ⟨log, hrun⟩ := runStaged_advance_bind next f state w
  rw [hrun]
  exact hf _ ht

/-- A staged run has encoded the image of an artifact and ends as the putting in place of that
does. -/
def Puts (s : Setting) (c : Composer) (output : Path) (artifact : ByteArray) (t : FileTree)
    (run : (Except Failure (Layout × Image) × ComposeState) × World) : Prop :=
  ∃ image bytes w, Image.compose (Layout.ofGeometry c.geometry) c.geometry artifact = .ok image ∧
    (∀ w, (encode c.hexOutput image).runOn w = (.ok bytes, w)) ∧ w.tree = t ∧
    run.1.1 = ((persist s bytes output).runOn w).1.map
      (fun _ => (Layout.ofGeometry c.geometry, image)) ∧
    run.2.tree = ((persist s bytes output).runOn w).2.tree

/-- The stages fail before the image is put in place, or they end as that does. -/
theorem runStaged_stages (s : Setting) (c : Composer) {output : Path}
    (houtput : c.output = some output) (state : ComposeState) (w : World) :
    let run := runStaged (stages s c) state w
    let t := (c.provider.runOn w).2.tree
    Fails t run ∨ ∃ artifact, (c.provider.runOn w).1 = .ok artifact ∧
      Puts s c output artifact t run := by
  dsimp only
  rw [stages, runStaged_bind, runStaged_act]
  cases hprovider : c.provider.runOn w with
  | mk result w₁ =>
    cases result with
    | error failure => exact .inl ⟨⟨failure, rfl⟩, rfl⟩
    | ok artifact =>
      dsimp only
      refine Or.imp_right (fun hputs => ⟨artifact, rfl, hputs⟩) ?_
      generalize ht : w₁.tree = t
      refine fails_or_act_bind (Action.keepsTree_note _ _) ht fun _ w₂ _ ht => ?_
      refine fails_or_advance_bind ht fun w₃ ht => ?_
      refine fails_or_act_bind (keepsTree_planFor _ _) ht fun layout w₄ hplan ht => ?_
      obtain rfl := of_runOn_planFor hplan
      refine fails_or_advance_bind ht fun w₅ ht => ?_
      refine fails_or_act_bind (Action.keepsTree_ofExcept _ _) ht fun image w₆ himage ht => ?_
      obtain ⟨hcompose, -⟩ := Action.of_runOn_ofExcept_ok himage
      refine fails_or_act_bind (Action.keepsTree_forM fun _ => Action.keepsTree_note _ _) ht
        fun _ w₇ _ ht => ?_
      refine fails_or_advance_bind ht fun w₈ ht => ?_
      obtain ⟨encoded, hencode⟩ := runOn_encode c.hexOutput image
      simp only [houtput]
      rw [runStaged_bind, runStaged_act, Action.runOn_bind, hencode]
      cases encoded with
      | error failure => exact .inl ⟨⟨failure, rfl⟩, ht⟩
      | ok bytes =>
        refine .inr ⟨image, bytes, w₈, hcompose, hencode, ht, ?_⟩
        dsimp only
        cases hpersist : (persist s bytes output).runOn w₈ with
        | mk r w₉ =>
          cases r with
          | error failure => exact ⟨rfl, rfl⟩
          | ok _ => exact ⟨rfl, rfl⟩

/-- A guarded run ends as the stages do; that it failed is noted. -/
theorem runStaged_guarded (s : Setting) (c : Composer) (state : ComposeState) (w : World) :
    (runStaged (guarded s c) state w).1.1 = (runStaged (stages s c) state w).1.1 ∧
      (runStaged (guarded s c) state w).2.tree = (runStaged (stages s c) state w).2.tree := by
  rw [guarded, runStaged_tryCatch]
  cases runStaged (stages s c) state w with
  | mk r w₁ =>
    obtain ⟨r, state₁⟩ := r
    cases r with
    | ok x => exact ⟨rfl, rfl⟩
    | error failure => exact ⟨rfl, rfl⟩

end Composer

/-- A run of `compose` fails before the image is put in place, or it ends as that does, with the
report on the image. -/
theorem runOn_compose_cases (s : Setting) (provider : Provider) (g : Geometry) (output : Path)
    (hexOutput : Bool) (w : World) :
    let run := (compose s provider g (some output) hexOutput).runOn w
    ((∃ failure, run.1 = .error failure) ∧ run.2.tree = (provider.runOn w).2.tree) ∨
      ∃ artifact image bytes w₂, (provider.runOn w).1 = .ok artifact ∧
        Image.compose (Layout.ofGeometry g) g artifact = .ok image ∧
        (∀ w, (Composer.encode hexOutput image).runOn w = (.ok bytes, w)) ∧
        w₂.tree = (provider.runOn w).2.tree ∧
        run.1 = ((persist s bytes output).runOn w₂).1.map (fun _ =>
          Report.ofLayout (Layout.ofGeometry g) image.artifactSize (some output)) ∧
        run.2.tree = ((persist s bytes output).runOn w₂).2.tree := by
  let c := Composer.new g provider (some output) hexOutput
  have hstages := Composer.runStaged_stages s c rfl .start w
  obtain ⟨hresult, htree⟩ := Composer.runStaged_guarded s c .start w
  dsimp only at hstages ⊢
  have hend : ((compose s provider g (some output) hexOutput).runOn w).1 =
        (Composer.runStaged (Composer.stages s c) .start w).1.1.map
          (fun y => Report.ofLayout y.1 y.2.artifactSize (some output)) ∧
      ((compose s provider g (some output) hexOutput).runOn w).2.tree =
        (Composer.runStaged (Composer.stages s c) .start w).2.tree := by
    rw [← hresult, ← htree, runOn_compose]
    cases Composer.runStaged (Composer.guarded s c) .start w with
    | mk r w₁ =>
      obtain ⟨r, state⟩ := r
      cases r with
      | ok y => exact ⟨rfl, rfl⟩
      | error failure => exact ⟨rfl, rfl⟩
  rw [hend.1, hend.2]
  rcases hstages with ⟨⟨failure, hfail⟩, hkept⟩ | ⟨artifact, hartifact, image, bytes, w₂, hcompose,
    hencode, hsame, hends, hafter⟩
  · exact .inl ⟨⟨failure, by rw [hfail]; rfl⟩, hkept⟩
  · refine .inr ⟨artifact, image, bytes, w₂, hartifact, hcompose, hencode, hsame, ?_, hafter⟩
    rw [hends]
    cases ((persist s bytes output).runOn w₂).1 <;> rfl

/-- A run of `compose` that ends with a report has composed the artifact by the layout of the
device, has put the image in place as it is encoded, and reports on it. -/
theorem of_runOn_compose {s : Setting} {provider : Provider} {g : Geometry} {output : Path}
    {hexOutput : Bool} {artifact : ByteArray} {report : Report} {w w₁ w' : World}
    (hprovider : provider.runOn w = (.ok artifact, w₁))
    (h : (compose s provider g (some output) hexOutput).runOn w = (.ok report, w')) :
    ∃ image bytes w₂ w₃, Image.compose (Layout.ofGeometry g) g artifact = .ok image ∧
      (∀ w, (Composer.encode hexOutput image).runOn w = (.ok bytes, w)) ∧ w₂.tree = w₁.tree ∧
      (persist s bytes output).runOn w₂ = (.ok (), w₃) ∧ w'.tree = w₃.tree ∧
      report = Report.ofLayout (Layout.ofGeometry g) image.artifactSize (some output) := by
  have hcases := runOn_compose_cases s provider g output hexOutput w
  simp only [h, hprovider] at hcases
  rcases hcases with ⟨⟨failure, hbad⟩, -⟩ | ⟨found, image, bytes, w₂, hfound, hcompose, hencode,
    htree, hresult, hafter⟩
  · simp at hbad
  · obtain rfl := Except.ok.inj hfound
    cases hpersist : (persist s bytes output).runOn w₂ with
    | mk r w₃ =>
      rw [hpersist] at hresult hafter
      cases r with
      | error failure => simp [Except.map] at hresult
      | ok _ =>
        exact ⟨image, bytes, w₂, w₃, hcompose, hencode, htree, hpersist, hafter,
          Except.ok.inj hresult⟩

/-- Planning an artifact that fits notes its layout. -/
theorem runOn_planFor {g : Geometry} {size : Int} {layout : Layout}
    (hplan : Layout.plan g size = .ok layout) (hsize : Numeral.isWritable size = true) (w : World) :
    ∃ log, (planFor g size).runOn w = (.ok layout, { w with log := log }) := by
  refine ⟨w.log ++ [⟨.debug, layout.planNote size⟩], ?_⟩
  rw [planFor, hplan, Action.runOn_bind_ok (Action.runOn_ofExcept_ok ..)]
  simp only [hsize]
  rfl

/-- A run of `compose` ends with a report if the artifact can be planned, composed and encoded and
the file can be put in place. -/
theorem runOn_compose_of_persist {s : Setting} {provider : Provider} {g : Geometry} {output : Path}
    {hexOutput : Bool} {artifact bytes : ByteArray} {image : Image} {w w₁ : World}
    (hprovider : provider.runOn w = (.ok artifact, w₁))
    (hplan : Layout.plan g artifact.size = .ok (Layout.ofGeometry g))
    (hsize : Numeral.isWritable artifact.size = true)
    (hcompose : Image.compose (Layout.ofGeometry g) g artifact = .ok image)
    (hencode : ∀ w, (Composer.encode hexOutput image).runOn w = (.ok bytes, w))
    (hpersist : ∀ log, ∃ w₂,
      (persist s bytes output).runOn { w₁ with log := log } = (.ok (), w₂)) :
    ∃ report w', (compose s provider g (some output) hexOutput).runOn w = (.ok report, w') := by
  have hstages : ∃ state w', Composer.runStaged
      (Composer.stages s (Composer.new g provider (some output) hexOutput)) .start w =
        ((.ok (Layout.ofGeometry g, image), state), w') := by
    have hinfo : (Action.info
        ("SPL1 binary size: " ++ Numeral.decimal artifact.size ++ " bytes")).runOn w₁ =
        (.ok (), { w₁ with log := _ }) := rfl
    have himage : ∀ w, (Action.ofExcept Failure.ofImage
        (Image.compose (Layout.ofGeometry g) g artifact)).runOn w = (.ok image, w) := by
      intro w
      rw [hcompose, Action.runOn_ofExcept_ok]
    have hput : ∀ log, ∃ w₂, (do persist s (← Composer.encode hexOutput image) output).runOn
        { w₁ with log := log } = (.ok (), w₂) := by
      intro log
      rw [Action.runOn_bind_ok (hencode _)]
      exact hpersist log
    simp only [Composer.stages, Composer.new]
    rw [Composer.runStaged_act_bind_ok hprovider, Composer.runStaged_act_bind_ok hinfo]
    obtain ⟨log₁, hrun⟩ := Composer.runStaged_advance_bind .artifactObtained _ _ _
    rw [hrun]
    obtain ⟨log₂, hplanned⟩ := runOn_planFor hplan hsize _
    rw [Composer.runStaged_act_bind_ok hplanned]
    obtain ⟨log₃, hrun⟩ := Composer.runStaged_advance_bind .layoutValidated _ _ _
    rw [hrun, Composer.runStaged_act_bind_ok (himage _)]
    obtain ⟨log₄, hnoted⟩ := runOn_forM_debug
      (Image.composeNotes (Layout.ofGeometry g) artifact.size) _
    rw [Composer.runStaged_act_bind_ok hnoted]
    obtain ⟨log₅, hrun⟩ := Composer.runStaged_advance_bind .imageComposed _ _ _
    rw [hrun]
    obtain ⟨w₂, hlast⟩ := hput log₅
    rw [Composer.runStaged_act_bind_ok hlast]
    obtain ⟨log₆, hrun⟩ := Composer.runStaged_advance_bind .persisted _ _ _
    rw [hrun]
    exact ⟨_, _, rfl⟩
  obtain ⟨state, w', hrun⟩ := hstages
  rw [runOn_compose, Composer.guarded, Composer.runStaged_tryCatch, hrun]
  exact ⟨_, w', rfl⟩

end NorFlash
