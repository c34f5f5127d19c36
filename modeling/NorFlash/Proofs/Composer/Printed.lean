import NorFlash.Proofs.Composer.Lifecycle

/-!
# Composing prints nothing

The stages of a composer note what they do and print nothing, so the lines that a run prints come
from its provider (`isSilent_compose`).
-/

namespace NorFlash

theorem isSilent_planFor (g : Geometry) (size : Int) : (planFor g size).IsSilent := by
  refine (Action.isQuiet_ofExcept _ _).isSilent.bind fun layout => ?_
  split
  · exact (Action.isQuiet_throw _).isSilent
  · exact (Action.isSilent_note _ _).bind fun _ => (Action.isQuiet_pure _).isSilent

theorem isSilent_persist (s : Setting) (data : ByteArray) (output : Path) :
    (persist s data output).IsSilent := by
  refine (Action.isQuiet_ensureNames _ _).isSilent.bind fun _ => ?_
  refine Action.isQuiet_tree.isSilent.bind fun t => ?_
  refine (Action.isQuiet_makeTemporary _ _ _).isSilent.bind fun made => ?_
  refine (Action.isQuiet_moveOnto _ _ _ _).isSilent.bind fun _ => ?_
  exact Action.isQuiet_openEntry.isSilent.bind fun _ => Action.isSilent_note _ _

namespace Composer

variable {α β : Type} {s : Setting} {c : Composer}

/-- A staged action prints nothing, from whatever state it runs. -/
def IsSilent (a : Staged α) : Prop :=
  ∀ state w, (runStaged a state w).2.printed = w.printed

theorem isSilent_pure (x : α) : IsSilent (pure x) := fun _ _ => rfl

theorem isSilent_act {a : Action α} (ha : a.IsSilent) : IsSilent (act a) := fun _ w => ha w

theorem isSilent_advance (next : ComposeState) : IsSilent (advance next) := fun _ _ => rfl

theorem IsSilent.bind {a : Staged α} {f : α → Staged β} (ha : IsSilent a)
    (hf : ∀ x, IsSilent (f x)) : IsSilent (a >>= f) := by
  intro state w
  have hprinted := ha state w
  rw [runStaged_bind]
  cases hrun : runStaged a state w with
  | mk r w₁ =>
    rw [hrun] at hprinted
    obtain ⟨r, state₁⟩ := r
    cases r with
    | ok x => exact (hf x state₁ w₁).trans hprinted
    | error failure => exact hprinted

theorem isSilent_stages (hprovider : c.provider.IsSilent) : IsSilent (stages s c) := by
  refine (isSilent_act hprovider).bind fun artifact => ?_
  refine (isSilent_act (Action.isSilent_note _ _)).bind fun _ => ?_
  refine (isSilent_advance _).bind fun _ => ?_
  refine (isSilent_act (isSilent_planFor _ _)).bind fun layout => ?_
  refine (isSilent_advance _).bind fun _ => ?_
  refine (isSilent_act (Action.isQuiet_ofExcept _ _).isSilent).bind fun image => ?_
  refine (isSilent_act (Action.isSilent_forM fun _ => Action.isSilent_note _ _)).bind fun _ => ?_
  refine (isSilent_advance _).bind fun _ => ?_
  split
  · refine (isSilent_act ?_).bind fun _ => (isSilent_advance _).bind fun _ => isSilent_pure _
    exact (isQuiet_encode _ _).isSilent.bind fun bytes => isSilent_persist _ _ _
  · exact (isSilent_advance _).bind fun _ => isSilent_pure _

theorem isSilent_guarded (hprovider : c.provider.IsSilent) : IsSilent (guarded s c) := by
  intro state w
  have hprinted := isSilent_stages (s := s) hprovider state w
  rw [guarded, runStaged_tryCatch]
  cases hrun : runStaged (stages s c) state w with
  | mk r w₁ =>
    rw [hrun] at hprinted
    obtain ⟨r, state₁⟩ := r
    cases r with
    | ok made => exact hprinted
    | error failure => exact hprinted

end Composer

/-- Composing an artifact prints nothing if obtaining it does not. -/
theorem isSilent_compose {provider : Provider} (hprovider : provider.IsSilent) (s : Setting)
    (g : Geometry) (output : Option Path) (hexOutput : Bool) :
    (compose s provider g output hexOutput).IsSilent := by
  intro w
  have hprinted := Composer.isSilent_guarded (s := s)
    (c := Composer.new g provider output hexOutput) hprovider .start w
  rw [runOn_compose]
  cases hrun : Composer.runStaged (Composer.guarded s (Composer.new g provider output hexOutput))
    .start w with
  | mk r w₁ =>
    rw [hrun] at hprinted
    obtain ⟨r, state⟩ := r
    cases r with
    | ok made => exact hprinted
    | error failure => exact hprinted

end NorFlash
