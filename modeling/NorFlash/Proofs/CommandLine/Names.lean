import NorFlash.CommandLine.Program
import NorFlash.Proofs.Action
import NorFlash.Proofs.Text.Substitution

/-!
# The names of a command line

A configuration may name the directory of the program and the directory of the build
(`environmentOf`). The names are replaced one after the other, but as long as they keep apart and
only the last replacement is free to hold anything, this is no different from one pass over the text
(`ReplacesOnce`). The directory of the build is that last replacement, so it is put in as it is
given, even if it looks like one of the names (`expand_once`).
-/

namespace NorFlash.CommandLine

open Substitution

variable {env : Environment}

/-! ## Environments that are replaced once -/

/-- Replacing the names of an environment one after the other goes by the text that it started
with. -/
structure ReplacesOnce (env : Environment) : Prop where
  /-- The result is that of one pass, which looks at nothing that was put in. -/
  pass : ∀ text, expand env text = String.ofList (onePass (bindingsOf env) text.toList)
  /-- Each occurrence of a name is replaced for itself, whatever the replacement is. -/
  occurrence : ∀ binding ∈ env, ∀ before after,
    expand env (before ++ (binding.1 ++ after)) =
      expand env before ++ (binding.2 ++ expand env after)
  /-- When a name has its turn, it stands where it stood in the text and nowhere else. -/
  turn : ∀ earlier binding later, env = earlier ++ binding :: later →
    ∀ text before' after', expand earlier text = before' ++ (binding.1 ++ after') ↔
      ∃ before after, text = before ++ (binding.1 ++ after) ∧
        expand earlier before = before' ∧ expand earlier after = after'

theorem replacesOnce_of_separated (h : Separated (bindingsOf env)) : ReplacesOnce env := by
  refine ⟨?_, ?_, ?_⟩
  · intro text
    rw [← String.toList_inj, toList_expand, apply_eq_onePass h, String.toList_ofList]
  · intro binding hmem before after
    have hchars : (binding.1.toList, binding.2.toList) ∈ bindingsOf env :=
      List.mem_map_of_mem hmem
    rw [← String.toList_inj]
    simp only [String.toList_append, toList_expand, apply_eq_onePass h]
    exact onePass_occurrence h.named h.apart hchars _ _
  · rintro earlier binding later rfl text before' after'
    have hsplit : bindingsOf (earlier ++ binding :: later) =
        bindingsOf earlier ++ (binding.1.toList, binding.2.toList) :: bindingsOf later := by
      simp [bindingsOf]
    rw [hsplit] at h
    rw [← String.toList_inj, toList_expand, String.toList_append, String.toList_append,
      apply_earlier_eq_append_iff h]
    constructor
    · rintro ⟨before, after, htext, hbefore, hafter⟩
      refine ⟨String.ofList before, String.ofList after, ?_, ?_, ?_⟩
      · simp [← String.toList_inj, htext]
      · simp [← String.toList_inj, toList_expand, hbefore]
      · simp [← String.toList_inj, toList_expand, hafter]
    · rintro ⟨before, after, rfl, rfl, rfl⟩
      refine ⟨before.toList, after.toList, ?_, ?_, ?_⟩
      · simp
      · exact (toList_expand _ _).symm
      · exact (toList_expand _ _).symm

/-! ## The directories of a command line -/

/-- The text that stands for the directory of the build. -/
def buildDirectoryText (s : Setting) (buildDirectory : OptionValue Path) : String :=
  (buildDirectory.toOption.map Path.render).getD s.directoryText

/-- The two names keep apart, and the directory of the program is an absolute path. -/
theorem separated_environmentOf {s : Setting} (habsolute : ∃ rest, s.root.toList = '/' :: rest)
    (hsign : '$' ∉ s.root.toList) (buildDirectory : OptionValue Path) :
    Separated (bindingsOf (environmentOf s buildDirectory)) := by
  have hroot : IsName "$ROOT".toList := ⟨"ROOT".toList, by decide, by decide, by decide⟩
  have hbuild : IsName "$BUILD_DIR".toList := ⟨"BUILD_DIR".toList, by decide, by decide, by decide⟩
  have hunlike : Unlike "$ROOT".toList "$BUILD_DIR".toList := ⟨by decide, by decide⟩
  refine ⟨?_, ?_, ?_, ?_⟩
  · simp only [bindingsOf, environmentOf, List.map_cons, List.map_nil, named_cons_iff]
    exact ⟨hroot, hbuild, named_nil⟩
  · simpa [Apart, bindingsOf, environmentOf] using hunlike
  · simpa [bindingsOf, environmentOf] using habsolute
  · simpa [bindingsOf, environmentOf] using hsign

/-- **Names that keep apart are replaced as in one pass.** The directory of the program and that of
the build are such names if the first is an absolute path without dollar signs; what is given for
the second is put in as it is, for each occurrence in the text. -/
theorem expand_once :
    (∀ env, Separated (bindingsOf env) → ReplacesOnce env) ∧
      ∀ s buildDirectory, (∃ rest, s.root.toList = '/' :: rest) → '$' ∉ s.root.toList →
        ReplacesOnce (environmentOf s buildDirectory) ∧
        ∀ before after,
          expand (environmentOf s buildDirectory) (before ++ ("$BUILD_DIR" ++ after)) =
            expand (environmentOf s buildDirectory) before ++
              (buildDirectoryText s buildDirectory ++
                expand (environmentOf s buildDirectory) after) := by
  refine ⟨fun env => replacesOnce_of_separated, ?_⟩
  intro s buildDirectory habsolute hsign
  have honce : ReplacesOnce (environmentOf s buildDirectory) :=
    replacesOnce_of_separated (separated_environmentOf habsolute hsign buildDirectory)
  refine ⟨honce, ?_⟩
  intro before after
  have hmem : ("$BUILD_DIR", buildDirectoryText s buildDirectory) ∈
      environmentOf s buildDirectory := by
    simp [environmentOf, buildDirectoryText]
  exact honce.occurrence _ hmem before after

/-- A build directory with both names in it is put in as it is. -/
theorem expand_once_in_directory :
    let buildDirectory := OptionValue.given (Path.ofString "$ROOT/$BUILD_DIR")
    ReplacesOnce [("$A", "/b"), ("$C", "$A")] ∧
      expand (environmentOf .atRoot buildDirectory) ("x" ++ ("$BUILD_DIR" ++ "/y")) =
        "x" ++ ("$ROOT/$BUILD_DIR" ++ "/y") := by
  have hfirst : IsName "$A".toList := ⟨['A'], by decide, by decide, by decide⟩
  have hsecond : IsName "$C".toList := ⟨['C'], by decide, by decide, by decide⟩
  have hseparated : Separated (bindingsOf [("$A", "/b"), ("$C", "$A")]) := by
    refine ⟨?_, ?_, ?_, ?_⟩
    · simp only [bindingsOf, List.map_cons, List.map_nil, named_cons_iff]
      exact ⟨hfirst, hsecond, named_nil⟩
    · simp [Apart, bindingsOf, Unlike]
    · simp [bindingsOf]
    · simp [bindingsOf]
  refine ⟨expand_once.1 _ hseparated, ?_⟩
  have hdirectory := (expand_once.2 Setting.atRoot (.given (Path.ofString "$ROOT/$BUILD_DIR"))
    ⟨[], rfl⟩ (by decide)).2 "x" "/y"
  exact hdirectory.trans (by decide)

end NorFlash.CommandLine
