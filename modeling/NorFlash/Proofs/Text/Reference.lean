import NorFlash.Proofs.Text.Substitution

/-!
# References that are left

A name starts with a dollar sign, and what follows the sign up to the next one (`references`) decides
whether the name stands there. Where no replacement has a dollar sign, replacing the names one after
the other leaves dollar signs of the text only, each with what followed it in the text, and only those
at which no name stands (`exists_reference_of_apply`). So a name stands in what is left only where
the text has the beginning of it, and inserted text goes on with it (`Begins`).
-/

namespace NorFlash.Substitution

variable {bindings : Bindings} {name replacement text before part : List Char}

/-! ## References -/

/-- The parts of a text that start with a dollar sign and go up to the next one. -/
def references : List Char → List (List Char)
  | [] => []
  | c :: cs =>
    if c = '$' then (c :: cs.takeWhile (· ≠ '$')) :: references cs
    else references cs

theorem references_sign (cs : List Char) :
    references ('$' :: cs) = ('$' :: cs.takeWhile (· ≠ '$')) :: references cs := by
  simp [references]

theorem references_append_of_no_sign (hsign : '$' ∉ before) (after : List Char) :
    references (before ++ after) = references after := by
  induction before with
  | nil => rfl
  | cons c cs ih =>
    have hc : c ≠ '$' := (List.ne_of_not_mem_cons hsign).symm
    rw [List.cons_append, references, if_neg hc, ih (List.not_mem_of_not_mem_cons hsign)]

/-- A word without dollar signs that a text starts with ends before the next dollar sign. -/
theorem prefix_takeWhile {word cs : List Char} (hsign : '$' ∉ word) (h : word <+: cs) :
    word <+: cs.takeWhile (· ≠ '$') := by
  induction word generalizing cs with
  | nil => exact List.nil_prefix
  | cons c word ih =>
    obtain ⟨rest, rfl⟩ := h
    have hc : c ≠ '$' := (List.ne_of_not_mem_cons hsign).symm
    rw [List.cons_append, List.takeWhile_cons, if_pos (by simpa using hc), List.cons_prefix_cons]
    exact ⟨rfl, ih (List.not_mem_of_not_mem_cons hsign) (List.prefix_append _ _)⟩

/-- A name that stands in a text starts a reference of it. -/
theorem exists_reference_of_infix (hname : IsName name) (h : name <:+: text) :
    ∃ part ∈ references text, name <+: part := by
  obtain ⟨word, rfl, hsign, -⟩ := hname
  obtain ⟨before, after, rfl⟩ := h
  rw [List.append_assoc]
  induction before with
  | nil =>
    rw [List.nil_append, List.cons_append, references_sign]
    refine ⟨_, List.mem_cons_self, ?_⟩
    rw [List.cons_prefix_cons]
    exact ⟨rfl, prefix_takeWhile hsign (List.prefix_append _ _)⟩
  | cons c cs ih =>
    obtain ⟨part, hmem, hpart⟩ := ih
    refine ⟨part, ?_, hpart⟩
    rw [List.cons_append, references]
    split
    · exact List.mem_cons_of_mem _ hmem
    · exact hmem

/-! ## Replacing one name -/

/-- What stands before the next dollar sign stays in front of what a replacement puts there. -/
theorem takeWhile_prefix_onePass (hname : IsName name) (text : List Char) :
    text.takeWhile (· ≠ '$') <+:
      (onePass [(name, replacement)] text).takeWhile (· ≠ '$') := by
  induction text with
  | nil => exact List.nil_prefix
  | cons c cs ih =>
    by_cases hc : c = '$'
    · simp [hc]
    · have habsent : match? [(name, replacement)] (c :: cs) = none := by
        rw [match?_eq_none_iff]
        obtain ⟨word, rfl, -, -⟩ := hname
        intro binding hmem hstart
        obtain rfl := List.mem_singleton.1 hmem
        exact hc (List.cons_prefix_cons.1 hstart).1.symm
      have hkeep : (decide (c ≠ '$')) = true := by simpa using hc
      rw [onePass_of_no_match habsent, List.takeWhile_cons, List.takeWhile_cons, if_pos hkeep,
        if_pos hkeep, List.cons_prefix_cons]
      exact ⟨rfl, ih⟩

/-- Replacing a name leaves references at which it does not stand, each with what followed it. -/
theorem exists_reference_of_onePass (hname : IsName name) (hsign : '$' ∉ replacement)
    (h : part ∈ references (onePass [(name, replacement)] text)) :
    ∃ old ∈ references text, old <+: part ∧ ¬ name <+: old := by
  have hnamed : Named [(name, replacement)] := named_singleton_iff.2 hname
  obtain ⟨_, hpasses⟩ := exists_passes hnamed text
  induction hpasses with
  | done => simp [references] at h
  | @replaced found put rest out hfound next ih =>
    obtain ⟨hmem, -⟩ := of_match?_eq_some hfound
    obtain ⟨rfl, rfl⟩ := Prod.mk.inj (List.mem_singleton.1 hmem)
    rw [onePass_of_match hname.ne_nil hfound, references_append_of_no_sign hsign] at h
    obtain ⟨old, hold, hstart⟩ := ih h
    refine ⟨old, ?_, hstart⟩
    obtain ⟨word, rfl, hword, -⟩ := hname
    rw [List.cons_append, references_sign, references_append_of_no_sign hword]
    exact List.mem_cons_of_mem _ hold
  | @kept c cs out absent next ih =>
    rw [onePass_of_no_match absent] at h
    by_cases hc : c = '$'
    · subst hc
      rw [references_sign] at h ⊢
      rcases List.mem_cons.1 h with rfl | hrest
      · refine ⟨_, List.mem_cons_self, ?_, ?_⟩
        · rw [List.cons_prefix_cons]
          exact ⟨rfl, takeWhile_prefix_onePass hname cs⟩
        · intro hstart
          have hwhole : '$' :: cs.takeWhile (· ≠ '$') <+: '$' :: cs := by
            rw [List.cons_prefix_cons]
            exact ⟨rfl, List.takeWhile_prefix _⟩
          exact match?_eq_none_iff.1 absent _ (List.mem_singleton.2 rfl) (hstart.trans hwhole)
      · obtain ⟨old, hold, hstart⟩ := ih hrest
        exact ⟨old, List.mem_cons_of_mem _ hold, hstart⟩
    · rw [references, if_neg hc] at h ⊢
      exact ih h

/-! ## Replacing one name after the other -/

/-- No replacement has a dollar sign. -/
def Unsigned (bindings : Bindings) : Prop :=
  ∀ binding ∈ bindings, '$' ∉ binding.2

/-- **Replacing all names leaves references of the text at which none of them stands**, each with
what followed it in the text. -/
theorem exists_reference_of_apply (hnamed : Named bindings) (hunsigned : Unsigned bindings)
    (h : part ∈ references (apply bindings text)) :
    ∃ old ∈ references text, old <+: part ∧ ∀ binding ∈ bindings, ¬ binding.1 <+: old := by
  induction bindings generalizing text with
  | nil => exact ⟨part, h, List.prefix_rfl, by simp⟩
  | cons binding rest ih =>
    obtain ⟨hname, hrest⟩ := named_cons_iff.1 hnamed
    obtain ⟨hsign, hrest'⟩ := List.forall_mem_cons.1 hunsigned
    rw [apply_cons hname] at h
    obtain ⟨middle, hmiddle, hpart, hothers⟩ := ih hrest hrest' h
    obtain ⟨old, hold, hstart, hfirst⟩ := exists_reference_of_onePass hname hsign hmiddle
    refine ⟨old, hold, hstart.trans hpart, ?_⟩
    intro other hother hbad
    rcases List.mem_cons.1 hother with rfl | hother
    · exact hfirst hbad
    · exact hothers other hother (hbad.trans hstart)

/-- A text has the beginning of a name and not the whole of it: up to the next dollar sign the name
starts as the text does, and no name stands there. -/
def Begins (bindings : Bindings) (text name : List Char) : Prop :=
  ∃ part ∈ references text, part <+: name ∧ ∀ binding ∈ bindings, ¬ binding.1 <+: part

/-- A name that is left after all names are replaced was not one in the text: the text has the
beginning of it only. -/
theorem begins_of_infix_apply (hnamed : Named bindings) (hunsigned : Unsigned bindings)
    {binding : List Char × List Char} (hmem : binding ∈ bindings)
    (h : binding.1 <:+: apply bindings text) : Begins bindings text binding.1 := by
  obtain ⟨part, hpart, hname⟩ := exists_reference_of_infix (hnamed _ hmem) h
  obtain ⟨old, hold, hstart, hnone⟩ := exists_reference_of_apply hnamed hunsigned hpart
  refine ⟨old, hold, ?_, hnone⟩
  rcases List.prefix_or_prefix_of_prefix hname hstart with hbad | hshort
  · exact absurd hbad (hnone _ hmem)
  · exact hshort

end NorFlash.Substitution
