import Mathlib.Data.List.Basic
import NorFlash.Text.Substitution

/-!
# Replacing names in turn and at once

`Substitution.apply` replaces one name after the other, each in the text that the names before it
left. `Substitution.onePass` looks at each place of the text once and at nothing that it inserts
(`Passes`). Where no name can start within another one and no replacement but the last one can start
or continue a name (`Separated`), both give the same text (`apply_eq_onePass`): an occurrence stays
what it is until its name has its turn, and none comes up. Each occurrence is then replaced for
itself, whatever stands around it (`onePass_occurrence`).
-/

namespace NorFlash.Substitution

variable {bindings : Bindings} {binding : List Char × List Char}
  {name replacement text before after : List Char}

/-! ## Names -/

/-- A name that a text can refer to: a dollar sign and a word without dollar signs and
separators. -/
def IsName (name : List Char) : Prop :=
  ∃ word, name = '$' :: word ∧ '$' ∉ word ∧ '/' ∉ word

/-- All names of some bindings are names that a text can refer to. -/
def Named (bindings : Bindings) : Prop :=
  ∀ binding ∈ bindings, IsName binding.1

/-- The text is at its end, or goes on with a character that no name goes on with. -/
def Stops (text : List Char) : Prop :=
  ∀ c ∈ text.head?, c = '$' ∨ c = '/'

theorem named_nil : Named [] :=
  List.forall_mem_nil _

theorem named_cons_iff : Named (binding :: bindings) ↔ IsName binding.1 ∧ Named bindings :=
  List.forall_mem_cons

theorem named_singleton_iff : Named [binding] ↔ IsName binding.1 :=
  List.forall_mem_singleton

theorem IsName.ne_nil (h : IsName name) : name ≠ [] := by
  obtain ⟨word, rfl, -, -⟩ := h
  simp

theorem IsName.stops_append (h : IsName name) (rest : List Char) : Stops (name ++ rest) := by
  obtain ⟨word, rfl, -, -⟩ := h
  intro c hc
  left
  simpa using hc.symm

/-- A name does not go on past a place where the text stops. -/
theorem IsName.prefix_append_iff (h : IsName name) (hbefore : before ≠ []) (hafter : Stops after) :
    name <+: before ++ after ↔ name <+: before := by
  obtain ⟨word, rfl, hsign, hslash⟩ := h
  refine ⟨fun hstart => ?_, fun hstart => hstart.trans (List.prefix_append _ _)⟩
  rcases List.prefix_or_prefix_of_prefix hstart (List.prefix_append before after) with
    hshort | ⟨more, hmore⟩
  · exact hshort
  · cases more with
    | nil => simp [← hmore]
    | cons c more =>
      exfalso
      rw [← hmore, List.prefix_append_right_inj] at hstart
      obtain ⟨rest, hrest⟩ := hstart
      have hc : c = '$' ∨ c = '/' := by
        apply hafter
        simp [← hrest]
      obtain ⟨d, ds, rfl⟩ := List.exists_cons_of_ne_nil hbefore
      have hword : c ∈ word := by
        rw [← (List.cons.inj hmore).2]
        simp
      rcases hc with rfl | rfl
      · exact hsign hword
      · exact hslash hword

/-! ## One pass -/

/-- One pass over a text: at each place the first binding whose name stands there puts its
replacement and the pass goes on after the name, and where there is none the character is kept. -/
inductive Passes (bindings : Bindings) : List Char → List Char → Prop where
  /-- The text is at its end. -/
  | done : Passes bindings [] []
  /-- A name is replaced. -/
  | replaced {name replacement rest out : List Char}
    (found : match? bindings (name ++ rest) = some (name, replacement))
    (next : Passes bindings rest out) : Passes bindings (name ++ rest) (replacement ++ out)
  /-- A character is kept. -/
  | kept {c : Char} {cs out : List Char} (absent : match? bindings (c :: cs) = none)
    (next : Passes bindings cs out) : Passes bindings (c :: cs) (c :: out)

@[simp] theorem onePass_nil (bindings : Bindings) : onePass bindings [] = [] := rfl

/-- Characters of an occurrence that is replaced are passed over. -/
theorem onePassFrom_length_append (bindings : Bindings) (skipped rest : List Char) :
    onePassFrom bindings skipped.length (skipped ++ rest) = onePass bindings rest := by
  induction skipped with
  | nil => rfl
  | cons c cs ih => simpa [onePassFrom] using ih

theorem onePass_of_match (hname : name ≠ [])
    (h : match? bindings (name ++ after) = some (name, replacement)) :
    onePass bindings (name ++ after) = replacement ++ onePass bindings after := by
  obtain ⟨c, cs, rfl⟩ := List.exists_cons_of_ne_nil hname
  rw [List.cons_append] at h
  rw [onePass, List.cons_append, onePassFrom, h]
  simp [onePassFrom_length_append]

theorem onePass_of_no_match {c : Char} {cs : List Char} (h : match? bindings (c :: cs) = none) :
    onePass bindings (c :: cs) = c :: onePass bindings cs := by
  rw [onePass, onePassFrom, h]
  rfl

theorem match?_eq_none_iff {cs : List Char} :
    match? bindings cs = none ↔ ∀ binding ∈ bindings, ¬ binding.1 <+: cs := by
  simp [match?]

/-- What is found stands at the start of the text. -/
theorem of_match?_eq_some {cs : List Char} (h : match? bindings cs = some binding) :
    binding ∈ bindings ∧ binding.1 <+: cs := by
  unfold match? at h
  refine ⟨List.mem_of_find?_eq_some h, ?_⟩
  simpa using List.find?_some h

theorem passes_onePass (h : Named bindings) (text : List Char) :
    Passes bindings text (onePass bindings text) := by
  induction hlength : text.length using Nat.strongRecOn generalizing text with
  | _ n ih =>
    cases text with
    | nil => exact .done
    | cons c cs =>
      cases hmatch : match? bindings (c :: cs) with
      | none =>
        rw [onePass_of_no_match hmatch]
        exact .kept hmatch (ih cs.length (by simp [← hlength]) cs rfl)
      | some binding =>
        obtain ⟨name, replacement⟩ := binding
        obtain ⟨hmem, rest, hrest⟩ := of_match?_eq_some hmatch
        have hname : name ≠ [] := (h _ hmem).ne_nil
        have hshort : rest.length < n := by
          have hlen := congrArg List.length hrest
          have hpos := List.length_pos_iff.2 hname
          simp only [List.length_append] at hlen
          omega
        rw [← hrest] at hmatch ⊢
        rw [onePass_of_match hname hmatch]
        exact .replaced hmatch (ih rest.length hshort rest rfl)

/-- Induction along a pass needs its result as a variable. -/
theorem exists_passes (h : Named bindings) (text : List Char) : ∃ out, Passes bindings text out :=
  ⟨_, passes_onePass h text⟩

/-- A name alone is replaced in one pass. -/
theorem replaceAll_eq_onePass (hname : name ≠ []) (replacement text : List Char) :
    replaceAll name replacement text = onePass [(name, replacement)] text := by
  obtain ⟨c, cs, rfl⟩ := List.exists_cons_of_ne_nil hname
  rw [replaceAll, onePass]
  generalize 0 = skip
  induction text generalizing skip with
  | nil => cases skip <;> rfl
  | cons d ds ih =>
    cases skip with
    | succ skip => exact ih skip
    | zero =>
      rw [replaceFrom, onePassFrom, match?]
      by_cases hstart : (c :: cs).isPrefixOf (d :: ds) = true
      · simp [hstart, ih]
      · simp [hstart, ih]

/-! ## Texts in pieces -/

theorem match?_append (h : Named bindings) (hbefore : before ≠ []) (hafter : Stops after) :
    match? bindings (before ++ after) = match? bindings before := by
  unfold match?
  induction bindings with
  | nil => rfl
  | cons binding rest ih =>
    have hhead : binding.1.isPrefixOf (before ++ after) = binding.1.isPrefixOf before := by
      have hiff := (h binding List.mem_cons_self).prefix_append_iff hbefore hafter
      rwa [← List.isPrefixOf_iff_prefix, ← List.isPrefixOf_iff_prefix, ← Bool.eq_iff_iff] at hiff
    have hrest := ih fun other hother => h other (List.mem_cons_of_mem _ hother)
    simp only [List.find?_cons, hhead, hrest]

/-- A text that is cut where it stops is replaced piece by piece. -/
theorem onePass_append (h : Named bindings) (before : List Char) (hafter : Stops after) :
    onePass bindings (before ++ after) = onePass bindings before ++ onePass bindings after := by
  obtain ⟨_, hpasses⟩ := exists_passes h before
  induction hpasses with
  | done => rfl
  | @replaced name replacement rest out found next ih =>
    have hname : name ≠ [] := (h _ (of_match?_eq_some found).1).ne_nil
    have hall : match? bindings (name ++ (rest ++ after)) = some (name, replacement) := by
      rw [← List.append_assoc, match?_append h (by simp [hname]) hafter, found]
    rw [List.append_assoc, onePass_of_match hname hall, onePass_of_match hname found, ih,
      List.append_assoc]
  | @kept c cs out absent next ih =>
    have hall : match? bindings (c :: (cs ++ after)) = none := by
      rw [← List.cons_append, match?_append h (by simp) hafter, absent]
    rw [List.cons_append, onePass_of_no_match hall, onePass_of_no_match absent, ih,
      List.cons_append]

/-- No name starts in a text without dollar signs. -/
theorem onePass_append_of_no_sign (h : Named bindings) (hsign : '$' ∉ before)
    (after : List Char) : onePass bindings (before ++ after) = before ++ onePass bindings after := by
  induction before with
  | nil => rfl
  | cons c cs ih =>
    have hmatch : match? bindings (c :: (cs ++ after)) = none := by
      rw [match?_eq_none_iff]
      rintro binding hmem ⟨rest, hrest⟩
      obtain ⟨word, hword, -, -⟩ := h binding hmem
      rw [hword] at hrest
      obtain rfl : '$' = c := (List.cons.inj hrest).1
      exact hsign List.mem_cons_self
    rw [List.cons_append, onePass_of_no_match hmatch, ih (List.not_mem_of_not_mem_cons hsign),
      List.cons_append]

/-- A text in which no name occurs stays as it is. -/
theorem onePass_of_no_occurrence (h : ∀ binding ∈ bindings, ¬ binding.1 <:+: text) :
    onePass bindings text = text := by
  induction text with
  | nil => rfl
  | cons c cs ih =>
    have hmatch : match? bindings (c :: cs) = none := by
      rw [match?_eq_none_iff]
      intro binding hmem hstart
      exact h binding hmem hstart.isInfix
    have hrest : ∀ binding ∈ bindings, ¬ binding.1 <:+: cs := by
      intro binding hmem hinfix
      exact h binding hmem (List.infix_cons hinfix)
    rw [onePass_of_no_match hmatch, ih hrest]

/-! ## Names that keep apart -/

/-- Neither of two names starts with the other one, so that no occurrences of them share a place. -/
def Unlike (first second : List Char) : Prop :=
  ¬ first <+: second ∧ ¬ second <+: first

/-- No name starts with another one. -/
def Apart (bindings : Bindings) : Prop :=
  bindings.Pairwise fun first second => Unlike first.1 second.1

/-- Where a name stands, no name unlike it does. -/
theorem Unlike.not_prefix_append {other : List Char} (h : Unlike name other)
    (after : List Char) : ¬ name <+: other ++ after := by
  intro hstart
  rcases List.prefix_or_prefix_of_prefix hstart (List.prefix_append other after) with h' | h'
  · exact h.1 h'
  · exact h.2 h'

/-- Where a name stands, its own binding is found. -/
theorem match?_of_mem (hapart : Apart bindings) (hmem : (name, replacement) ∈ bindings)
    (after : List Char) : match? bindings (name ++ after) = some (name, replacement) := by
  unfold match?
  induction bindings with
  | nil => simp at hmem
  | cons binding rest ih =>
    obtain ⟨hfirst, hrest⟩ := List.pairwise_cons.1 hapart
    rcases List.mem_cons.1 hmem with rfl | hmem
    · simp
    · have hother : binding.1.isPrefixOf (name ++ after) = false := by
        rw [Bool.eq_false_iff, ne_eq, List.isPrefixOf_iff_prefix]
        exact (hfirst _ hmem).not_prefix_append after
      rw [List.find?_cons, hother]
      exact ih hrest hmem

/-- A name unlike those that are replaced stays where it is. -/
theorem onePass_append_of_unlike (h : Named bindings) (hname : IsName name)
    (hunlike : ∀ binding ∈ bindings, Unlike binding.1 name) (after : List Char) :
    onePass bindings (name ++ after) = name ++ onePass bindings after := by
  have habsent : match? bindings (name ++ after) = none := by
    rw [match?_eq_none_iff]
    intro binding hmem
    exact (hunlike binding hmem).not_prefix_append after
  obtain ⟨word, rfl, hword, -⟩ := hname
  rw [List.cons_append] at habsent ⊢
  rw [onePass_of_no_match habsent, onePass_append_of_no_sign h hword, List.cons_append]

/-- **Each occurrence of a name is replaced for itself.** -/
theorem onePass_occurrence (h : Named bindings) (hapart : Apart bindings)
    (hmem : (name, replacement) ∈ bindings) (before after : List Char) :
    onePass bindings (before ++ (name ++ after)) =
      onePass bindings before ++ (replacement ++ onePass bindings after) := by
  have hname := h _ hmem
  rw [onePass_append h before (hname.stops_append after),
    onePass_of_match hname.ne_nil (match?_of_mem hapart hmem after)]

/-! ## One name after the other -/

/-- Names that keep apart, with replacements of which none but the last one can bring a name or go
on with one: each starts with a separator and is free of dollar signs. -/
structure Separated (bindings : Bindings) : Prop where
  /-- The names can be referred to. -/
  named : Named bindings
  /-- No name starts with another one. -/
  apart : Apart bindings
  /-- The replacements start with a separator. -/
  slash : ∀ binding ∈ bindings.dropLast, ∃ rest, binding.2 = '/' :: rest
  /-- They are free of dollar signs. -/
  unsigned : ∀ binding ∈ bindings.dropLast, '$' ∉ binding.2

theorem Separated.tail (h : Separated (binding :: bindings)) : Separated bindings := by
  have hsub : ∀ other ∈ bindings.dropLast, other ∈ (binding :: bindings).dropLast := by
    intro other hother
    cases bindings with
    | nil => simp at hother
    | cons next rest => exact List.mem_cons_of_mem _ hother
  refine ⟨(named_cons_iff.1 h.named).2, (List.pairwise_cons.1 h.apart).2, ?_, ?_⟩
  · intro other hother
    exact h.slash other (hsub other hother)
  · intro other hother
    exact h.unsigned other (hsub other hother)

/-- What a replaced text starts with, as far as it can go on with a name, the text starts with
itself: a replacement starts with a separator. -/
theorem prefix_of_prefix_onePass (h : Named bindings)
    (hslash : ∀ binding ∈ bindings, ∃ rest, binding.2 = '/' :: rest) {word : List Char}
    (hword : '/' ∉ word) (hstart : word <+: onePass bindings text) : word <+: text := by
  obtain ⟨_, hpasses⟩ := exists_passes h text
  induction hpasses generalizing word with
  | done => exact hstart
  | @replaced name replacement rest out found next ih =>
    obtain ⟨hmem, -⟩ := of_match?_eq_some found
    rw [onePass_of_match (h _ hmem).ne_nil found] at hstart
    obtain ⟨tail, htail⟩ := hslash _ hmem
    cases word with
    | nil => exact List.nil_prefix
    | cons c word =>
      exfalso
      simp only at htail
      rw [htail, List.cons_append, List.cons_prefix_cons] at hstart
      exact hword (hstart.1 ▸ List.mem_cons_self)
  | @kept c cs out absent next ih =>
    rw [onePass_of_no_match absent] at hstart
    cases word with
    | nil => exact List.nil_prefix
    | cons d word =>
      rw [List.cons_prefix_cons] at hstart ⊢
      exact ⟨hstart.1, ih (fun hmem => hword (List.mem_cons_of_mem _ hmem)) hstart.2⟩

/-- **Replacing other names moves a name and makes none**: the name stands in what is left exactly
where it stood in the text, between what became of the two sides. -/
theorem onePass_eq_append_iff (h : Named bindings)
    (hslash : ∀ binding ∈ bindings, ∃ rest, binding.2 = '/' :: rest)
    (hsign : ∀ binding ∈ bindings, '$' ∉ binding.2) (hname : IsName name)
    (hunlike : ∀ binding ∈ bindings, Unlike binding.1 name) {before' after' : List Char} :
    onePass bindings text = before' ++ (name ++ after') ↔
      ∃ before after, text = before ++ (name ++ after) ∧ onePass bindings before = before' ∧
        onePass bindings after = after' := by
  constructor
  · intro hout
    obtain ⟨_, hpasses⟩ := exists_passes h text
    induction hpasses generalizing before' with
    | done =>
      exfalso
      have hnil : name = [] := by
        have hparts := List.append_eq_nil_iff.1 hout.symm
        exact (List.append_eq_nil_iff.1 hparts.2).1
      exact hname.ne_nil hnil
    | @replaced found replacement rest out hfound next ih =>
      obtain ⟨hmem, -⟩ := of_match?_eq_some hfound
      have hne : found ≠ [] := (h _ hmem).ne_nil
      rw [onePass_of_match hne hfound] at hout
      -- The replacement has no dollar sign, so the name stands behind it.
      have hshort : replacement <+: before' := by
        rcases List.append_eq_append_iff.1 hout with ⟨more, hmore, -⟩ | ⟨more, hmore, hrest⟩
        · exact ⟨more, hmore.symm⟩
        · cases more with
          | nil => simp [hmore]
          | cons c more =>
            exfalso
            obtain ⟨word, rfl, -, -⟩ := hname
            obtain rfl : '$' = c := (List.cons.inj hrest).1
            exact hsign _ hmem (by simp [hmore])
      obtain ⟨middle, rfl⟩ := hshort
      rw [List.append_assoc, List.append_cancel_left_eq] at hout
      obtain ⟨before, after, rfl, rfl, rfl⟩ := ih hout
      refine ⟨found ++ before, after, by rw [List.append_assoc], ?_, rfl⟩
      refine onePass_of_match hne ?_
      rwa [← List.append_assoc, match?_append h (by simp [hne]) (hname.stops_append after)]
        at hfound
    | @kept c cs out absent next ih =>
      rw [onePass_of_no_match absent] at hout
      cases before' with
      | nil =>
        obtain ⟨word, rfl, hword, hfree⟩ := hname
        obtain ⟨rfl, hrest⟩ := List.cons.inj hout
        obtain ⟨after, rfl⟩ : word <+: cs := by
          refine prefix_of_prefix_onePass h hslash hfree ?_
          rw [hrest]
          exact List.prefix_append _ _
        rw [onePass_append_of_no_sign h hword] at hrest
        exact ⟨[], after, rfl, rfl, List.append_cancel_left hrest⟩
      | cons d middle =>
        obtain ⟨rfl, hrest⟩ := List.cons.inj hout
        obtain ⟨before, after, rfl, rfl, rfl⟩ := ih hrest
        refine ⟨c :: before, after, rfl, ?_, rfl⟩
        refine onePass_of_no_match ?_
        rwa [← List.cons_append, match?_append h (by simp) (hname.stops_append after)] at absent
  · rintro ⟨before, after, rfl, rfl, rfl⟩
    rw [onePass_append h before (hname.stops_append after),
      onePass_append_of_unlike h hname hunlike]

/-- A name is replaced before all others or together with them, which makes no difference: its
replacement brings no other name, and the others stay where they are. -/
theorem onePass_cons (h : Named (binding :: bindings)) (hapart : Apart (binding :: bindings))
    (hslash : ∃ rest, binding.2 = '/' :: rest) (hsign : '$' ∉ binding.2) (text : List Char) :
    onePass bindings (onePass [binding] text) = onePass (binding :: bindings) text := by
  obtain ⟨hname, hothers⟩ := named_cons_iff.1 h
  have hfirst : Named [binding] := named_singleton_iff.2 hname
  obtain ⟨hnot, hapart'⟩ := List.pairwise_cons.1 hapart
  obtain ⟨_, hpasses⟩ := exists_passes h text
  induction hpasses with
  | done => rfl
  | @replaced name replacement rest out found next ih =>
    obtain ⟨hmem, -⟩ := of_match?_eq_some found
    have hfound := h _ hmem
    rw [onePass_of_match hfound.ne_nil found, ← ih]
    rcases List.mem_cons.1 hmem with rfl | hother
    · have hown : match? [(name, replacement)] (name ++ rest) = some (name, replacement) := by
        simp [match?]
      rw [onePass_of_match hfound.ne_nil hown, onePass_append_of_no_sign hothers hsign]
    · have hunlike : ∀ first ∈ [binding], Unlike first.1 name := by
        intro first hin
        obtain rfl := List.mem_singleton.1 hin
        exact hnot _ hother
      rw [onePass_append_of_unlike hfirst hfound hunlike,
        onePass_of_match hfound.ne_nil (match?_of_mem hapart' hother _)]
  | @kept c cs out absent next ih =>
    rw [match?_eq_none_iff] at absent
    have hkept : match? [binding] (c :: cs) = none := by
      rw [match?_eq_none_iff]
      intro first hin
      obtain rfl := List.mem_singleton.1 hin
      exact absent _ List.mem_cons_self
    have hkept' : match? bindings (c :: onePass [binding] cs) = none := by
      rw [match?_eq_none_iff]
      intro other hother hstart
      obtain ⟨word, hword, -, hfree⟩ := hothers other hother
      rw [hword, List.cons_prefix_cons] at hstart
      have hslash' : ∀ first ∈ [binding], ∃ rest, first.2 = '/' :: rest := by
        simpa using hslash
      refine absent other (List.mem_cons_of_mem _ hother) ?_
      rw [hword, List.cons_prefix_cons]
      exact ⟨hstart.1, prefix_of_prefix_onePass hfirst hslash' hfree hstart.2⟩
    rw [onePass_of_no_match hkept, onePass_of_no_match hkept', ih,
      onePass_of_no_match (match?_eq_none_iff.2 absent)]

/-- The first name is replaced by a pass of its own, the others in the text that it leaves. -/
theorem apply_cons (hname : IsName binding.1) (text : List Char) :
    apply (binding :: bindings) text = apply bindings (onePass [binding] text) := by
  rw [← replaceAll_eq_onePass hname.ne_nil]
  rfl

/-- **Names that keep apart are replaced one after the other as in one pass.** -/
theorem apply_eq_onePass (h : Separated bindings) (text : List Char) :
    apply bindings text = onePass bindings text := by
  induction bindings generalizing text with
  | nil => exact (onePass_of_no_occurrence (by simp)).symm
  | cons binding rest ih =>
    rw [apply_cons (h.named _ List.mem_cons_self)]
    cases rest with
    | nil => rfl
    | cons next rest =>
      have hin : binding ∈ (binding :: next :: rest).dropLast := List.mem_cons_self
      rw [ih h.tail, onePass_cons h.named h.apart (h.slash _ hin) (h.unsigned _ hin)]

/-- The names before one of them keep apart, and none of their replacements is the last one. -/
theorem Separated.earlier {earlier later : Bindings}
    (h : Separated (earlier ++ binding :: later)) :
    Separated earlier ∧ (∀ other ∈ earlier, ∃ rest, other.2 = '/' :: rest) ∧
      (∀ other ∈ earlier, '$' ∉ other.2) ∧ ∀ other ∈ earlier, Unlike other.1 binding.1 := by
  have hdropped : ∀ other ∈ earlier, other ∈ (earlier ++ binding :: later).dropLast := by
    intro other hother
    rw [List.dropLast_append_of_ne_nil (by simp)]
    exact List.mem_append_left _ hother
  have hslash : ∀ other ∈ earlier, ∃ rest, other.2 = '/' :: rest :=
    fun other hother => h.slash other (hdropped other hother)
  have hsign : ∀ other ∈ earlier, '$' ∉ other.2 :=
    fun other hother => h.unsigned other (hdropped other hother)
  obtain ⟨hapart, -, hunlike⟩ := List.pairwise_append.1 h.apart
  refine ⟨⟨?_, hapart, ?_, ?_⟩, hslash, hsign, ?_⟩
  · intro other hother
    exact h.named other (List.mem_append_left _ hother)
  · intro other hother
    exact hslash other (List.dropLast_subset _ hother)
  · intro other hother
    exact hsign other (List.dropLast_subset _ hother)
  · intro other hother
    exact hunlike other hother binding List.mem_cons_self

/-- **When a name has its turn, it stands where it stood in the text**: the names before it moved
its occurrences, but brought none and took none away. -/
theorem apply_earlier_eq_append_iff {earlier later : Bindings}
    (h : Separated (earlier ++ binding :: later)) {before' after' : List Char} :
    apply earlier text = before' ++ (binding.1 ++ after') ↔
      ∃ before after, text = before ++ (binding.1 ++ after) ∧ apply earlier before = before' ∧
        apply earlier after = after' := by
  obtain ⟨hearlier, hslash, hsign, hunlike⟩ := h.earlier
  have hname : IsName binding.1 := h.named _ (List.mem_append_right _ List.mem_cons_self)
  simp only [apply_eq_onePass hearlier]
  exact onePass_eq_append_iff hearlier.named hslash hsign hname hunlike

/-! ## Environments -/

/-- The names of an environment and their replacements, character by character. -/
def bindingsOf (env : Environment) : Bindings :=
  env.map fun binding => (binding.1.toList, binding.2.toList)

theorem toList_expand (env : Environment) (text : String) :
    (expand env text).toList = apply (bindingsOf env) text.toList := by
  rw [expand, String.toList_ofList]
  rfl

end NorFlash.Substitution
