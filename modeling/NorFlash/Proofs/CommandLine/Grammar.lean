import Mathlib.Data.List.TakeDrop
import NorFlash.CommandLine.Grammar
import NorFlash.Proofs.Action

/-!
# Properties that a grammar keeps

A property of the value that a command line builds up holds of the value in the end if it holds at
the start and each option and the operand keep it (`Grammar.Keeps.parse`). Arguments are sorted into
options of the grammar only (`Grammar.knows_classify`), so nothing else takes effect. The texts that
options are given are parts of the arguments, so they may be taken to be made of the characters that
the arguments are made of.
-/

namespace NorFlash.CommandLine

variable {σ : Type}

/-- A text is made of characters with a property. -/
def MadeOf (q : Char → Prop) (text : String) : Prop :=
  ∀ c ∈ text.toList, q c

/-- What an option does keeps a property, if its value is made of some characters. -/
def Effect.Keeps (q : Char → Prop) (P : σ → Prop) : Effect σ → Prop
  | .switch f => ∀ x, P x → P (f x)
  | .valued f => ∀ text x y, (∀ value ∈ text, MadeOf q value) → f text x = .ok y → P x → P y
  | .help _ => True

/-- What an operand does keeps a property, if its arguments are made of some characters. -/
def OperandSpec.Keeps (q : Char → Prop) (P : σ → Prop) (o : OperandSpec σ) : Prop :=
  ∀ args x y, (∀ arg ∈ args, MadeOf q arg) → o.effect args x = .ok y → P x → P y

namespace Grammar

/-- All that may stand on a command line made of some characters keeps a property. -/
structure Keeps (g : Grammar σ) (q : Char → Prop) (P : σ → Prop) : Prop where
  /-- The options keep it. -/
  options : ∀ o ∈ g.options, o.effect.Keeps q P
  /-- The operand keeps it. -/
  operand : ∀ o ∈ g.operand, o.Keeps q P

/-- An argument that was sorted as an option is one of the grammar, or one without a meaning, and
its value is made of some characters. -/
def Knows (g : Grammar σ) (q : Char → Prop) : Class σ → Prop
  | .option written =>
    (∀ o ∈ written.option, o ∈ g.options) ∧ ∀ value ∈ written.value, MadeOf q value
  | .operand | .mark => True

variable {g : Grammar σ} {q : Char → Prop} {P : σ → Prop} {o : OptionSpec σ}

/-! ## Sorting -/

theorem mem_of_option? {name : String} (h : g.option? name = some o) : o ∈ g.options :=
  List.mem_of_find?_eq_some h

theorem mem_of_allNames {entry : String × OptionSpec σ} (h : entry ∈ g.allNames) :
    entry.2 ∈ g.options := by
  obtain ⟨found, hfound, hentry⟩ := List.mem_flatMap.1 h
  obtain ⟨name, -, rfl⟩ := List.mem_map.1 hentry
  exact hfound

/-- The value after an equals sign is a part of the argument. -/
theorem madeOf_divide {arg value : String} (harg : MadeOf q arg)
    (h : (divide arg).2 = some value) : MadeOf q value := by
  rw [divide, List.span_eq_takeWhile_dropWhile] at h
  split at h
  · next name c rest hspan =>
    obtain rfl := Option.some.inj h
    intro d hd
    have hrest : arg.toList.dropWhile (fun c => decide (c ≠ '=')) = c :: rest :=
      (Prod.ext_iff.1 hspan).2
    have hmem : d ∈ arg.toList.dropWhile (fun c => decide (c ≠ '=')) := by
      rw [hrest]
      exact List.mem_cons_of_mem _ (by simpa using hd)
    exact harg d (List.dropWhile_subset _ hmem)
  · simp at h

theorem knows_longMatches {arg : String} {entry : String × Written σ} (harg : MadeOf q arg)
    (h : entry ∈ g.longMatches arg) : g.Knows q (.option entry.2) := by
  rw [longMatches] at h
  split at h
  · obtain ⟨named, hnamed, rfl⟩ := List.mem_map.1 h
    refine ⟨?_, fun value hvalue => madeOf_divide harg hvalue⟩
    rintro found hfound
    obtain rfl := Option.mem_some.1 hfound
    exact mem_of_allNames (List.mem_filter.1 hnamed).1
  · simp at h

theorem knows_shortMatches {arg : String} {entry : String × Written σ} (harg : MadeOf q arg)
    (h : entry ∈ g.shortMatches arg) : g.Knows q (.option entry.2) := by
  obtain ⟨named, hnamed, hentry⟩ := List.mem_filterMap.1 h
  have hmem := mem_of_allNames hnamed
  split at hentry
  · obtain rfl := Option.some.inj hentry
    refine ⟨?_, ?_⟩
    · rintro found hfound
      obtain rfl := Option.mem_some.1 hfound
      exact hmem
    · rintro value hvalue
      obtain rfl := Option.mem_some.1 hvalue
      intro c hc
      exact harg c (List.mem_of_mem_drop (by simpa using hc))
  · split at hentry
    · obtain rfl := Option.some.inj hentry
      refine ⟨?_, by simp⟩
      rintro found hfound
      obtain rfl := Option.mem_some.1 hfound
      exact hmem
    · simp at hentry

theorem knows_unnamed {arg : String} {c : Class σ} (harg : MadeOf q arg)
    (h : classifyOne.unnamed g arg = .ok c) : g.Knows q c := by
  have hall : ∀ entry ∈ (if arg.startsWith "--" then g.longMatches arg else g.shortMatches arg),
      g.Knows q (.option entry.2) := by
    intro entry hentry
    split at hentry
    · exact knows_longMatches harg hentry
    · exact knows_shortMatches harg hentry
  rw [classifyOne.unnamed] at h
  split at h
  · next name written hone =>
    obtain rfl := Except.ok.inj h
    exact hall (name, written) (by rw [hone]; exact List.mem_singleton_self _)
  · split at h
    · obtain rfl := Except.ok.inj h
      trivial
    · obtain rfl := Except.ok.inj h
      simp [Knows]
  · simp at h

theorem knows_classifyOne {arg : String} {c : Class σ} (harg : MadeOf q arg)
    (h : g.classifyOne arg = .ok c) : g.Knows q c := by
  have hnamed : ∀ {name : String} {long : Bool} {value : Option String} {o : OptionSpec σ},
      g.option? name = some o → (∀ text ∈ value, MadeOf q text) →
        g.Knows q (.option ⟨some o, long, value⟩) := by
    rintro name long value o ho hvalue
    refine ⟨?_, hvalue⟩
    rintro found hfound
    obtain rfl := Option.mem_some.1 hfound
    exact mem_of_option? ho
  rw [classifyOne] at h
  split at h
  · obtain rfl := Except.ok.inj h
    trivial
  · split at h
    · next o ho =>
      obtain rfl := Except.ok.inj h
      exact hnamed ho (by simp)
    · split at h
      · obtain rfl := Except.ok.inj h
        trivial
      · split at h
        · next name value hdivide =>
          split at h
          · next o ho =>
            obtain rfl := Except.ok.inj h
            refine hnamed ho fun text htext => ?_
            obtain rfl := Option.mem_some.1 htext
            exact madeOf_divide harg (by rw [hdivide])
          · exact knows_unnamed harg h
        · exact knows_unnamed harg h

/-- Arguments are sorted into options of the grammar. -/
theorem knows_classify {args : List String} {items : List (String × Class σ)}
    (hargs : ∀ arg ∈ args, MadeOf q arg) (h : g.classify args = .ok items) :
    ∀ item ∈ items, MadeOf q item.1 ∧ g.Knows q item.2 := by
  fun_induction classify g args generalizing items with
  | case1 =>
    obtain rfl := Except.ok.inj h
    simp
  | case2 rest =>
    obtain rfl := Except.ok.inj h
    obtain ⟨hfirst, hrest⟩ := List.forall_mem_cons.1 hargs
    intro item hitem
    rcases List.mem_cons.1 hitem with rfl | hitem
    · exact ⟨hfirst, trivial⟩
    · obtain ⟨arg, harg, rfl⟩ := List.mem_map.1 hitem
      exact ⟨hrest arg harg, trivial⟩
  | case3 arg rest hmark ih =>
    obtain ⟨hfirst, hothers⟩ := List.forall_mem_cons.1 hargs
    obtain ⟨c, hone, h⟩ := of_bind_eq_ok h
    obtain ⟨cs, hrest, h⟩ := of_bind_eq_ok h
    obtain rfl := Except.ok.inj h
    exact List.forall_mem_cons.2 ⟨⟨hfirst, knows_classifyOne hfirst hone⟩, ih hothers hrest⟩

/-! ## Options -/

/-- An option of the grammar with its value, which is made of some characters. -/
def Takes (g : Grammar σ) (q : Char → Prop) (entry : OptionSpec σ × Option String) : Prop :=
  entry.1 ∈ g.options ∧ ∀ value ∈ entry.2, MadeOf q value

/-- An option in front of options of the grammar. -/
theorem takes_of_cons {rest : Except Stop (Bundle σ)} {b : Bundle σ} (ho : o ∈ g.options)
    (hrest : ∀ b, rest = .ok b → ∀ entry ∈ b.options, g.Takes q entry)
    (h : rest.map (Bundle.cons o) = .ok b) : ∀ entry ∈ b.options, g.Takes q entry := by
  cases rest with
  | error stop => simp [Except.map] at h
  | ok b' =>
    obtain rfl := Except.ok.inj h
    exact List.forall_mem_cons.2 ⟨⟨ho, by simp⟩, hrest b' rfl⟩

theorem mem_of_letter {long : Bool} {name : String}
    (h : (if long = true then none else g.option? name) = some o) : o ∈ g.options := by
  split at h
  · simp at h
  · exact mem_of_option? h

/-- The options written together in one argument are options of the grammar, and the last of them
may have the rest of the argument as its value. -/
theorem takes_of_bundle {long : Bool} {value : Option (List Char)} {b : Bundle σ}
    (ho : o ∈ g.options) (hvalue : ∀ cs ∈ value, ∀ c ∈ cs, q c)
    (h : g.bundle o long value = .ok b) : ∀ entry ∈ b.options, g.Takes q entry := by
  fun_induction bundle g o long value generalizing b with
  | case1 | case2 =>
    obtain rfl := Except.ok.inj h
    simpa [Takes, MadeOf] using ho
  | case4 =>
    obtain rfl := Except.ok.inj h
    simpa [Takes, MadeOf, ho] using hvalue
  | case3 | case5 => simp at h
  | case6 _ _ _ _ next hnext ih =>
    exact takes_of_cons ho (fun _ => ih (mem_of_letter hnext) (by simp)) h
  | case7 _ _ c _ next d ds hnext ih =>
    refine takes_of_cons ho (fun _ => ih (mem_of_letter hnext) ?_) h
    rintro cs hcs
    obtain rfl := Option.mem_some.1 hcs
    exact fun e he => hvalue _ rfl e (List.mem_cons_of_mem _ he)

/-- The last option with another value is the same option. -/
theorem takes_of_lastValue {options : List (OptionSpec σ × Option String)} {value : String}
    (h : ∀ entry ∈ options, g.Takes q entry) (hvalue : MadeOf q value) :
    ∀ entry ∈ options.dropLast ++ (options.getLast?.map fun e => (e.1, some value)).toList,
      g.Takes q entry := by
  intro entry hentry
  rcases List.mem_append.1 hentry with hfirst | hlast
  · exact h entry (List.dropLast_subset _ hfirst)
  · obtain ⟨last, hmem, rfl⟩ := Option.map_eq_some_iff.1 (Option.mem_toList.1 hlast)
    exact ⟨(h last (List.mem_of_getLast? hmem)).1, by simpa using hvalue⟩

/-! ## Effects -/

theorem Keeps.applyOption (hg : g.Keeps q P) {value : Option String} (ho : g.Takes q (o, value))
    {x y : σ} (h : g.applyOption o value x = .ok y) (hx : P x) : P y := by
  have hkeeps := hg.options o ho.1
  unfold Grammar.applyOption at h
  split at h
  · simp at h
  · next f heffect =>
    rw [heffect] at hkeeps
    obtain rfl := Except.ok.inj h
    exact hkeeps x hx
  · next f text heffect =>
    rw [heffect] at hkeeps
    split at h
    · next z hz =>
      obtain rfl := Except.ok.inj h
      refine hkeeps _ _ _ (fun given hgiven => ?_) hz hx
      split at hgiven
      · simp at hgiven
      · exact ho.2 given hgiven
    · simp at h
  · simp at h

theorem Keeps.applyAll (hg : g.Keeps q P) {options : List (OptionSpec σ × Option String)}
    (hoptions : ∀ entry ∈ options, g.Takes q entry) {x y : σ}
    (h : g.applyAll options x = .ok y) (hx : P x) : P y := by
  induction options generalizing x with
  | nil =>
    obtain rfl := Except.ok.inj h
    exact hx
  | cons entry rest ih =>
    obtain ⟨hentry, hrest⟩ := List.forall_mem_cons.1 hoptions
    obtain ⟨z, hz, h⟩ := of_bind_eq_ok h
    exact ih hrest h (hg.applyOption hentry hz hx)

/-! ## Taking arguments -/

/-- What is built up has the property, and the operand that is left keeps it. -/
def Holds (q : Char → Prop) (P : σ → Prop) (p : Progress σ) : Prop :=
  P p.value ∧ ∀ o ∈ p.operand, o.Keeps q P

theorem holds_takeOperand {p p' : Progress σ} {items : List (String × Class σ)} {n : Nat}
    (hp : Holds q P p) (hitems : ∀ item ∈ items, MadeOf q item.1)
    (h : takeOperand p items = .ok (n, p')) : Holds q P p' := by
  rw [takeOperand] at h
  split at h
  · obtain ⟨-, rfl⟩ := Prod.ext_iff.1 (Except.ok.inj h)
    exact hp
  · next o ho =>
    split at h
    · obtain ⟨-, rfl⟩ := Prod.ext_iff.1 (Except.ok.inj h)
      exact hp
    · next taken _ =>
      obtain ⟨x, hx, h⟩ := of_bind_eq_ok h
      obtain ⟨-, rfl⟩ := Prod.ext_iff.1 (Except.ok.inj h)
      refine ⟨hp.2 o ho _ _ _ (fun arg harg => ?_) hx hp.1, by simp⟩
      have hmem : arg ∈ (items.take taken).map (·.1) := by
        rw [withoutMark] at harg
        split at harg
        · exact harg
        · exact List.mem_of_mem_erase harg
      obtain ⟨item, hitem, rfl⟩ := List.mem_map.1 hmem
      exact hitems item (List.mem_of_mem_take hitem)

theorem Keeps.takeOption (hg : g.Keeps q P) {p p' : Progress σ} {arg : String} {written : Written σ}
    {rest : List (String × Class σ)} {taken : Bool} (hknown : g.Knows q (.option written))
    (hrest : ∀ item ∈ rest, MadeOf q item.1) (hp : Holds q P p)
    (h : g.takeOption p arg written rest = .ok (taken, p')) : Holds q P p' := by
  rw [Grammar.takeOption] at h
  split at h
  · obtain ⟨-, rfl⟩ := Prod.ext_iff.1 (Except.ok.inj h)
    exact hp
  · next o ho =>
    obtain ⟨b, hb, h⟩ := of_bind_eq_ok h
    have hmem := takes_of_bundle (hknown.1 o ho) (q := q) (fun cs hcs => ?_) hb
    · split at h
      · split at h
        · obtain ⟨x, hx, h⟩ := of_bind_eq_ok h
          obtain ⟨-, rfl⟩ := Prod.ext_iff.1 (Except.ok.inj h)
          exact ⟨hg.applyAll (takes_of_lastValue hmem (hrest _ List.mem_cons_self)) hx hp.1, hp.2⟩
        · simp at h
      · obtain ⟨x, hx, h⟩ := of_bind_eq_ok h
        obtain ⟨-, rfl⟩ := Prod.ext_iff.1 (Except.ok.inj h)
        exact ⟨hg.applyAll hmem hx hp.1, hp.2⟩
    · obtain ⟨value, hvalue, rfl⟩ := Option.map_eq_some_iff.1 hcs
      exact hknown.2 value hvalue

/-- Taking all arguments keeps the property; the induction is on the fuel. -/
theorem Keeps.consume (hg : g.Keeps q P) {fuel : Nat} {p p' : Progress σ}
    {items : List (String × Class σ)} (hitems : ∀ item ∈ items, MadeOf q item.1 ∧ g.Knows q item.2)
    (hp : Holds q P p) (h : g.consume fuel p items = .ok p') : Holds q P p' := by
  induction fuel generalizing p items with
  | zero =>
    obtain rfl := Except.ok.inj h
    exact hp
  | succ fuel ih =>
    unfold Grammar.consume at h
    split at h
    · split at h
      · next arg written rest =>
        obtain ⟨hfirst, hrest⟩ := List.forall_mem_cons.1 hitems
        obtain ⟨⟨taken, p₁⟩, htake, h⟩ := of_bind_eq_ok h
        refine ih (fun item hitem => hrest item ?_)
          (hg.takeOption hfirst.2 (fun item hitem => (hrest item hitem).1) hp htake) h
        split at hitem
        · exact List.mem_of_mem_tail hitem
        · exact hitem
      · obtain ⟨⟨n, p₁⟩, htake, h⟩ := of_bind_eq_ok h
        obtain ⟨hvalue, hoperand⟩ :=
          holds_takeOperand hp (fun item hitem => (hitems item hitem).1) htake
        dsimp only at h
        split at h
        · refine ih (fun item hitem => hitems item ?_) ⟨hvalue, hoperand⟩ h
          exact List.mem_of_mem_drop hitem
        · refine ih (fun item hitem => hitems item ?_) ?_ h
          · exact List.dropWhile_subset _ hitem
          · exact ⟨hvalue, hoperand⟩
    · obtain ⟨⟨n, p₁⟩, htake, h⟩ := of_bind_eq_ok h
      obtain ⟨hvalue, hoperand⟩ :=
        holds_takeOperand hp (fun item hitem => (hitems item hitem).1) htake
      obtain rfl := Except.ok.inj h
      exact ⟨hvalue, hoperand⟩

/-- **A property that options and operand keep is kept by a command line.** -/
theorem Keeps.parse (hg : g.Keeps q P) {start x : σ} {args extras : List String}
    (hargs : ∀ arg ∈ args, MadeOf q arg) (hstart : P start)
    (h : g.parse start args = .ok (x, extras)) : P x := by
  obtain ⟨items, hitems, h⟩ := of_bind_eq_ok h
  obtain ⟨p, hconsume, h⟩ := of_bind_eq_ok h
  have hp := hg.consume (knows_classify hargs hitems) ⟨hstart, hg.operand⟩ hconsume
  split at h
  · split at h
    · simp at h
    · obtain ⟨rfl, -⟩ := Prod.ext_iff.1 (Except.ok.inj h)
      exact hp.1
  · obtain ⟨rfl, -⟩ := Prod.ext_iff.1 (Except.ok.inj h)
    exact hp.1

end Grammar

end NorFlash.CommandLine
