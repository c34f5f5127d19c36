import NorFlash.Proofs.CommandLine.Spelling
import NorFlash.Proofs.CommandLine.Written

/-!
# Abbreviated options

Which names the options of an accepted command line have. The options before the command are named
in full, as the program asks for. Those of a command are not: its grammar lets names be shortened,
and a name that is short for one option is taken for it (`Arguments.names_of_parse`).
-/

namespace NorFlash.CommandLine

open Grammar (nameOf)

namespace Grammar

variable {σ : Type} {g : Grammar σ} {p p' : Progress σ} {items rest : List (String × Class σ)}
  {args extras : List String} {arg : String} {written : Written σ} {fuel : Nat} {start x : σ}

/-! ## Arguments in the place of options -/

/-- Whether an argument stands for an option, known or not, if no mark is before it. -/
def isOptionArg (g : Grammar σ) (arg : String) : Bool :=
  arg ≠ "--" && match g.classifyOne arg with
    | .ok .operand | .ok .mark => false
    | _ => true

/-- The arguments that stand for options. -/
def optionArgs (g : Grammar σ) (args : List String) : List String :=
  (args.takeWhile (· ≠ "--")).filter g.isOptionArg

theorem isOptionArg_of_classifyOne {c : Class σ} (hmark : arg ≠ "--")
    (h : g.classifyOne arg = .ok c) : g.isOptionArg arg = isOption (arg, c) := by
  rw [isOptionArg, h, decide_eq_true hmark]
  cases c <;> rfl

theorem mem_optionArgs_cons {first : String} {rest : List String} (hmark : first ≠ "--") :
    arg ∈ g.optionArgs (first :: rest) ↔
      (arg = first ∧ g.isOptionArg first = true) ∨ arg ∈ g.optionArgs rest := by
  simp only [optionArgs, List.takeWhile_cons, decide_eq_true hmark, if_true, List.mem_filter,
    List.mem_cons, or_and_right]
  refine or_congr_left (and_congr_right ?_)
  rintro rfl
  rfl

/-! ## Options without a place -/

/-- What is set aside stays so; the induction is on the fuel. -/
theorem extras_prefix_of_consume (h : g.consume fuel p items = .ok p') :
    p.extras <+: p'.extras := by
  induction fuel generalizing p items with
  | zero =>
    obtain rfl := Except.ok.inj h
    exact List.prefix_rfl
  | succ fuel ih =>
    rcases items_cases items with ⟨arg, written, rest, rfl⟩ | hhead
    · rw [consume_option] at h
      obtain ⟨⟨taken, p₁⟩, htake, h⟩ := of_bind_eq_ok h
      obtain ⟨-, hextras, -⟩ := of_takeOption htake
      refine List.IsPrefix.trans ?_ (ih h)
      rw [hextras]
      split
      · exact List.prefix_rfl
      · exact List.prefix_append _ _
    · rw [consume_operand hhead] at h
      obtain ⟨⟨n, p₁⟩, htake, h⟩ := of_bind_eq_ok h
      obtain ⟨hextras, -⟩ := of_takeOperand htake
      dsimp only at h
      rw [← hextras]
      split at h
      · split at h
        · exact ih h
        · exact (List.prefix_append _ _).trans (ih h)
      · obtain rfl := Except.ok.inj h
        exact List.prefix_append _ _

/-- If nothing is set aside in the end, nothing was before. -/
theorem extras_of_consume (h : g.consume fuel p items = .ok p') (hextras : p'.extras = []) :
    p.extras = [] :=
  List.prefix_nil.1 (hextras ▸ extras_prefix_of_consume h)

/-- An option that is taken without being set aside is known. -/
theorem isKnown_of_takeOption {taken : Bool} (h : g.takeOption p arg written rest = .ok (taken, p'))
    (hextras : p'.extras = []) : IsKnown (arg, Class.option written) := by
  obtain ⟨-, hset, -⟩ := of_takeOption h
  cases hknown : written.option with
  | some o => exact ⟨written, o, rfl, hknown⟩
  | none =>
    rw [hknown, hextras] at hset
    simp at hset

/-- Arguments before the first option are set aside where the operand takes none of them. -/
theorem takeWhile_ne_nil (hhead : ∀ item ∈ items.head?, isOption item = false)
    (hsome : items ≠ []) : (items.takeWhile (!isOption ·)).map (·.1) ≠ [] := by
  obtain ⟨item, rest, rfl⟩ := List.exists_cons_of_ne_nil hsome
  rw [List.takeWhile_cons_of_pos (by simpa using hhead item rfl)]
  simp

/-- **Known options.** If no argument is set aside, all options among them are known; the induction
is on the fuel, which suffices for all arguments. -/
theorem isKnown_of_consume (hshape : ∀ o ∈ p.operand, o.shape ≠ .command)
    (hfuel : items.length < fuel) (h : g.consume fuel p items = .ok p') (hextras : p'.extras = []) :
    ∀ item ∈ items, isOption item = true → IsKnown item := by
  induction fuel generalizing p items with
  | zero => omega
  | succ fuel ih =>
    rcases items_cases items with ⟨arg, written, rest, rfl⟩ | hhead
    · rw [consume_option] at h
      obtain ⟨⟨taken, p₁⟩, htake, h⟩ := of_bind_eq_ok h
      obtain ⟨hoperand, -, htaken⟩ := of_takeOption htake
      have hnothing : p₁.extras = [] := extras_of_consume h hextras
      have hlength : (if taken then rest.tail else rest).length < fuel := by
        rw [List.length_cons] at hfuel
        split
        · rw [List.length_tail]
          omega
        · omega
      have hafter := ih (by rwa [hoperand]) hlength h
      intro item hitem hoption
      rcases List.mem_cons.1 hitem with rfl | hrest
      · exact isKnown_of_takeOption htake hnothing
      · refine hafter item ?_ hoption
        cases taken with
        | false => exact hrest
        | true =>
          -- the value of the option is no option
          obtain ⟨value, more, rfl⟩ := htaken rfl
          rcases List.mem_cons.1 hrest with rfl | hmore
          · cases hoption
          · exact hmore
    · rw [consume_operand hhead] at h
      obtain ⟨⟨n, p₁⟩, htake, h⟩ := of_bind_eq_ok h
      obtain ⟨-, hcases⟩ := of_takeOperand htake
      dsimp only at h
      intro item hitem hoption
      split at h
      · split at h
        · next hpos =>
          obtain ⟨-, rfl⟩ | ⟨hnone, o, ho, hlength, -⟩ := hcases
          · exact absurd hpos (Nat.lt_irrefl 0)
          rcases List.mem_append.1 (List.take_append_drop n items ▸ hitem) with htaken | hrest
          · rw [isOption_of_operandLength (hshape o ho) hlength item htaken] at hoption
            cases hoption
          · refine ih (by simp [hnone]) ?_ h item hrest hoption
            rw [List.length_drop]
            have := List.length_pos_of_mem hitem
            omega
        · have hset := extras_of_consume h hextras
          exact absurd (List.append_eq_nil_iff.1 hset).2
            (takeWhile_ne_nil hhead (List.ne_nil_of_mem hitem))
      · next hany =>
        exact absurd (List.any_eq_true.2 ⟨item, hitem, hoption⟩) hany

/-! ## The names that are read -/

/-- How options are named among the arguments for a grammar that lets names be shortened. -/
structure NamesOptions (g : Grammar σ) (args : List String) : Prop where
  /-- A long name is that of an option, or short for one. -/
  name : ∀ arg ∈ g.optionArgs args, arg.startsWith "--" = true →
    nameOf arg ∈ g.names ∨ ∃ full, g.Shortens (nameOf arg) full
  /-- Written out, it is that of an option. -/
  in_full : ∀ arg ∈ g.optionArgs (g.spellOut args), arg.startsWith "--" = true →
    nameOf arg ∈ g.names

theorem exists_option_of_mem (h : g.classify args = .ok items) (hmem : arg ∈ g.optionArgs args) :
    ∃ written, (arg, .option written) ∈ items := by
  fun_induction classify g args generalizing items with
  | case1 => simp [optionArgs] at hmem
  | case2 rest => simp [optionArgs] at hmem
  | case3 first rest hmark ih =>
    obtain ⟨c, hone, h⟩ := of_bind_eq_ok h
    obtain ⟨cs, hrest, h⟩ := of_bind_eq_ok h
    obtain rfl := Except.ok.inj h
    rcases (mem_optionArgs_cons hmark).1 hmem with ⟨rfl, hoption⟩ | hlater
    · rw [isOptionArg_of_classifyOne hmark hone] at hoption
      cases c with
      | option written => exact ⟨written, List.mem_cons_self⟩
      | operand | mark => cases hoption
    · obtain ⟨written, hfound⟩ := ih hrest hlater
      exact ⟨written, List.mem_cons_of_mem _ hfound⟩

theorem of_parse_eq_ok (h : g.parse start args = .ok (x, extras)) :
    ∃ items p, g.classify args = .ok items ∧
      g.consume (2 * items.length + 1) ⟨start, g.operand, []⟩ items = .ok p ∧
      p.value = x ∧ p.extras = extras := by
  obtain ⟨items, hitems, h⟩ := of_bind_eq_ok h
  obtain ⟨p, hconsume, h⟩ := of_bind_eq_ok h
  refine ⟨items, p, hitems, hconsume, ?_⟩
  split at h
  · split at h
    · cases h
    · exact Prod.mk.inj (Except.ok.inj h)
  · exact Prod.mk.inj (Except.ok.inj h)

/-- An argument that stands for an option is sorted as one that is known. -/
theorem exists_known_of_parse (hshape : ∀ o ∈ g.operand, o.shape ≠ .command)
    (h : g.parse start args = .ok (x, [])) (hmem : arg ∈ g.optionArgs args) :
    ∃ written o, g.classifyOne arg = .ok (.option written) ∧ written.option = some o := by
  obtain ⟨items, p, hitems, hconsume, -, hextras⟩ := of_parse_eq_ok h
  obtain ⟨written, hitem⟩ := exists_option_of_mem hitems hmem
  obtain ⟨found, o, hclass, ho⟩ := isKnown_of_consume hshape (by omega) hconsume hextras _ hitem rfl
  obtain rfl := Class.option.inj hclass
  exact ⟨written, o, classifyOne_of_mem hitems hitem, ho⟩

theorem name_of_parse (hg : g.IsPlain) (hshape : ∀ o ∈ g.operand, o.shape ≠ .command)
    (h : g.parse start args = .ok (x, [])) :
    ∀ arg ∈ g.optionArgs args, arg.startsWith "--" = true →
      nameOf arg ∈ g.names ∨ ∃ full, g.Shortens (nameOf arg) full := by
  intro arg hmem hlong
  obtain ⟨written, o, hone, ho⟩ := exists_known_of_parse hshape h hmem
  exact name_of_classifyOne hg hlong hone ho

theorem isOptionArg_inFull (hg : g.IsPlain) (hmark : arg ≠ "--") :
    g.isOptionArg (g.inFull arg) = g.isOptionArg arg := by
  simp only [isOptionArg, classifyOne_inFull hg, hmark, inFull_ne_mark hg hmark, ne_eq,
    not_false_eq_true]

/-- Arguments that are written out stand for options as before. -/
theorem exists_of_mem_spellOut (hg : g.IsPlain) (hmem : arg ∈ g.optionArgs (g.spellOut args)) :
    ∃ before ∈ g.optionArgs args, arg = g.inFull before := by
  fun_induction spellOut g args with
  | case1 => simp [optionArgs] at hmem
  | case2 rest => simp [optionArgs] at hmem
  | case3 first rest hmark ih =>
    rcases (mem_optionArgs_cons (inFull_ne_mark hg hmark)).1 hmem with ⟨rfl, hoption⟩ | hlater
    · refine ⟨first, (mem_optionArgs_cons hmark).2 (.inl ⟨rfl, ?_⟩), rfl⟩
      rwa [isOptionArg_inFull hg hmark] at hoption
    · obtain ⟨before, hbefore, rfl⟩ := ih hlater
      exact ⟨before, (mem_optionArgs_cons hmark).2 (.inr hbefore), rfl⟩

/-- Once the names are written out, no option has a short one. -/
theorem name_of_spellOut (hg : g.IsPlain) (hshape : ∀ o ∈ g.operand, o.shape ≠ .command)
    (h : g.parse start args = .ok (x, [])) :
    ∀ arg ∈ g.optionArgs (g.spellOut args), arg.startsWith "--" = true → nameOf arg ∈ g.names := by
  intro arg hmem hlong
  obtain ⟨before, hbefore, rfl⟩ := exists_of_mem_spellOut hg hmem
  obtain ⟨written, o, hone, ho⟩ := exists_known_of_parse hshape h hbefore
  exact nameOf_inFull hg hlong hone ho

/-! ## Options before a command -/

theorem takesNext_of_cons {o : OptionSpec σ} {rest : Except Stop (Bundle σ)} {b : Bundle σ}
    (hrest : ∀ b, rest = .ok b → b.takesNext = false) (h : rest.map (Bundle.cons o) = .ok b) :
    b.takesNext = false := by
  cases rest with
  | error stop => cases h
  | ok b' =>
    obtain rfl := Except.ok.inj h
    exact hrest b' rfl

/-- Where no option takes a value, none takes the argument that follows. -/
theorem takesNext_of_bundle {o : OptionSpec σ} {long : Bool} {value : Option (List Char)}
    {b : Bundle σ} (hvalues : ∀ o ∈ g.options, o.takesValue = false) (ho : o ∈ g.options)
    (h : g.bundle o long value = .ok b) : b.takesNext = false := by
  fun_induction bundle g o long value generalizing b with
  | case1 =>
    obtain rfl := Except.ok.inj h
    exact hvalues _ ho
  | case2 | case4 =>
    obtain rfl := Except.ok.inj h
    rfl
  | case3 | case5 => cases h
  | case6 _ _ _ _ next hnext ih =>
    exact takesNext_of_cons (fun _ => ih (mem_of_letter hnext)) h
  | case7 _ _ c _ next d ds hnext ih =>
    exact takesNext_of_cons (fun _ => ih (mem_of_letter hnext)) h

/-- Where no option takes a value, what an option does does not depend on the arguments after it. -/
theorem takeOption_eq (hvalues : ∀ o ∈ g.options, o.takesValue = false)
    (hoption : ∀ o ∈ written.option, o ∈ g.options) (rest : List (String × Class σ)) :
    g.takeOption p arg written rest =
      (g.takeOption p arg written []).map fun r => (false, r.2) := by
  rw [takeOption, takeOption]
  cases ho : written.option with
  | none => rfl
  | some o =>
    cases hb : g.bundle o written.long (written.value.map String.toList) with
    | error stop =>
      simp only [hb]
      rfl
    | ok b =>
      have hnext := takesNext_of_bundle hvalues (hoption o ho) hb
      simp only [hb, bind, Except.bind, hnext]
      cases g.applyAll b.options p.value <;> rfl

/-- Without an operand and arguments nothing happens. -/
theorem consume_nil (fuel : Nat) (hoperand : p.operand = none) : g.consume fuel p [] = .ok p := by
  cases fuel with
  | zero => rfl
  | succ fuel =>
    rw [consume_operand (by simp), takeOperand, hoperand]
    simp [Except.bind]

/-- The operand that all arguments belong to leaves nothing. -/
theorem consume_command {o : OperandSpec σ} (hshape : o.shape = .command) :
    g.consume (fuel + 1) ⟨x, some o, extras⟩ ((arg, .operand) :: items) =
      (o.effect (arg :: items.map (·.1)) x).map (⟨·, none, extras⟩) := by
  rw [consume_operand (by simp [isOption]), takeOperand_command arg hshape x extras rfl]
  cases o.effect (arg :: items.map (·.1)) x with
  | error stop => rfl
  | ok y =>
    dsimp only [Except.map, Except.bind]
    rw [← List.length_cons, List.drop_length, consume_nil fuel rfl, List.map_nil, List.append_nil,
      if_pos (List.length_pos_of_ne_nil (List.cons_ne_nil _ _)), ite_self]

theorem taken_of_takeOption {taken : Bool} (hvalues : ∀ o ∈ g.options, o.takesValue = false)
    (hoption : ∀ o ∈ written.option, o ∈ g.options)
    (h : g.takeOption p arg written rest = .ok (taken, p')) : taken = false := by
  rw [takeOption_eq hvalues hoption] at h
  cases hnone : g.takeOption p arg written [] with
  | error stop =>
    rw [hnone] at h
    cases h
  | ok r =>
    rw [hnone] at h
    exact (Prod.mk.inj (Except.ok.inj h)).1.symm

theorem length_of_command {n : Nat} (h : operandLength .command items = some n) :
    n = items.length := by
  unfold operandLength at h
  dsimp only at h
  split at h
  · exact (Option.some.inj h).symm
  · next hshape _ => cases hshape
  · next hshape _ => cases hshape
  · next hshape _ => cases hshape
  · cases h

/-- Arguments that do not start with an option are those of the command, if none is set aside. -/
theorem effect_of_consume {o : OperandSpec σ} (hhead : ∀ item ∈ items.head?, isOption item = false)
    (hsome : items ≠ []) (hoperand : p.operand = some o) (hshape : o.shape = .command)
    (h : g.consume (fuel + 1) p items = .ok p') (hextras : p'.extras = []) :
    o.effect (items.map (·.1)) p.value = .ok p'.value := by
  rw [consume_operand hhead] at h
  obtain ⟨⟨n, p₁⟩, htake, h⟩ := of_bind_eq_ok h
  obtain ⟨-, ⟨-, rfl⟩ | ⟨hnone, found, hfound, hlength, heffect⟩⟩ := of_takeOperand htake
  · -- the arguments that are left have no place
    exfalso
    dsimp only at h
    split at h
    · have hset := extras_of_consume h hextras
      exact takeWhile_ne_nil hhead hsome (List.append_eq_nil_iff.1 hset).2
    · obtain rfl := Except.ok.inj h
      exact hsome (List.map_eq_nil_iff.1 (List.append_eq_nil_iff.1 hextras).2)
  · obtain rfl := Option.some.inj (hoperand.symm.trans hfound)
    rw [hshape] at hlength heffect
    obtain rfl := length_of_command hlength
    rw [withoutMark, if_pos rfl, List.take_length] at heffect
    dsimp only at h
    rw [List.drop_length, consume_nil fuel hnone, List.map_nil, List.append_nil,
      if_pos (List.length_pos_of_ne_nil hsome), ite_self] at h
    obtain rfl := Except.ok.inj h
    exact heffect

/-- **Options before a command.** If no argument is set aside, the arguments are options that are
known, and after them those of the command, which are all that follow; the induction is on the
fuel. -/
theorem of_consume_command {o : OperandSpec σ} {q : Char → Prop}
    (hvalues : ∀ o ∈ g.options, o.takesValue = false) (hknows : ∀ item ∈ items, g.Knows q item.2)
    (hoperand : p.operand = some o) (hshape : o.shape = .command) (hfuel : items.length < fuel)
    (h : g.consume fuel p items = .ok p') (hextras : p'.extras = []) :
    (∀ item ∈ items.takeWhile isOption, IsKnown item) ∧
      (items.dropWhile isOption = [] ∨
        ∃ x, o.effect ((items.dropWhile isOption).map (·.1)) x = .ok p'.value) := by
  induction fuel generalizing p items with
  | zero => omega
  | succ fuel ih =>
    rcases items_cases items with ⟨arg, written, rest, rfl⟩ | hhead
    · rw [consume_option] at h
      obtain ⟨⟨taken, p₁⟩, htake, h⟩ := of_bind_eq_ok h
      obtain ⟨hfirst, hlater⟩ := List.forall_mem_cons.1 hknows
      obtain rfl := taken_of_takeOption hvalues hfirst.1 htake
      obtain ⟨hsame, -, -⟩ := of_takeOption htake
      have hnothing : p₁.extras = [] := extras_of_consume h hextras
      obtain ⟨hknown, hrest⟩ := ih hlater (hsame.trans hoperand) (Nat.lt_of_succ_lt_succ hfuel) h
      rw [List.takeWhile_cons_of_pos rfl, List.dropWhile_cons_of_pos rfl]
      exact ⟨List.forall_mem_cons.2 ⟨isKnown_of_takeOption htake hnothing, hknown⟩, hrest⟩
    · by_cases hsome : items = []
      · rw [hsome]
        exact ⟨List.forall_mem_nil _, .inl rfl⟩
      · obtain ⟨item, more, rfl⟩ := List.exists_cons_of_ne_nil hsome
        have hitem : ¬ isOption item = true := by simp [hhead item rfl]
        rw [List.takeWhile_cons_of_neg hitem, List.dropWhile_cons_of_neg hitem]
        refine ⟨List.forall_mem_nil _, .inr ⟨p.value, ?_⟩⟩
        exact effect_of_consume hhead hsome hoperand hshape h hextras

/-- The arguments that stand for options at the start are those that are sorted as options. -/
theorem options_of_classify (h : g.classify args = .ok items) :
    (items.takeWhile isOption).map (·.1) = args.takeWhile g.isOptionArg ∧
      (items.dropWhile isOption).map (·.1) = args.dropWhile g.isOptionArg := by
  fun_induction classify g args generalizing items with
  | case1 =>
    obtain rfl := Except.ok.inj h
    exact ⟨rfl, rfl⟩
  | case2 rest =>
    obtain rfl := Except.ok.inj h
    have hmark : ¬ g.isOptionArg "--" = true := by simp [isOptionArg]
    rw [List.takeWhile_cons_of_neg hmark, List.dropWhile_cons_of_neg hmark,
      List.takeWhile_cons_of_neg (by simp [isOption]),
      List.dropWhile_cons_of_neg (by simp [isOption])]
    simp [Function.comp_def]
  | case3 arg rest hmark ih =>
    obtain ⟨c, hone, h⟩ := of_bind_eq_ok h
    obtain ⟨cs, hrest, h⟩ := of_bind_eq_ok h
    obtain rfl := Except.ok.inj h
    obtain ⟨htake, hdrop⟩ := ih hrest
    rw [List.takeWhile_cons, List.dropWhile_cons, List.takeWhile_cons, List.dropWhile_cons,
      isOptionArg_of_classifyOne hmark hone]
    split
    · exact ⟨congrArg (arg :: ·) htake, hdrop⟩
    · exact ⟨rfl, congrArg (arg :: ·) (map_fst_classify hrest)⟩

theorem classify_append {leading : List (String × Class σ)} (hmark : "--" ∉ args)
    (h : g.classify args = .ok leading) (rest : List String) :
    g.classify (args ++ rest) = (g.classify rest).map (leading ++ ·) := by
  fun_induction classify g args generalizing leading with
  | case1 =>
    obtain rfl := Except.ok.inj h
    rw [List.nil_append]
    cases g.classify rest <;> rfl
  | case2 => exact absurd List.mem_cons_self hmark
  | case3 arg args harg ih =>
    obtain ⟨c, hone, h⟩ := of_bind_eq_ok h
    obtain ⟨cs, hargs, h⟩ := of_bind_eq_ok h
    obtain rfl := Except.ok.inj h
    rw [List.cons_append, classify_cons harg hone,
      ih (fun hmem => hmark (List.mem_cons_of_mem _ hmem)) hargs]
    cases g.classify rest <;> rfl

/-- What is taken depends on the arguments of the command only through what they do. -/
theorem consume_command_congr {o : OperandSpec σ} {q : Char → Prop}
    {leading tail tail' : List (String × Class σ)} (hvalues : ∀ o ∈ g.options, o.takesValue = false)
    (hleading : ∀ item ∈ leading, isOption item = true ∧ g.Knows q item.2)
    (hoperand : p.operand = some o) (hshape : o.shape = .command) (hfuel : leading.length < fuel)
    (heffect : ∀ x, o.effect (arg :: tail.map (·.1)) x = o.effect (arg :: tail'.map (·.1)) x) :
    g.consume fuel p (leading ++ (arg, .operand) :: tail) =
      g.consume fuel p (leading ++ (arg, .operand) :: tail') := by
  induction leading generalizing p fuel with
  | nil =>
    obtain ⟨fuel, rfl⟩ := Nat.exists_eq_succ_of_ne_zero (Nat.ne_of_gt hfuel)
    obtain ⟨x, operand, extras⟩ := p
    obtain rfl : operand = some o := hoperand
    rw [List.nil_append, List.nil_append, consume_command hshape, consume_command hshape, heffect]
  | cons item leading ih =>
    obtain ⟨⟨hoption, hknows⟩, hrest⟩ := List.forall_mem_cons.1 hleading
    obtain ⟨fuel, rfl⟩ := Nat.exists_eq_succ_of_ne_zero (Nat.ne_of_gt (Nat.zero_lt_of_lt hfuel))
    obtain ⟨first, c⟩ := item
    cases c with
    | operand | mark => cases hoption
    | option written =>
      have htaken (after : List (String × Class σ)) :
          g.takeOption p first written after =
            (g.takeOption p first written []).map fun r => (false, r.2) :=
        takeOption_eq hvalues hknows.1 after
      rw [List.cons_append, List.cons_append, Nat.succ_eq_add_one, consume_option, consume_option,
        htaken (leading ++ _), htaken (leading ++ _)]
      cases htake : g.takeOption p first written [] with
      | error stop => rfl
      | ok r =>
        obtain ⟨taken, p₁⟩ := r
        obtain ⟨hsame, -, -⟩ := of_takeOption htake
        exact ih hrest (hsame.trans hoperand) (Nat.lt_of_succ_lt_succ hfuel)

/-- **The arguments of a command.** Behind options that are sorted as such, they matter only for
what they do. -/
theorem parse_command_congr {o : OperandSpec σ} {words words' : List String}
    (hvalues : ∀ o ∈ g.options, o.takesValue = false)
    (hsorted : ∀ arg, ∃ c, g.classifyOne arg = .ok c)
    (hoperand : g.operand = some o) (hshape : o.shape = .command)
    (hargs : ∀ arg ∈ args, g.isOptionArg arg = true) (harg : g.classifyOne arg = .ok .operand)
    (hmark : arg ≠ "--") (hlength : words.length = words'.length)
    (heffect : ∀ x, o.effect (arg :: words) x = o.effect (arg :: words') x) (start : σ) :
    g.parse start (args ++ arg :: words) = g.parse start (args ++ arg :: words') := by
  obtain ⟨leading, hleading⟩ := exists_classify hsorted args
  obtain ⟨tail, htail⟩ := exists_classify hsorted words
  obtain ⟨tail', htail'⟩ := exists_classify hsorted words'
  have hnone : "--" ∉ args := fun hmem => by simpa [isOptionArg] using hargs "--" hmem
  have hoptions : ∀ item ∈ leading, isOption item = true ∧ g.Knows (fun _ => True) item.2 := by
    intro item hitem
    refine ⟨?_, (knows_classify (fun _ _ _ _ => trivial) hleading item hitem).2⟩
    have htake := (options_of_classify hleading).1
    rw [List.takeWhile_eq_self_iff.2 hargs] at htake
    have hwhole : (leading.takeWhile isOption).length = leading.length := by
      rw [← List.length_map (·.1), htake, ← map_fst_classify hleading, List.length_map]
    have hall := (List.takeWhile_prefix isOption).eq_of_length hwhole
    exact List.takeWhile_eq_self_iff.1 hall item hitem
  rw [parse, parse, classify_append hnone hleading, classify_append hnone hleading,
    classify_cons hmark harg, classify_cons hmark harg, htail, htail']
  dsimp only [Except.map, bind, Except.bind]
  have hsame : (leading ++ (arg, Class.operand) :: tail).length =
      (leading ++ (arg, Class.operand) :: tail').length := by
    rw [← map_fst_classify htail, ← map_fst_classify htail', List.length_map, List.length_map]
      at hlength
    simp [hlength]
  rw [hsame, consume_command_congr hvalues hoptions hoperand hshape (by simp; omega)]
  rw [map_fst_classify htail, map_fst_classify htail']
  exact heffect

end Grammar

/-! ## The commands -/

theorem isPlain_of_mem_commands : ∀ spec ∈ commands, spec.grammar.IsPlain := by
  simp only [commands, List.forall_mem_cons]
  refine ⟨?_, ?_, ?_, ?_, List.forall_mem_nil _⟩ <;> constructor <;> decide

theorem shape_of_mem_commands :
    ∀ spec ∈ commands, ∀ o ∈ spec.grammar.operand, o.shape ≠ .command := by
  simp only [commands, List.forall_mem_cons]
  refine ⟨?_, ?_, ?_, ?_, List.forall_mem_nil _⟩ <;> rintro o ho <;> cases ho <;> decide

theorem find?_of_mem_commands :
    ∀ spec ∈ commands, commands.find? (·.name == spec.name) = some spec := by
  simp only [commands, List.forall_mem_cons]
  exact ⟨rfl, rfl, rfl, rfl, List.forall_mem_nil _⟩

theorem no_dash_of_mem_commands :
    ∀ spec ∈ commands, ¬ "-".toList <+: spec.name.toList ∧ spec.name ≠ "--" := by
  simp only [commands, List.forall_mem_cons]
  refine ⟨?_, ?_, ?_, ?_, List.forall_mem_nil _⟩ <;> decide

/-- Arguments that are read for a command start with its name. -/
theorem exists_spec_of_readCommand {args : List String} {r r' : Reading}
    (h : readCommand args r = .ok r') :
    ∃ spec ∈ commands, ∃ words draft, args = spec.name :: words ∧
      spec.grammar.parse Draft.initial words = .ok (draft, r'.extras) := by
  rw [readCommand] at h
  dsimp only at h
  split at h
  · cases h
  · next spec hfind =>
    obtain ⟨⟨draft, extras⟩, hparse, h⟩ := of_bind_eq_ok h
    obtain rfl := Except.ok.inj h
    have hname := List.find?_some hfind
    have hmem := List.mem_of_find?_eq_some hfind
    cases args with
    | nil =>
      cases hfind
    | cons name words =>
      refine ⟨spec, hmem, words, draft, ?_, hparse⟩
      rw [← show spec.name = name from beq_iff_eq.1 hname]

/-- Writing out the names in the arguments of a command changes nothing. -/
theorem readCommand_spellOut {spec : CommandSpec} (hspec : spec ∈ commands) (words : List String)
    (r : Reading) :
    readCommand (spec.name :: spec.grammar.spellOut words) r =
      readCommand (spec.name :: words) r := by
  have hfind := find?_of_mem_commands spec hspec
  rw [readCommand_cons hfind, readCommand_cons hfind,
    Grammar.parse_spellOut (isPlain_of_mem_commands spec hspec) (shape_of_mem_commands spec hspec)]

/-! ## The options of the program -/

theorem takesValue_main : ∀ o ∈ mainGrammar.options, o.takesValue = false := by
  decide

namespace Arguments

variable {args : List String} {a : Arguments}

/-- No argument of a command line that is read is without a place. -/
theorem exists_reading_of_parse (h : Arguments.parse args = .ok a) :
    ∃ r, mainGrammar.parse ⟨⟨0, none⟩, []⟩ args = .ok (r, []) ∧ r.extras = [] ∧
      r.arguments = a := by
  obtain ⟨⟨r, extras⟩, hparse, h⟩ := of_bind_eq_ok h
  dsimp only at h
  split at h
  · next hnone =>
    obtain ⟨rfl, hextras⟩ := List.append_eq_nil_iff.1 hnone
    exact ⟨r, hparse, hextras, Except.ok.inj h⟩
  · cases h

/-- The options before the command are named in full, and what follows them is read for it. -/
theorem of_parse_main {start r : Reading} (h : mainGrammar.parse start args = .ok (r, [])) :
    (∀ arg ∈ args.takeWhile mainGrammar.isOptionArg, arg.startsWith "--" = true →
        nameOf arg ∈ mainGrammar.names) ∧
      (args.dropWhile mainGrammar.isOptionArg = [] ∨
        ∃ x, readCommand (args.dropWhile mainGrammar.isOptionArg) x = .ok r) := by
  obtain ⟨items, p, hitems, hconsume, rfl, hextras⟩ := Grammar.of_parse_eq_ok h
  obtain ⟨htake, hdrop⟩ := Grammar.options_of_classify hitems
  have hknows := Grammar.knows_classify (q := fun _ => True) (fun _ _ _ _ => trivial) hitems
  obtain ⟨hknown, hrest⟩ := Grammar.of_consume_command takesValue_main
    (fun item hitem => (hknows item hitem).2) rfl rfl (by omega) hconsume hextras
  rw [← htake, ← hdrop, List.map_eq_nil_iff]
  refine ⟨?_, hrest⟩
  intro arg harg hlong
  obtain ⟨⟨_, c⟩, hitem, rfl⟩ := List.mem_map.1 harg
  obtain ⟨written, o, rfl, ho⟩ := hknown _ hitem
  have hone := Grammar.classifyOne_of_mem hitems (List.takeWhile_subset _ hitem)
  rcases Grammar.name_of_classifyOne mainGrammar_isPlain hlong hone ho with hname | ⟨full, hshort⟩
  · exact hname
  · cases hshort.allowed

/-- A command line is read as it is with the names in the arguments of its command written out. -/
theorem parse_spellOut {spec : CommandSpec} (hspec : spec ∈ commands)
    (hargs : ∀ arg ∈ args, mainGrammar.isOptionArg arg = true) (words : List String) :
    Arguments.parse (args ++ spec.name :: spec.grammar.spellOut words) =
      Arguments.parse (args ++ spec.name :: words) := by
  obtain ⟨hdash, hmark⟩ := no_dash_of_mem_commands spec hspec
  rw [Arguments.parse, Arguments.parse, Grammar.parse_command_congr takesValue_main
    exists_classifyOne_main rfl rfl hargs (Grammar.classifyOne_of_no_dash hdash) hmark
    (Grammar.length_spellOut words) (readCommand_spellOut hspec words)]

/-- **Names of options.** In a command line that is read, the options before the command are named
in full, and those of the command in full or by a name that is short for exactly one option. With
the names of the command's options written out, any command line is read, or refused, as it is. One
with another name before the command is refused, unless it asks for help. -/
theorem names_of_parse (args : List String) :
    (∀ a, Arguments.parse args = .ok a →
      (∀ arg ∈ args.takeWhile mainGrammar.isOptionArg, arg.startsWith "--" = true →
        nameOf arg ∈ mainGrammar.names) ∧
      (args.dropWhile mainGrammar.isOptionArg = [] ∨
        ∃ spec ∈ commands, ∃ words,
          args.dropWhile mainGrammar.isOptionArg = spec.name :: words ∧
          spec.grammar.NamesOptions words)) ∧
    (∀ spec ∈ commands, ∀ words,
      args.dropWhile mainGrammar.isOptionArg = spec.name :: words →
        Arguments.parse (args.takeWhile mainGrammar.isOptionArg ++
          spec.name :: spec.grammar.spellOut words) = Arguments.parse args) ∧
    ∀ arg ∈ args.takeWhile mainGrammar.isOptionArg, arg.startsWith "--" = true →
      nameOf arg ∉ mainGrammar.names →
        (∃ text, Arguments.parse args = .error (.help text)) ∨
          ∃ program message, Arguments.parse args = .error (.usage program message) := by
  refine ⟨fun a h => ?_, fun spec hspec words hwords => ?_, fun arg harg hlong hname => ?_⟩
  · obtain ⟨r, hmain, hextras, -⟩ := exists_reading_of_parse h
    refine (of_parse_main hmain).imp_right (Or.imp_right ?_)
    rintro ⟨x, hcommand⟩
    obtain ⟨spec, hspec, words, draft, hwords, hparse⟩ := exists_spec_of_readCommand hcommand
    rw [hextras] at hparse
    have hplain := isPlain_of_mem_commands spec hspec
    have hshape := shape_of_mem_commands spec hspec
    refine ⟨spec, hspec, words, hwords, ?_, ?_⟩
    · exact Grammar.name_of_parse hplain hshape hparse
    · exact Grammar.name_of_spellOut hplain hshape hparse
  · rw [parse_spellOut hspec (fun arg => List.mem_takeWhile_imp), ← hwords,
      List.takeWhile_append_dropWhile]
  · cases hparse : Arguments.parse args with
    | ok a =>
      obtain ⟨r, hmain, -, -⟩ := exists_reading_of_parse hparse
      exact absurd ((of_parse_main hmain).1 arg harg hlong) hname
    | error stop =>
      cases stop with
      | help text => exact .inl ⟨text, rfl⟩
      | usage program message => exact .inr ⟨program, message, rfl⟩

/-- What showing a layout as an object asks for. -/
def showingLayout (verbosity : Nat) : Arguments :=
  ⟨verbosity, some (.showLayout (some 0) true, ⟨.missing, .missing, .missing, .missing⟩)⟩

theorem names_of_parse_layout :
    Arguments.parse ["-v", "layout", "--js"] = .ok (showingLayout 1) ∧
      ∃ spec ∈ commands, ∃ words, ["layout", "--js"] = spec.name :: words ∧
        spec.grammar.NamesOptions words ∧
        Arguments.parse (["-v"] ++ spec.name :: spec.grammar.spellOut words) =
          .ok (showingLayout 1) := by
  have hparse : Arguments.parse ["-v", "layout", "--js"] = .ok (showingLayout 1) := by
    decide +kernel
  have htake : ["-v", "layout", "--js"].takeWhile mainGrammar.isOptionArg = ["-v"] := by
    decide +kernel
  have hdrop : ["-v", "layout", "--js"].dropWhile mainGrammar.isOptionArg = ["layout", "--js"] := by
    decide +kernel
  obtain ⟨hread, hsame, -⟩ := names_of_parse ["-v", "layout", "--js"]
  rw [htake, hdrop] at hsame
  have hnames := (hread _ hparse).2
  rw [hdrop] at hnames
  obtain ⟨spec, hspec, words, hwords, hoptions⟩ := hnames.resolve_left (List.cons_ne_nil _ _)
  exact ⟨hparse, spec, hspec, words, hwords, hoptions, (hsame spec hspec words hwords).trans hparse⟩

/-- A command line with a name that no option has is read. -/
theorem parse_shortened :
    Arguments.parse ["layout", "--js"] = .ok (showingLayout 0) ∧
      "--js" ∈ showLayoutGrammar.optionArgs ["--js"] ∧
      Grammar.nameOf "--js" ∉ showLayoutGrammar.names := by
  decide +kernel

end Arguments

end NorFlash.CommandLine
