import Mathlib.Data.Option.Basic
import NorFlash.Proofs.CommandLine.Parts

/-!
# Names that are written short

Where a grammar allows it, the name of a long option may be cut as long as no other name begins the
same way (`Grammar.Shortens`). An argument that is sorted as an option gives a name in full or one
that is short for exactly one option (`Grammar.name_of_classifyOne`). How it is written makes no
difference beyond that: with all names written out (`Grammar.spellOut`) a command line is read, or
refused, as it is (`Grammar.parse_spellOut`).
-/

namespace NorFlash.CommandLine.Grammar

variable {σ : Type} {g : Grammar σ} {o : OptionSpec σ} {arg name full : String}
  {written : Written σ}

/-! ## The name in an argument -/

/-- All names of options. -/
def names (g : Grammar σ) : List String :=
  g.allNames.map (·.1)

/-- The name that an argument gives, which ends at the first equals sign. -/
def nameOf (arg : String) : String :=
  (divide arg).1

/-- A name together with the value that stands in the same argument, if there is one. -/
def joined (name : String) : Option String → String
  | none => name
  | some value => name ++ "=" ++ value

theorem mem_allNames {entry : String × OptionSpec σ} :
    entry ∈ g.allNames ↔ entry.2 ∈ g.options ∧ entry.1 ∈ entry.2.names := by
  constructor
  · intro h
    obtain ⟨o, ho, hentry⟩ := List.mem_flatMap.1 h
    obtain ⟨name, hname, rfl⟩ := List.mem_map.1 hentry
    exact ⟨ho, hname⟩
  · rintro ⟨ho, hname⟩
    exact List.mem_flatMap.2 ⟨entry.2, ho, List.mem_map.2 ⟨entry.1, hname, rfl⟩⟩

theorem mem_names_iff : name ∈ g.names ↔ ∃ o, g.option? name = some o := by
  constructor
  · intro h
    obtain ⟨⟨_, o⟩, hentry, rfl⟩ := List.mem_map.1 h
    obtain ⟨ho, hname⟩ := mem_allNames.1 hentry
    exact Option.isSome_iff_exists.1 (List.find?_isSome.2 ⟨o, ho, List.contains_iff_mem.2 hname⟩)
  · rintro ⟨o, ho⟩
    have hentry : (name, o) ∈ g.allNames :=
      mem_allNames.2 ⟨mem_of_option? ho, mem_names_of_option? ho⟩
    exact List.mem_map.2 ⟨(name, o), hentry, rfl⟩

theorem IsPlain.not_mem (hg : g.IsPlain) (h : name ∈ g.names) : '=' ∉ name.toList := by
  obtain ⟨o, ho⟩ := mem_names_iff.1 h
  exact hg.equals o (mem_of_option? ho) name (mem_names_of_option? ho)

/-- The name is what stands before the first equals sign. -/
theorem toList_nameOf (arg : String) : (nameOf arg).toList = arg.toList.takeWhile (· ≠ '=') := by
  rw [nameOf, divide, List.span_eq_takeWhile_dropWhile]
  split
  · next hspan => exact String.toList_ofList.trans (Prod.ext_iff.1 hspan).1.symm
  · next hspan => exact String.toList_ofList.trans (Prod.ext_iff.1 hspan).1.symm

theorem divide_of_not_mem (h : '=' ∉ arg.toList) : divide arg = (arg, none) := by
  rw [divide, span_of_not_mem h]
  simp only [String.ofList_toList]

theorem divide_joined_option (h : '=' ∉ name.toList) (value : Option String) :
    divide (joined name value) = (name, value) := by
  cases value with
  | none => exact divide_of_not_mem h
  | some value => exact divide_joined h

/-- An argument without a value is a name. -/
theorem not_mem_of_divide (h : (divide arg).2 = none) : '=' ∉ arg.toList := by
  rw [divide, List.span_eq_takeWhile_dropWhile] at h
  split at h
  · cases h
  · next name hspan =>
    intro hmem
    have hrest := List.dropWhile_eq_nil_iff.1 (Prod.ext_iff.1 hspan).2 '=' hmem
    exact of_decide_eq_true hrest rfl

theorem mem_of_divide {value : String} (h : (divide arg).2 = some value) : '=' ∈ arg.toList := by
  by_contra hmem
  rw [divide_of_not_mem hmem] at h
  cases h

/-- The dashes belong to the name. -/
theorem startsWith_nameOf (h : arg.startsWith "--" = true) :
    (nameOf arg).startsWith "--" = true := by
  obtain ⟨rest, hrest⟩ := String.startsWith_string_iff.1 h
  rw [String.startsWith_string_iff, toList_nameOf, ← hrest]
  exact ⟨rest.takeWhile (· ≠ '='), rfl⟩

/-! ## Sorting long names -/

/-- A name is short for that of an option: the grammar allows it, the name of the option begins with
it and is longer, and no other name begins with it. -/
structure Shortens (g : Grammar σ) (name full : String) : Prop where
  /-- The grammar allows it. -/
  allowed : g.abbreviations = true
  /-- There is such an option. -/
  declared : full ∈ g.names
  /-- Its name begins with the short one. -/
  begins : name.toList <+: full.toList
  /-- It is longer. -/
  proper : name ≠ full
  /-- No other name begins with the short one. -/
  only : ∀ other ∈ g.names, name.toList <+: other.toList → other = full

/-- An argument with two dashes is looked up by its name. -/
theorem classifyOne_long (hg : g.IsPlain) (h : arg.startsWith "--" = true) :
    g.classifyOne arg =
      match g.option? (nameOf arg) with
      | some o => .ok (.option ⟨some o, true, (divide arg).2⟩)
      | none => classifyOne.unnamed g arg := by
  have hdash : arg.startsWith "-" = true := by
    rw [String.startsWith_string_iff] at h ⊢
    exact List.IsPrefix.trans ⟨['-'], rfl⟩ h
  have hlone : arg ≠ "-" := by
    rintro rfl
    revert h
    decide
  rw [classifyOne, hdash, if_neg (by decide)]
  cases hvalue : (divide arg).2 with
  | none =>
    have hdivide := divide_of_not_mem (not_mem_of_divide hvalue)
    rw [nameOf, hdivide, h]
    cases g.option? arg with
    | some o => rfl
    | none => simp only [if_neg hlone]
  | some value =>
    have hnone : g.option? arg = none := by
      by_contra hsome
      obtain ⟨o, ho⟩ := Option.ne_none_iff_exists'.1 hsome
      exact hg.not_mem (mem_names_iff.2 ⟨o, ho⟩) (mem_of_divide hvalue)
    have hdivide : divide arg = (nameOf arg, some value) := Prod.ext rfl hvalue
    rw [hnone]
    dsimp only
    rw [if_neg hlone, hdivide]
    dsimp only
    cases g.option? (nameOf arg) with
    | some o =>
      dsimp only
      rw [startsWith_nameOf h]
    | none => rfl

/-- A name that one name of an option begins with is short for it and sorted as that option. -/
theorem shortens_of_longMatches (hnamed : g.option? (nameOf arg) = none)
    (h : g.longMatches arg = [(full, written)]) :
    g.Shortens (nameOf arg) full ∧
      ∃ o, g.option? full = some o ∧ written = ⟨some o, true, (divide arg).2⟩ := by
  rw [longMatches] at h
  split at h
  · next hallowed =>
    obtain ⟨⟨name, o⟩, hfilter, hentry⟩ := List.map_eq_singleton_iff.1 h
    obtain ⟨rfl, rfl⟩ := Prod.mk.inj hentry
    have hsame (entry : String × OptionSpec σ) (hentry : entry ∈ g.allNames)
        (hstart : (nameOf arg).toList <+: entry.1.toList) : entry = (name, o) := by
      rw [← List.mem_singleton, ← hfilter, List.mem_filter]
      exact ⟨hentry, List.isPrefixOf_iff_prefix.2 hstart⟩
    obtain ⟨hentry, hbegins⟩ := List.mem_filter.1 (hfilter ▸ List.mem_singleton_self (name, o))
    have hbegins := List.isPrefixOf_iff_prefix.1 hbegins
    have hdeclared : name ∈ g.names := List.mem_map.2 ⟨_, hentry, rfl⟩
    obtain ⟨found, hfound⟩ := mem_names_iff.1 hdeclared
    refine ⟨⟨hallowed, hdeclared, hbegins, ?_, fun other hother hstart => ?_⟩, o, ?_, rfl⟩
    · intro heq
      rw [heq, hfound] at hnamed
      cases hnamed
    · obtain ⟨entry, hentry, rfl⟩ := List.mem_map.1 hother
      rw [hsame entry hentry hstart]
    · have heq := hsame (name, found)
        (mem_allNames.2 ⟨mem_of_option? hfound, mem_names_of_option? hfound⟩) hbegins
      rw [hfound, (Prod.mk.inj heq).2]
  · cases h

/-- An argument with two dashes that is sorted as an option of the grammar is found by its name, or
it is short for one option. -/
theorem found_of_classifyOne (hg : g.IsPlain) (hlong : arg.startsWith "--" = true)
    (h : g.classifyOne arg = .ok (.option written)) (hknown : written.option = some o) :
    nameOf arg ∈ g.names ∨
      g.option? (nameOf arg) = none ∧ ∃ full, g.longMatches arg = [(full, written)] := by
  rw [classifyOne_long hg hlong] at h
  cases hnamed : g.option? (nameOf arg) with
  | some found => exact .inl (mem_names_iff.2 ⟨found, hnamed⟩)
  | none =>
    rw [hnamed] at h
    dsimp only at h
    rw [classifyOne.unnamed, if_pos hlong] at h
    split at h
    · next full one hone =>
      obtain rfl := Class.option.inj (Except.ok.inj h)
      exact .inr ⟨rfl, full, hone⟩
    · split at h
      · cases h
      · cases h
        cases hknown
    · cases h

/-- **The name in an argument.** An argument with two dashes that is sorted as an option of the
grammar gives the name of an option in full or one that is short for a single option. -/
theorem name_of_classifyOne (hg : g.IsPlain) (hlong : arg.startsWith "--" = true)
    (h : g.classifyOne arg = .ok (.option written)) (hknown : written.option = some o) :
    nameOf arg ∈ g.names ∨ ∃ full, g.Shortens (nameOf arg) full := by
  rcases found_of_classifyOne hg hlong h hknown with hnamed | ⟨hnone, full, hone⟩
  · exact .inl hnamed
  · exact .inr ⟨full, (shortens_of_longMatches hnone hone).1⟩

/-! ## Writing names out -/

/-- An argument with its name written out, if it is short for that of an option. -/
def inFull (g : Grammar σ) (arg : String) : String :=
  if arg.startsWith "--" then
    match g.option? (nameOf arg), g.longMatches arg with
    | none, [(full, _)] => joined full (divide arg).2
    | _, _ => arg
  else arg

/-- Arguments with all names written out, up to the mark. -/
def spellOut (g : Grammar σ) : List String → List String
  | [] => []
  | "--" :: rest => "--" :: rest
  | arg :: rest => g.inFull arg :: spellOut g rest

theorem length_spellOut (args : List String) : (g.spellOut args).length = args.length := by
  fun_induction spellOut g args with
  | case1 | case2 => rfl
  | case3 arg rest hmark ih => exact congrArg (· + 1) ih

/-- An argument stays as it is, or it is short for an option that it is sorted as either way. -/
theorem inFull_cases (hg : g.IsPlain) (arg : String) :
    g.inFull arg = arg ∨ ∃ full o, g.Shortens (nameOf arg) full ∧ nameOf (g.inFull arg) = full ∧
      arg.startsWith "--" = true ∧
      g.classifyOne arg = .ok (.option ⟨some o, true, (divide arg).2⟩) ∧
      g.classifyOne (g.inFull arg) = .ok (.option ⟨some o, true, (divide arg).2⟩) := by
  rw [inFull]
  split
  · next hlong =>
    split
    · next full written hnamed hone =>
      right
      obtain ⟨hshortens, o, ho, rfl⟩ := shortens_of_longMatches hnamed hone
      have hdivide := divide_joined_option (hg.not_mem hshortens.declared) (divide arg).2
      have hname : nameOf (joined full (divide arg).2) = full := congrArg (·.1) hdivide
      have hstart : (joined full (divide arg).2).startsWith "--" = true := by
        have hdashes := String.startsWith_string_iff.1 (startsWith_nameOf hlong)
        rw [String.startsWith_string_iff]
        refine (hdashes.trans hshortens.begins).trans ?_
        conv_lhs => rw [← hname]
        rw [toList_nameOf]
        exact List.takeWhile_prefix _
      refine ⟨full, o, hshortens, hname, hlong, ?_, ?_⟩
      · rw [classifyOne_long hg hlong, hnamed]
        dsimp only
        rw [classifyOne.unnamed, if_pos hlong, hone]
      · rw [classifyOne_long hg hstart, hname, ho]
        dsimp only
        rw [hdivide]
    · exact .inl rfl
  · exact .inl rfl

theorem classifyOne_inFull (hg : g.IsPlain) (arg : String) :
    g.classifyOne (g.inFull arg) = g.classifyOne arg := by
  rcases inFull_cases hg arg with hsame | ⟨full, o, -, -, -, hshort, hlong⟩
  · rw [hsame]
  · rw [hshort, hlong]

/-- The name of an option is in full once it is written out. -/
theorem nameOf_inFull (hg : g.IsPlain) (hlong : (g.inFull arg).startsWith "--" = true)
    (h : g.classifyOne arg = .ok (.option written)) (hknown : written.option = some o) :
    nameOf (g.inFull arg) ∈ g.names := by
  have hstart : arg.startsWith "--" = true := by
    by_contra hshort
    rw [inFull, if_neg hshort] at hlong
    exact hshort hlong
  rcases found_of_classifyOne hg hstart h hknown with hnamed | ⟨hnone, full, hone⟩
  · obtain ⟨found, hfound⟩ := mem_names_iff.1 hnamed
    have hsame : g.inFull arg = arg := by
      rw [inFull, if_pos hstart, hfound]
    rwa [hsame]
  · have hdeclared := (shortens_of_longMatches hnone hone).1.declared
    have hfull : g.inFull arg = joined full (divide arg).2 := by
      rw [inFull, if_pos hstart, hnone, hone]
    rwa [hfull, nameOf, divide_joined_option (hg.not_mem hdeclared)]

/-- A sorted argument with its name written out, if it is an option. -/
def inFullItem (g : Grammar σ) (item : String × Class σ) : String × Class σ :=
  (if isOption item then g.inFull item.1 else item.1, item.2)

theorem inFullItem_of_classifyOne (hg : g.IsPlain) {c : Class σ} (h : g.classifyOne arg = .ok c) :
    g.inFullItem (arg, c) = (g.inFull arg, c) := by
  rcases inFull_cases hg arg with hsame | ⟨full, o, -, -, -, hshort, -⟩
  · rw [inFullItem, hsame, ite_self]
  · obtain rfl := Except.ok.inj (h.symm.trans hshort)
    rfl

theorem inFull_ne_mark (hg : g.IsPlain) (h : arg ≠ "--") : g.inFull arg ≠ "--" := by
  rcases inFull_cases hg arg with hsame | ⟨full, o, hshortens, hname, hlong, -, -⟩
  · rwa [hsame]
  · -- the mark is no name that a shorter one with two dashes begins
    intro hmark
    have hfull : full = "--" := by
      rw [← hname, hmark]
      decide
    have hdashes := String.startsWith_string_iff.1 (startsWith_nameOf hlong)
    have hbegins := hshortens.begins
    have hproper := hshortens.proper
    rw [hfull] at hbegins hproper
    exact hproper (String.toList_inj.1 (hbegins.eq_of_length_le hdashes.length_le))

/-- Arguments that are written out are sorted as before. -/
theorem classify_spellOut (hg : g.IsPlain) (args : List String) :
    g.classify (g.spellOut args) = (g.classify args).map (·.map g.inFullItem) := by
  fun_induction spellOut g args with
  | case1 => rfl
  | case2 rest =>
    rw [classify]
    simp [Except.map, inFullItem, isOption]
  | case3 arg rest hmark ih =>
    cases hone : g.classifyOne arg with
    | error stop =>
      have hfull := (classifyOne_inFull hg arg).trans hone
      rw [classify, classify, hfull, hone]
      · rfl
      · exact hmark
      · exact inFull_ne_mark hg hmark
    | ok c =>
      have hfull := (classifyOne_inFull hg arg).trans hone
      rw [classify_cons (inFull_ne_mark hg hmark) hfull, classify_cons hmark hone, ih]
      have hitem := inFullItem_of_classifyOne hg hone
      cases g.classify rest <;> simp [Except.map, hitem]

/-! ## Steps of taking arguments -/

variable {p p' : Progress σ} {items rest : List (String × Class σ)} {shape : Shape} {n fuel : Nat}

/-- An argument that was sorted as an option of the grammar. -/
def IsKnown (item : String × Class σ) : Prop :=
  ∃ written o, item.2 = .option written ∧ written.option = some o

/-- An argument that was sorted as an option was so on its own. -/
theorem classifyOne_of_mem {args : List String} (h : g.classify args = .ok items)
    (hmem : (arg, .option written) ∈ items) : g.classifyOne arg = .ok (.option written) := by
  fun_induction classify g args generalizing items with
  | case1 =>
    obtain rfl := Except.ok.inj h
    simp at hmem
  | case2 rest =>
    obtain rfl := Except.ok.inj h
    simp at hmem
  | case3 first rest hmark ih =>
    obtain ⟨c, hone, h⟩ := of_bind_eq_ok h
    obtain ⟨cs, hrest, h⟩ := of_bind_eq_ok h
    obtain rfl := Except.ok.inj h
    rcases List.mem_cons.1 hmem with heq | hmem
    · obtain ⟨rfl, rfl⟩ := Prod.mk.inj heq
      exact hone
    · exact ih hrest hmem

theorem known_or_inFull_of_classify (hg : g.IsPlain) {args : List String}
    (h : g.classify args = .ok items) :
    ∀ item ∈ items, IsKnown item ∨ g.inFullItem item = item := by
  rintro ⟨arg, c⟩ hitem
  cases c with
  | operand | mark => exact .inr rfl
  | option written =>
    rcases inFull_cases hg arg with hsame | ⟨full, o, -, -, -, hshort, -⟩
    · exact .inr (Prod.ext hsame rfl)
    · have hclass := (classifyOne_of_mem h hitem).symm.trans hshort
      exact .inl ⟨written, o, rfl, by cases hclass; rfl⟩

/-- An option in front is taken. -/
theorem consume_option (fuel : Nat) (p : Progress σ) (arg : String) (written : Written σ)
    (rest : List (String × Class σ)) :
    g.consume (fuel + 1) p ((arg, .option written) :: rest) =
      (g.takeOption p arg written rest).bind fun r =>
        g.consume fuel r.2 (if r.1 then rest.tail else rest) := by
  have hany : ((arg, Class.option written) :: rest).any isOption = true := rfl
  rw [consume, if_pos hany]
  rfl

/-- The operand is taken where no option is in front, and what has no place is set aside. -/
theorem consume_operand (h : ∀ item ∈ items.head?, isOption item = false) :
    g.consume (fuel + 1) p items =
      (takeOperand p items).bind fun r =>
        if items.any isOption then
          if 0 < r.1 then g.consume fuel r.2 (items.drop r.1)
          else
            g.consume fuel
              { r.2 with extras := r.2.extras ++ (items.takeWhile (!isOption ·)).map (·.1) }
              (items.dropWhile (!isOption ·))
        else .ok { r.2 with extras := r.2.extras ++ (items.drop r.1).map (·.1) } := by
  have hhead : ∀ arg written rest, items ≠ (arg, .option written) :: rest := by
    rintro arg written rest rfl
    cases h _ rfl
  rw [consume]
  · by_cases hany : items.any isOption
    · rw [if_pos hany]
      simp only [hany, if_true]
      rfl
    · rw [if_neg hany]
      simp only [hany]
      rfl
  · exact hhead

/-- An option leaves the operand, and sets itself aside only if the grammar does not know it. -/
theorem of_takeOption {taken : Bool} (h : g.takeOption p arg written rest = .ok (taken, p')) :
    p'.operand = p.operand ∧
      p'.extras = (if written.option.isSome then p.extras else p.extras ++ [arg]) ∧
      (taken = true → ∃ value more, rest = (value, .operand) :: more) := by
  rw [takeOption] at h
  split at h
  · next hnone =>
    obtain ⟨rfl, rfl⟩ := Prod.mk.inj (Except.ok.inj h)
    rw [hnone]
    exact ⟨rfl, rfl, fun htaken => absurd htaken Bool.false_ne_true⟩
  · next o hsome =>
    rw [hsome]
    obtain ⟨b, -, h⟩ := of_bind_eq_ok h
    split at h
    · split at h
      · obtain ⟨x, -, h⟩ := of_bind_eq_ok h
        obtain ⟨rfl, rfl⟩ := Prod.mk.inj (Except.ok.inj h)
        exact ⟨rfl, rfl, fun _ => ⟨_, _, rfl⟩⟩
      · cases h
    · obtain ⟨x, -, h⟩ := of_bind_eq_ok h
      obtain ⟨rfl, rfl⟩ := Prod.mk.inj (Except.ok.inj h)
      exact ⟨rfl, rfl, fun htaken => absurd htaken Bool.false_ne_true⟩

/-- The operand is left or taken, and it sets nothing aside. -/
theorem of_takeOperand (h : takeOperand p items = .ok (n, p')) :
    p'.extras = p.extras ∧
      (p'.operand = p.operand ∧ n = 0 ∨
        p'.operand = none ∧ ∃ o, p.operand = some o ∧ operandLength o.shape items = some n ∧
          o.effect (withoutMark o.shape ((items.take n).map (·.1))) p.value = .ok p'.value) := by
  rw [takeOperand] at h
  split at h
  · obtain ⟨rfl, rfl⟩ := Prod.mk.inj (Except.ok.inj h)
    exact ⟨rfl, .inl ⟨rfl, rfl⟩⟩
  · next o ho =>
    split at h
    · obtain ⟨rfl, rfl⟩ := Prod.mk.inj (Except.ok.inj h)
      exact ⟨rfl, .inl ⟨rfl, rfl⟩⟩
    · next taken hlength =>
      obtain ⟨x, hx, h⟩ := of_bind_eq_ok h
      obtain ⟨rfl, rfl⟩ := Prod.mk.inj (Except.ok.inj h)
      exact ⟨rfl, .inr ⟨rfl, o, ho, hlength, hx⟩⟩

theorem isOption_of_mem_leadingMarks (items : List (String × Class σ)) :
    ∀ item ∈ items.take (leadingMarks items), isOption item = false := by
  have htake : items.take (leadingMarks items) = items.takeWhile isMark :=
    (List.prefix_iff_eq_take.1 (List.takeWhile_prefix isMark)).symm
  rw [htake]
  rintro ⟨arg, c⟩ hitem
  have hmark := List.mem_takeWhile_imp hitem
  cases c with
  | mark => rfl
  | operand | option => cases hmark

/-- What an operand takes are no options, unless all arguments belong to it. -/
theorem isOption_of_operandLength (hshape : shape ≠ .command)
    (h : operandLength shape items = some n) : ∀ item ∈ items.take n, isOption item = false := by
  have hmarks := isOption_of_mem_leadingMarks items
  have hone (arg : String) (more : List (String × Class σ))
      (hdrop : items.drop (leadingMarks items) = (arg, .operand) :: more) :
      ∀ item ∈ items.take (leadingMarks items + 1 + leadingMarks more), isOption item = false := by
    rw [Nat.add_assoc, List.take_add, hdrop, Nat.add_comm 1, List.take_succ_cons]
    intro item hitem
    rcases List.mem_append.1 hitem with hmark | hrest
    · exact hmarks item hmark
    · rcases List.mem_cons.1 hrest with rfl | hmore
      · rfl
      · exact isOption_of_mem_leadingMarks more item hmore
  unfold operandLength at h
  dsimp only at h
  split at h
  · exact absurd rfl hshape
  · next hdrop => exact Option.some.inj h ▸ hone _ _ hdrop
  · next hdrop => exact Option.some.inj h ▸ hone _ _ hdrop
  · exact Option.some.inj h ▸ hmarks
  · cases h

/-! ## Taking arguments that are written out -/

/-- Either an option is in front, or none is. -/
theorem items_cases (items : List (String × Class σ)) :
    (∃ arg written rest, items = (arg, .option written) :: rest) ∨
      ∀ item ∈ items.head?, isOption item = false := by
  rcases items with _ | ⟨⟨arg, c⟩, rest⟩
  · exact .inr (by simp)
  · cases c with
    | option written => exact .inl ⟨arg, written, rest, rfl⟩
    | operand | mark => exact .inr (by simp [isOption])

theorem isOption_inFullItem (item : String × Class σ) :
    isOption (g.inFullItem item) = isOption item := by
  obtain ⟨arg, c⟩ := item
  cases c <;> rfl

theorem inFullItem_of_not_isOption {item : String × Class σ} (h : isOption item = false) :
    g.inFullItem item = item := by
  rw [inFullItem, h]
  rfl

theorem map_inFullItem_of_not_isOption (h : ∀ item ∈ items, isOption item = false) :
    items.map g.inFullItem = items :=
  (List.map_congr_left fun item hitem => inFullItem_of_not_isOption (h item hitem)).trans
    (List.map_id items)

theorem leadingMarks_inFull (items : List (String × Class σ)) :
    leadingMarks (items.map g.inFullItem) = leadingMarks items := by
  have hmark : isMark ∘ g.inFullItem = isMark := by
    funext ⟨arg, c⟩
    cases c <;> rfl
  rw [leadingMarks, List.takeWhile_map, List.length_map, hmark]
  rfl

theorem operandLength_inFull (shape : Shape) (items : List (String × Class σ)) :
    operandLength shape (items.map g.inFullItem) = operandLength shape items := by
  unfold operandLength
  rw [leadingMarks_inFull]
  dsimp only
  rw [← List.map_drop]
  cases items.drop (leadingMarks items) with
  | nil => cases shape <;> rfl
  | cons item rest =>
    obtain ⟨arg, c⟩ := item
    have hlength : (items.map g.inFullItem).length = items.length := List.length_map ..
    cases shape <;> cases c <;> simp [inFullItem, isOption, leadingMarks_inFull, hlength]

theorem takeOperand_inFull (hshape : ∀ o ∈ p.operand, o.shape ≠ .command) :
    takeOperand p (items.map g.inFullItem) = takeOperand p items := by
  rw [takeOperand, takeOperand]
  split
  · rfl
  · next o ho =>
    rw [operandLength_inFull]
    cases hlength : operandLength o.shape items with
    | none => rfl
    | some n =>
      have hplain := isOption_of_operandLength (hshape o ho) hlength
      dsimp only
      rw [← List.map_take, map_inFullItem_of_not_isOption hplain]

theorem takeOption_inFull (hknown : written.option ≠ none ∨ g.inFull arg = arg) :
    g.takeOption p (g.inFull arg) written (rest.map g.inFullItem) =
      g.takeOption p arg written rest := by
  rw [takeOption, takeOption]
  cases hoption : written.option with
  | none =>
    dsimp only
    rw [hknown.resolve_left (fun hne => hne hoption)]
  | some o =>
    rcases rest with _ | ⟨⟨value, c⟩, more⟩
    · rfl
    · cases c <;> rfl

theorem not_isOption_inFullItem :
    (fun item => !isOption item) ∘ g.inFullItem = (fun item => !isOption item) := by
  funext item
  exact congrArg (!·) (isOption_inFullItem item)

theorem takeWhile_inFull (items : List (String × Class σ)) :
    (items.map g.inFullItem).takeWhile (!isOption ·) = items.takeWhile (!isOption ·) := by
  rw [List.takeWhile_map, not_isOption_inFullItem]
  exact map_inFullItem_of_not_isOption fun item hitem => by
    simpa using List.mem_takeWhile_imp hitem

theorem dropWhile_inFull (items : List (String × Class σ)) :
    (items.map g.inFullItem).dropWhile (!isOption ·) =
      (items.dropWhile (!isOption ·)).map g.inFullItem := by
  rw [List.dropWhile_map, not_isOption_inFullItem]

/-- How an option that is known is written does not matter when the arguments are taken; the
induction is on the fuel. -/
theorem consume_inFull (hshape : ∀ o ∈ p.operand, o.shape ≠ .command)
    (hitems : ∀ item ∈ items, IsKnown item ∨ g.inFullItem item = item) :
    g.consume fuel p (items.map g.inFullItem) = g.consume fuel p items := by
  induction fuel generalizing p items with
  | zero => rfl
  | succ fuel ih =>
    rcases items_cases items with ⟨arg, written, rest, rfl⟩ | hhead
    · obtain ⟨hfirst, hrest⟩ := List.forall_mem_cons.1 hitems
      have hspelling : written.option ≠ none ∨ g.inFull arg = arg := by
        rcases hfirst with ⟨found, o, hclass, ho⟩ | hsame
        · obtain rfl := Class.option.inj hclass
          exact .inl (by simp [ho])
        · exact .inr (Prod.mk.inj hsame).1
      show g.consume (fuel + 1) p ((g.inFull arg, .option written) :: rest.map g.inFullItem) = _
      rw [consume_option, consume_option, takeOption_inFull hspelling]
      cases htake : g.takeOption p arg written rest with
      | error stop => rfl
      | ok r =>
        obtain ⟨taken, p₁⟩ := r
        obtain ⟨hoperand, -, -⟩ := of_takeOption htake
        have hafter : (if taken then (rest.map g.inFullItem).tail else rest.map g.inFullItem) =
            (if taken then rest.tail else rest).map g.inFullItem := by
          cases taken <;> simp [List.map_tail]
        dsimp only [Except.bind]
        rw [hafter]
        refine ih (by rwa [hoperand]) fun item hitem => hrest item ?_
        split at hitem
        · exact List.mem_of_mem_tail hitem
        · exact hitem
    · have hhead' : ∀ item ∈ (items.map g.inFullItem).head?, isOption item = false := by
        rw [List.head?_map, Option.forall_mem_map]
        exact fun item hitem => (isOption_inFullItem item).trans (hhead item hitem)
      rw [consume_operand hhead, consume_operand hhead', takeOperand_inFull hshape]
      cases htake : takeOperand p items with
      | error stop => rfl
      | ok r =>
        obtain ⟨n, p₁⟩ := r
        have hshape₁ : ∀ o ∈ p₁.operand, o.shape ≠ .command := by
          obtain ⟨-, ⟨hsame, -⟩ | ⟨hnone, -⟩⟩ := of_takeOperand htake
          · rwa [hsame]
          · simp [hnone]
        have hany : (items.map g.inFullItem).any isOption = items.any isOption := by
          rw [List.any_map]
          exact congrArg items.any (funext isOption_inFullItem)
        dsimp only [Except.bind]
        rw [hany, takeWhile_inFull, dropWhile_inFull, ← List.map_drop]
        split
        · split
          · exact ih hshape₁ fun item hitem => hitems item (List.mem_of_mem_drop hitem)
          · exact ih hshape₁ fun item hitem => hitems item (List.dropWhile_subset _ hitem)
        · next hnone =>
          rw [map_inFullItem_of_not_isOption]
          intro item hitem
          have hfalse := List.any_eq_false.1 (Bool.eq_false_iff.2 hnone) item
            (List.mem_of_mem_drop hitem)
          exact Bool.eq_false_iff.2 hfalse

/-- What a command line is read as does not depend on how its names are written. -/
theorem parse_spellOut (hg : g.IsPlain) (hshape : ∀ o ∈ g.operand, o.shape ≠ .command) (start : σ)
    (args : List String) : g.parse start (g.spellOut args) = g.parse start args := by
  rw [parse, parse, classify_spellOut hg]
  cases hitems : g.classify args with
  | error stop => rfl
  | ok items =>
    dsimp only [Except.map, bind, Except.bind]
    rw [List.length_map, consume_inFull hshape (known_or_inFull_of_classify hg hitems)]

end NorFlash.CommandLine.Grammar
