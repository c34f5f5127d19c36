import Mathlib.Data.List.Basic
import Mathlib.Data.List.TakeWhile
import NorFlash.Proofs.CommandLine.Grammar

/-!
# Command lines made of parts

The parts of a command line are options, each with the value it takes (`Grammar.IsPart`), and an
operand between them. A command line that is a sequence of parts (`Grammar.Reads`) is taken part by
part, whatever the order, and does to the value that is built up what the parts do one after the
other (`Grammar.parse_of_reads`).
-/

namespace NorFlash.CommandLine.Grammar

open Nat (digitChar)

variable {σ : Type} {g : Grammar σ} {o : OptionSpec σ} {name value arg : String}

/-! ## Names -/

/-- A text that can be the name of an option: it starts with a dash, is not the mark, and holds no
equals sign. -/
structure IsName (name : String) : Prop where
  /-- It starts with a dash. -/
  dash : "-".toList <+: name.toList
  /-- It is not the mark. -/
  ne_mark : name ≠ "--"
  /-- It holds no equals sign. -/
  plain : '=' ∉ name.toList

instance : Decidable (IsName name) :=
  decidable_of_iff ("-".toList <+: name.toList ∧ name ≠ "--" ∧ '=' ∉ name.toList)
    ⟨fun h => ⟨h.1, h.2.1, h.2.2⟩, fun h => ⟨h.dash, h.ne_mark, h.plain⟩⟩

/-- Neither a name with a value nor a negative number is the name of an option. -/
structure IsPlain (g : Grammar σ) : Prop where
  /-- No name holds an equals sign. -/
  equals : ∀ o ∈ g.options, ∀ name ∈ o.names, '=' ∉ name.toList
  /-- No name has a digit after the first character. -/
  digit : ∀ o ∈ g.options, ∀ name ∈ o.names, name.toList[1]?.bind Digit.value? = none

theorem mem_names_of_option? (h : g.option? name = some o) : name ∈ o.names := by
  rw [option?] at h
  have hfound := List.find?_some h
  exact List.contains_iff_mem.1 hfound

/-! ## Sorting parts -/

/-- A text without the character that divides it is not divided. -/
theorem span_of_not_mem {c : Char} {cs : List Char} (h : c ∉ cs) : cs.span (· ≠ c) = (cs, []) := by
  have hall : ∀ d ∈ cs, decide (d ≠ c) = true := fun d hd => decide_eq_true fun heq => h (heq ▸ hd)
  rw [List.span_eq_takeWhile_dropWhile, List.takeWhile_eq_self_iff.2 hall,
    List.dropWhile_eq_nil_iff.2 hall]

theorem classifyOne_of_no_dash (h : ¬ "-".toList <+: arg.toList) :
    g.classifyOne arg = .ok .operand := by
  rw [classifyOne, if_pos]
  rwa [Bool.not_eq_true', String.startsWith_string_eq_false_iff]

theorem classifyOne_name (hname : IsName name) (ho : g.option? name = some o) :
    g.classifyOne name = .ok (.option ⟨some o, name.startsWith "--", none⟩) := by
  have hdash := String.startsWith_string_iff.2 hname.dash
  rw [classifyOne, if_neg (by rw [hdash]; exact Bool.false_ne_true), ho]

theorem divide_joined (h : '=' ∉ name.toList) :
    divide (name ++ "=" ++ value) = (name, some value) := by
  have hspan : (name ++ "=" ++ value).toList.span (· ≠ '=') =
      (name.toList, '=' :: value.toList) := by
    rw [List.span_eq_takeWhile_dropWhile, String.toList_append, String.toList_append,
      List.append_assoc, List.takeWhile_append_of_pos, List.dropWhile_append_of_pos]
    · simp
    · exact fun c hc => decide_eq_true fun hbad => h (hbad ▸ hc)
    · exact fun c hc => decide_eq_true fun hbad => h (hbad ▸ hc)
  rw [divide, hspan]
  simp only [String.ofList_toList]

theorem classifyOne_joined (hg : g.IsPlain) (hname : IsName name) (ho : g.option? name = some o) :
    g.classifyOne (name ++ "=" ++ value) =
      .ok (.option ⟨some o, name.startsWith "--", some value⟩) := by
  have hequals : '=' ∈ (name ++ "=" ++ value).toList := by simp
  have hdash : (name ++ "=" ++ value).startsWith "-" = true := by
    rw [String.startsWith_string_iff, String.toList_append, String.toList_append,
      List.append_assoc]
    exact hname.dash.trans (List.prefix_append _ _)
  have hnone : g.option? (name ++ "=" ++ value) = none := by
    cases hfound : g.option? (name ++ "=" ++ value) with
    | none => rfl
    | some found =>
      exact absurd hequals (hg.equals found (mem_of_option? hfound) _ (mem_names_of_option? hfound))
  have hlone : name ++ "=" ++ value ≠ "-" := by
    intro hbad
    rw [hbad] at hequals
    exact absurd hequals (by decide)
  rw [classifyOne, if_neg (by rw [hdash]; exact Bool.false_ne_true), hnone]
  dsimp only
  rw [if_neg hlone, divide_joined hname.plain]
  dsimp only
  rw [ho]

/-! ## Short names -/

/-- Only names that go on as the argument does are matched. -/
theorem length_shortMatches_le {c : Char} {cs : List Char} (harg : arg.toList = '-' :: c :: cs) :
    (g.shortMatches arg).length ≤ g.allNames.countP (·.1.toList[1]? = some c) := by
  have hfilter : g.shortMatches arg =
      (g.allNames.filter (·.1.toList[1]? = some c)).filterMap fun entry =>
        if entry.1 = String.ofList (arg.toList.take 2) then
          some (entry.1, ⟨some entry.2, false, some (String.ofList (arg.toList.drop 2))⟩)
        else if arg.toList.isPrefixOf entry.1.toList then
          some (entry.1, ⟨some entry.2, entry.1.startsWith "--", none⟩)
        else none := by
    rw [shortMatches, List.filterMap_filter]
    refine List.filterMap_congr fun entry _ => ?_
    by_cases hsecond : entry.1.toList[1]? = some c
    · rw [if_pos (decide_eq_true hsecond)]
    · rw [if_neg fun h => hsecond (of_decide_eq_true h), if_neg, if_neg]
      · intro hprefix
        obtain ⟨more, hmore⟩ := List.isPrefixOf_iff_prefix.1 hprefix
        rw [← hmore, harg] at hsecond
        exact hsecond rfl
      · intro hletter
        rw [hletter, harg, String.toList_ofList] at hsecond
        exact hsecond rfl
  rw [hfilter, List.countP_eq_length_filter]
  exact List.length_filterMap_le _ _

/-! ## Negative numbers -/

/-- A digit is none of the characters that divide an argument. -/
theorem plain_digit : ∀ d < 10, (Digit.value? (digitChar d)).isSome ∧ digitChar d ≠ '=' ∧
    digitChar d ≠ '-' ∧ digitChar d ≠ '.' ∧ digitChar d ≠ '\n' := by
  decide

theorem isNegativeNumber_of_digits {digits : List Char} (hsome : digits ≠ [])
    (hdigits : ∀ c ∈ digits, ∃ d < 10, c = digitChar d) (harg : arg.toList = '-' :: digits) :
    isNegativeNumber arg = true := by
  have hlast : digits.getLast? ≠ some '\n' := by
    intro hbad
    obtain ⟨d, hd, heq⟩ := hdigits _ (List.mem_of_getLast? hbad)
    exact (plain_digit d hd).2.2.2.2 heq.symm
  have hspan : digits.span (· ≠ '.') = (digits, []) := by
    refine span_of_not_mem fun hbad => ?_
    obtain ⟨d, hd, heq⟩ := hdigits _ hbad
    exact (plain_digit d hd).2.2.2.1 heq.symm
  have hall : digits.all (fun c => (Digit.value? c).isSome) = true := by
    rw [List.all_eq_true]
    intro c hc
    obtain ⟨d, hd, rfl⟩ := hdigits c hc
    exact (plain_digit d hd).1
  rw [isNegativeNumber, harg]
  simp only [if_neg hlast, hspan, hall, Bool.and_true, decide_eq_true_eq]
  exact hsome

/-- A negative number is an operand. -/
theorem classifyOne_negative (hg : g.IsPlain) {digits : List Char} (hsome : digits ≠ [])
    (hdigits : ∀ c ∈ digits, ∃ d < 10, c = digitChar d) (harg : arg.toList = '-' :: digits) :
    g.classifyOne arg = .ok .operand := by
  obtain ⟨c, rest, rfl⟩ := List.exists_cons_of_ne_nil hsome
  obtain ⟨d, hd, hc⟩ := hdigits c List.mem_cons_self
  obtain ⟨hvalue, -, hminus, -, -⟩ := plain_digit d hd
  rw [← hc] at hvalue hminus
  -- No name goes on with the digit, so the argument is no name and no short form of one.
  have hnames : ∀ o ∈ g.options, ∀ name ∈ o.names, name.toList[1]? ≠ some c := by
    intro o ho name hname hbad
    have hdigit := hg.digit o ho name hname
    rw [hbad, Option.bind_some] at hdigit
    rw [hdigit] at hvalue
    cases hvalue
  have hdash : arg.startsWith "-" = true := by
    rw [String.startsWith_string_iff, harg]
    exact ⟨c :: rest, rfl⟩
  have hlong : arg.startsWith "--" = false := by
    rw [String.startsWith_string_eq_false_iff, harg]
    rintro ⟨more, hmore⟩
    exact hminus (List.cons.inj (List.cons.inj hmore).2).1.symm
  have hnone : g.option? arg = none := by
    cases hfound : g.option? arg with
    | none => rfl
    | some found =>
      refine absurd ?_ (hnames found (mem_of_option? hfound) arg (mem_names_of_option? hfound))
      rw [harg]
      rfl
  have hlone : arg ≠ "-" := by
    rintro rfl
    cases harg
  have hplain : '=' ∉ arg.toList := by
    rw [harg, List.mem_cons]
    rintro (hbad | hbad)
    · exact absurd hbad (by decide)
    · obtain ⟨d, hd, heq⟩ := hdigits _ hbad
      exact (plain_digit d hd).2.1 heq.symm
  have hdivide : (divide arg).2 = none := by
    rw [divide, span_of_not_mem hplain]
  have hmatches : g.shortMatches arg = [] := by
    have hcount : g.allNames.countP (·.1.toList[1]? = some c) = 0 := by
      rw [List.countP_eq_zero]
      intro entry hentry hsecond
      obtain ⟨found, hfound, hmem⟩ := List.mem_flatMap.1 hentry
      obtain ⟨name, hname, rfl⟩ := List.mem_map.1 hmem
      exact hnames found hfound name hname (of_decide_eq_true hsecond)
    rw [← List.length_eq_zero_iff, ← Nat.le_zero, ← hcount]
    exact length_shortMatches_le harg
  rw [classifyOne, if_neg (by rw [hdash]; exact Bool.false_ne_true), hnone]
  dsimp only
  rw [if_neg hlone]
  have hunnamed : classifyOne.unnamed g arg = .ok .operand := by
    rw [classifyOne.unnamed, hlong, if_neg Bool.false_ne_true, hmatches]
    dsimp only
    rw [isNegativeNumber_of_digits hsome hdigits harg, Bool.true_or, if_pos rfl]
  split
  · next hsplit =>
    rw [hsplit] at hdivide
    cases hdivide
  · exact hunnamed

/-! ## Sorting sequences -/

theorem classify_cons {c : Class σ} (hmark : arg ≠ "--") (hc : g.classifyOne arg = .ok c)
    (rest : List String) :
    g.classify (arg :: rest) = (g.classify rest).map ((arg, c) :: ·) := by
  rw [classify, hc]
  · cases g.classify rest <;> rfl
  · exact hmark

/-- Sorting keeps the arguments. -/
theorem map_fst_classify {args : List String} {items : List (String × Class σ)}
    (h : g.classify args = .ok items) : items.map (·.1) = args := by
  fun_induction classify g args generalizing items with
  | case1 =>
    obtain rfl := Except.ok.inj h
    rfl
  | case2 rest =>
    obtain rfl := Except.ok.inj h
    simp [Function.comp_def]
  | case3 arg rest hmark ih =>
    obtain ⟨c, -, h⟩ := of_bind_eq_ok h
    obtain ⟨cs, hrest, h⟩ := of_bind_eq_ok h
    obtain rfl := Except.ok.inj h
    rw [List.map_cons, ih hrest]

/-- Arguments that are each sorted alone are sorted together. -/
theorem exists_classify (h : ∀ arg, ∃ c, g.classifyOne arg = .ok c) (args : List String) :
    ∃ items, g.classify args = .ok items := by
  fun_induction classify g args with
  | case1 => exact ⟨_, rfl⟩
  | case2 rest => exact ⟨_, rfl⟩
  | case3 arg rest hmark ih =>
    obtain ⟨c, hc⟩ := h arg
    obtain ⟨items, hitems⟩ := ih
    rw [hc, hitems]
    exact ⟨_, rfl⟩

/-! ## Options as parts -/

/-- Arguments that are an option, with the value it takes, and what it does. -/
inductive IsPart (g : Grammar σ) : List String → (σ → σ) → Prop where
  /-- An option without a value. -/
  | switch {name : String} {names : List String} {f : σ → σ} (hname : IsName name)
    (ho : g.option? name = some ⟨names, .switch f⟩) : IsPart g [name] f
  /-- An option and the value after it. -/
  | apart {name value : String} {names : List String}
    {effect : Option String → σ → Except String σ} {f : σ → σ} (hname : IsName name)
    (ho : g.option? name = some ⟨names, .valued effect⟩)
    (hvalue : g.classifyOne value = .ok .operand) (hmark : value ≠ "--")
    (heffect : ∀ x, effect (some value) x = .ok (f x)) : IsPart g [name, value] f
  /-- An option and its value in one argument. -/
  | joined {name value : String} {names : List String}
    {effect : Option String → σ → Except String σ} {f : σ → σ} (hname : IsName name)
    (ho : g.option? name = some ⟨names, .valued effect⟩) (hmark : value ≠ "--")
    (heffect : ∀ x, effect (some value) x = .ok (f x)) : IsPart g [name ++ "=" ++ value] f

theorem applyOption_valued (names : List String) {effect : Option String → σ → Except String σ}
    {f : σ → σ} (hmark : value ≠ "--") (heffect : ∀ x, effect (some value) x = .ok (f x)) (x : σ) :
    g.applyOption ⟨names, .valued effect⟩ (some value) x = .ok (f x) := by
  simp only [applyOption, if_neg hmark, heffect]

/-- A value in the same argument is the value of its option. -/
theorem bundle_valued {effect : Option String → σ → Except String σ} (names : List String)
    (long : Bool) (value : String) :
    g.bundle ⟨names, .valued effect⟩ long (some value.toList) =
      .ok ⟨[(⟨names, .valued effect⟩, some value)], false⟩ := by
  have htakes : (⟨names, .valued effect⟩ : OptionSpec σ).takesValue = true := rfl
  unfold bundle
  cases hvalue : value.toList with
  | nil =>
    dsimp only
    rw [if_pos htakes, String.toList_eq_nil_iff.1 hvalue]
  | cons c cs =>
    dsimp only
    rw [if_pos htakes, ← hvalue, String.ofList_toList]

/-- An option that is taken leaves the arguments after it and its value. -/
theorem consume_of_takeOption {p p' : Progress σ} {written : Written σ} {taken : Bool}
    {rest : List (String × Class σ)} (h : g.takeOption p arg written rest = .ok (taken, p'))
    (fuel : Nat) :
    g.consume (fuel + 1) p ((arg, .option written) :: rest) =
      g.consume fuel p' (if taken then rest.tail else rest) := by
  have hany : ((arg, Class.option written) :: rest).any isOption = true := rfl
  rw [consume, if_pos hany]
  dsimp only
  rw [h]
  rfl

/-- A part is sorted to an option and the value after it, whatever follows, and taken in one
step. -/
theorem IsPart.exists_front {words : List String} {f : σ → σ} (hg : g.IsPlain)
    (h : g.IsPart words f) :
    ∃ arg written values,
      (∀ rest, g.classify (words ++ rest) =
        (g.classify rest).map fun items => (arg, .option written) :: (values ++ items)) ∧
      ∀ fuel x left extras items,
        g.consume (fuel + 1) ⟨x, left, extras⟩ ((arg, .option written) :: (values ++ items)) =
          g.consume fuel ⟨f x, left, extras⟩ items := by
  cases h with
  | @switch name names f hname ho =>
    refine ⟨name, ⟨some ⟨names, .switch f⟩, name.startsWith "--", none⟩, [], fun rest => ?_,
      fun fuel x left extras items => ?_⟩
    · exact classify_cons hname.ne_mark (classifyOne_name hname ho) rest
    · have htake : g.takeOption ⟨x, left, extras⟩ name
          ⟨some ⟨names, .switch f⟩, name.startsWith "--", none⟩ items =
            .ok (false, ⟨f x, left, extras⟩) := by
        simp only [takeOption, bundle, Option.map_none, bind, Except.bind, pure, Except.pure,
          OptionSpec.takesValue, Bool.false_eq_true, if_false, applyAll, applyOption]
      exact consume_of_takeOption htake fuel
  | @apart name value names effect f hname ho hvalue hmark heffect =>
    refine ⟨name, ⟨some ⟨names, .valued effect⟩, name.startsWith "--", none⟩,
      [(value, .operand)], fun rest => ?_, fun fuel x left extras items => ?_⟩
    · rw [List.cons_append, List.singleton_append,
        classify_cons hname.ne_mark (classifyOne_name hname ho), classify_cons hmark hvalue]
      cases g.classify rest <;> rfl
    · have happly := applyOption_valued (g := g) names hmark heffect x
      have htake : g.takeOption ⟨x, left, extras⟩ name
          ⟨some ⟨names, .valued effect⟩, name.startsWith "--", none⟩
            ((value, .operand) :: items) = .ok (true, ⟨f x, left, extras⟩) := by
        simp only [takeOption, bundle, Option.map_none, bind, Except.bind, pure, Except.pure,
          OptionSpec.takesValue, if_true, List.dropLast_singleton, List.nil_append,
          List.getLast?_singleton, Option.map_some, Option.toList_some, applyAll, happly]
      exact consume_of_takeOption htake fuel
  | @joined name value names effect f hname ho hmark heffect =>
    refine ⟨name ++ "=" ++ value, ⟨some ⟨names, .valued effect⟩, name.startsWith "--", some value⟩,
      [], fun rest => ?_, fun fuel x left extras items => ?_⟩
    · refine classify_cons (fun hbad => ?_) (classifyOne_joined hg hname ho) rest
      have hequals : '=' ∈ (name ++ "=" ++ value).toList := by simp
      rw [hbad] at hequals
      exact absurd hequals (by decide)
    · have happly := applyOption_valued (g := g) names hmark heffect x
      have htake : g.takeOption ⟨x, left, extras⟩ (name ++ "=" ++ value)
          ⟨some ⟨names, .valued effect⟩, name.startsWith "--", some value⟩ items =
            .ok (false, ⟨f x, left, extras⟩) := by
        simp only [takeOption, Option.map_some, bundle_valued, bind, Except.bind, pure, Except.pure,
          Bool.false_eq_true, if_false, applyAll, happly]
      exact consume_of_takeOption htake fuel

/-! ## Sequences of parts -/

/-- Arguments that are parts, one after the other, with what they do to the value; the operand that
is not taken yet is told before and after them. -/
inductive Reads (g : Grammar σ) :
    Option (OperandSpec σ) → List String → (σ → σ) → Option (OperandSpec σ) → Prop where
  /-- No parts. -/
  | nil (left : Option (OperandSpec σ)) : Reads g left [] id left
  /-- An option first. -/
  | part {left after : Option (OperandSpec σ)} {words rest : List String} {f k : σ → σ}
    (h : g.IsPart words f) (hrest : Reads g left rest k after) :
    Reads g left (words ++ rest) (k ∘ f) after
  /-- An operand of one argument first. -/
  | operand {o : OperandSpec σ} {after : Option (OperandSpec σ)} {arg : String}
    {rest : List String} {f k : σ → σ} (hshape : o.shape ≠ .command)
    (harg : g.classifyOne arg = .ok .operand) (hmark : arg ≠ "--")
    (heffect : ∀ x, o.effect [arg] x = .ok (f x)) (hrest : Reads g none rest k after) :
    Reads g (some o) (arg :: rest) (k ∘ f) after
  /-- An operand that all arguments belong to. -/
  | command {o : OperandSpec σ} {arg : String} {rest : List String} {f : σ → σ}
    {items : List (String × Class σ)} (hshape : o.shape = .command)
    (harg : g.classifyOne arg = .ok .operand) (hmark : arg ≠ "--")
    (hrest : g.classify rest = .ok items)
    (heffect : ∀ x, o.effect (arg :: rest) x = .ok (f x)) :
    Reads g (some o) (arg :: rest) f none

/-- An operand that is taken leaves the arguments after it. -/
theorem consume_of_takeOperand {p : Progress σ} {y : σ} {extras : List String} {n fuel : Nat}
    {items rest : List (String × Class σ)}
    (h : takeOperand p ((arg, .operand) :: items) = .ok (n + 1, ⟨y, none, extras⟩))
    (hrest : items.drop n = rest) (hoptions : rest = [] ∨ items.any isOption = true)
    (hfuel : rest.length < fuel) :
    g.consume (fuel + 1) p ((arg, .operand) :: items) = g.consume fuel ⟨y, none, extras⟩ rest := by
  have hany : ((arg, (.operand : Class σ)) :: items).any isOption = items.any isOption := rfl
  have hstep : g.consume (fuel + 1) p ((arg, .operand) :: items) =
      if items.any isOption then g.consume fuel ⟨y, none, extras⟩ (items.drop n)
      else .ok ⟨y, none, extras ++ (items.drop n).map (·.1)⟩ := by
    rw [Grammar.consume, h, hany]
    · rfl
    · intro _ _ _ heq
      cases heq
  rw [hstep, hrest]
  by_cases hsome : items.any isOption = true
  · rw [if_pos hsome]
  · obtain rfl := hoptions.resolve_right hsome
    obtain ⟨fuel, rfl⟩ := Nat.exists_eq_succ_of_ne_zero (Nat.ne_of_gt hfuel)
    rw [if_neg hsome]
    rfl

theorem takeOperand_single {o : OperandSpec σ} {f : σ → σ} (hshape : o.shape ≠ .command)
    (hmark : arg ≠ "--") (heffect : ∀ x, o.effect [arg] x = .ok (f x)) (x : σ)
    (extras : List String) {items : List (String × Class σ)} (hmarks : leadingMarks items = 0) :
    takeOperand ⟨x, some o, extras⟩ ((arg, .operand) :: items) =
      .ok (1, ⟨f x, none, extras⟩) := by
  have hlength : operandLength o.shape ((arg, (.operand : Class σ)) :: items) = some 1 := by
    have hstart : leadingMarks ((arg, (.operand : Class σ)) :: items) = 0 := rfl
    cases hkind : o.shape with
    | one => simp only [operandLength, hstart, List.drop_zero, hmarks]
    | optional => simp only [operandLength, hstart, List.drop_zero, hmarks]
    | command => exact absurd hkind hshape
  have hwords : withoutMark o.shape [arg] = [arg] := by
    rw [withoutMark, if_neg hshape, List.erase_of_not_mem]
    rw [List.mem_singleton]
    exact hmark.symm
  simp only [takeOperand, hlength, List.take_succ_cons, List.take_zero, List.map_cons,
    List.map_nil, hwords, heffect]
  rfl

/-- The operand that all arguments belong to is what they do. -/
theorem takeOperand_command (arg : String) {o : OperandSpec σ} {rest : List String}
    (hshape : o.shape = .command) (x : σ) (extras : List String)
    {items : List (String × Class σ)} (hrest : items.map (·.1) = rest) :
    takeOperand ⟨x, some o, extras⟩ ((arg, .operand) :: items) =
      (o.effect (arg :: rest) x).map fun y => (items.length + 1, ⟨y, none, extras⟩) := by
  have hlength : operandLength o.shape ((arg, (.operand : Class σ)) :: items) =
      some (items.length + 1) := by
    rw [hshape]
    rfl
  have hwords : withoutMark o.shape (arg :: rest) = arg :: rest := by
    rw [withoutMark, if_pos hshape]
  simp only [takeOperand, hlength, List.take_succ_cons, List.take_length, List.map_cons, hrest,
    hwords]
  cases o.effect (arg :: rest) x <;> rfl

/-- A sequence of parts is sorted and taken part by part. What is left once the operand is taken
starts with an option. -/
theorem Reads.exists_items {left after : Option (OperandSpec σ)} {words : List String} {k : σ → σ}
    (hg : g.IsPlain) (h : g.Reads left words k after) :
    ∃ items, g.classify words = .ok items ∧
      (left = none → items = [] ∨ ∃ arg written more, items = (arg, .option written) :: more) ∧
      ∀ fuel x extras, items.length < fuel →
        g.consume fuel ⟨x, left, extras⟩ items = g.consume 1 ⟨k x, after, extras⟩ [] := by
  induction h with
  | nil left =>
    refine ⟨[], rfl, fun _ => .inl rfl, fun fuel x extras hfuel => ?_⟩
    obtain ⟨fuel, rfl⟩ := Nat.exists_eq_succ_of_ne_zero (Nat.ne_of_gt hfuel)
    rfl
  | @part left after words rest f k hpart hrest ih =>
    obtain ⟨items, hitems, -, hconsume⟩ := ih
    obtain ⟨arg, written, values, hsorted, hstep⟩ := hpart.exists_front hg
    refine ⟨(arg, .option written) :: (values ++ items), ?_,
      fun _ => .inr ⟨arg, written, values ++ items, rfl⟩, fun fuel x extras hfuel => ?_⟩
    · rw [hsorted, hitems]
      rfl
    · obtain ⟨fuel, rfl⟩ := Nat.exists_eq_succ_of_ne_zero (Nat.ne_of_gt (Nat.zero_lt_of_lt hfuel))
      rw [List.length_cons, List.length_append] at hfuel
      rw [Nat.succ_eq_add_one, hstep]
      exact hconsume fuel (f x) extras (by omega)
  | @operand o after arg rest f k hshape harg hmark heffect hrest ih =>
    obtain ⟨items, hitems, hfirst, hconsume⟩ := ih
    have hmarks : leadingMarks items = 0 := by
      rcases hfirst rfl with rfl | ⟨_, _, _, rfl⟩
      · rfl
      · rfl
    have hoptions : items = [] ∨ items.any isOption = true := by
      rcases hfirst rfl with rfl | ⟨_, _, _, rfl⟩
      · exact .inl rfl
      · exact .inr rfl
    refine ⟨(arg, .operand) :: items, ?_, (fun hleft => nomatch hleft),
      fun fuel x extras hfuel => ?_⟩
    · rw [classify_cons hmark harg, hitems]
      rfl
    · obtain ⟨fuel, rfl⟩ := Nat.exists_eq_succ_of_ne_zero (Nat.ne_of_gt (Nat.zero_lt_of_lt hfuel))
      have hless : items.length < fuel := Nat.lt_of_succ_lt_succ hfuel
      rw [Nat.succ_eq_add_one, consume_of_takeOperand
        (takeOperand_single hshape hmark heffect x extras hmarks) List.drop_zero hoptions hless]
      exact hconsume fuel (f x) extras hless
  | @command o arg rest f items hshape harg hmark hrest heffect =>
    refine ⟨(arg, .operand) :: items, ?_, (fun hleft => nomatch hleft),
      fun fuel x extras hfuel => ?_⟩
    · rw [classify_cons hmark harg, hrest]
      rfl
    · obtain ⟨fuel, rfl⟩ := Nat.exists_eq_succ_of_ne_zero (Nat.ne_of_gt (Nat.zero_lt_of_lt hfuel))
      obtain ⟨fuel, rfl⟩ := Nat.exists_eq_succ_of_ne_zero
        (Nat.ne_of_gt (Nat.zero_lt_of_lt (Nat.lt_of_succ_lt_succ hfuel)))
      have htake := takeOperand_command arg hshape x extras (map_fst_classify hrest)
      rw [heffect] at htake
      exact consume_of_takeOperand htake List.drop_length (.inl rfl) (Nat.zero_lt_succ fuel)

/-- **A command line of parts.** It does to the value what its parts do, and no argument is without
a place; an optional operand that is missing takes effect at the end. -/
theorem parse_of_reads {after : Option (OperandSpec σ)} {words : List String} {k : σ → σ}
    (hg : g.IsPlain) (h : g.Reads g.operand words k after) {start y : σ}
    (hend : after = none ∧ y = k start ∨
      ∃ o, after = some o ∧ o.shape = .optional ∧ o.effect [] (k start) = .ok y) :
    g.parse start words = .ok (y, []) := by
  obtain ⟨items, hitems, -, hconsume⟩ := h.exists_items hg
  rw [parse, hitems]
  dsimp only [bind, Except.bind]
  rw [hconsume _ start [] (by omega)]
  rcases hend with ⟨rfl, rfl⟩ | ⟨o, rfl, hshape, heffect⟩
  · rfl
  · have htake : takeOperand ⟨k start, some o, []⟩ [] = .ok (0, ⟨y, none, []⟩) := by
      simp only [takeOperand, hshape, operandLength, leadingMarks, List.takeWhile_nil,
        List.length_nil, List.drop_nil, List.take_nil, List.map_nil, withoutMark, reduceCtorEq,
        if_false, List.erase_nil, heffect]
      rfl
    have hlast : g.consume 1 ⟨k start, some o, []⟩ [] = .ok ⟨y, none, []⟩ := by
      rw [Grammar.consume, if_neg (by simp), htake]
      · rfl
      · intro _ _ _ hcons
        cases hcons
    rw [hlast]

/-! ## Refusals -/

/-- A value that is refused ends the reading. -/
theorem parse_refused {message : String} {names : List String}
    {effect : Option String → σ → Except String σ} {start : σ} (hname : IsName name)
    (ho : g.option? name = some ⟨names, .valued effect⟩)
    (hvalue : g.classifyOne value = .ok .operand) (hmark : value ≠ "--")
    (heffect : effect (some value) start = .error message) {rest : List String}
    {items : List (String × Class σ)} (hrest : g.classify rest = .ok items) :
    g.parse start (name :: value :: rest) =
      .error (g.optionError ⟨names, .valued effect⟩ message) := by
  have htake : g.takeOption ⟨start, g.operand, []⟩ name
      ⟨some ⟨names, .valued effect⟩, name.startsWith "--", none⟩ ((value, .operand) :: items) =
        .error (g.optionError ⟨names, .valued effect⟩ message) := by
    simp only [takeOption, bundle, Option.map_none, bind, Except.bind, OptionSpec.takesValue,
      if_true, List.dropLast_singleton, List.nil_append, List.getLast?_singleton, Option.map_some,
      Option.toList_some, applyAll, applyOption, if_neg hmark, heffect]
  rw [parse, classify_cons hname.ne_mark (classifyOne_name hname ho), classify_cons hmark hvalue,
    hrest]
  dsimp only [bind, Except.bind, Except.map]
  rw [consume, if_pos (by rfl)]
  dsimp only
  rw [htake]
  rfl

/-- An operand that all arguments belong to ends the reading where they are refused. -/
theorem parse_command_refused {rest : List String} {e : Stop} {items : List (String × Class σ)}
    {start : σ} {spec : OperandSpec σ} (hoperand : g.operand = some spec)
    (hshape : spec.shape = .command) (harg : g.classifyOne arg = .ok .operand) (hmark : arg ≠ "--")
    (hrest : g.classify rest = .ok items) (heffect : spec.effect (arg :: rest) start = .error e) :
    g.parse start (arg :: rest) = .error e := by
  have htake := takeOperand_command arg hshape start [] (map_fst_classify hrest)
  rw [heffect] at htake
  rw [parse, classify_cons hmark harg, hrest, hoperand]
  dsimp only [bind, Except.bind, Except.map]
  by_cases hoptions : ((arg, .operand) :: items).any isOption = true
  · rw [consume, if_pos hoptions, htake]
    · rfl
    · intro _ _ _ heq
      cases heq
  · rw [consume, if_neg hoptions, htake]
    · rfl
    · intro _ _ _ heq
      cases heq

end NorFlash.CommandLine.Grammar
