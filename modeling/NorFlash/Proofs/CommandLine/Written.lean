import Mathlib.Data.Option.Basic
import NorFlash.Proofs.CommandLine.Request

/-!
# Reading the command lines for a request

Each value of a request is written as a part of a command line for the grammar of its command
(`Request.isPart`), or as the operand; the whole is read as what the request asks for
(`parse_written`), whichever way it is written. The form of a number is no option, and it is read
back as the number if it is not too long; a decimal form that is too long is refused
(`parse_overlong`).
-/

namespace NorFlash.CommandLine

open Nat (toDigits digitChar)

variable {g : Grammar Draft}

/-! ## Texts of values -/

/-- A text that a grammar takes for a value, wherever it stands. -/
structure IsValueText (g : Grammar Draft) (text : String) : Prop where
  /-- It is an operand. -/
  operand : g.classifyOne text = .ok .operand
  /-- It is not the mark. -/
  ne_mark : text ≠ "--"

theorem isValueText_of_no_dash {text : String} (h : ¬ "-".toList <+: text.toList) :
    IsValueText g text where
  operand := Grammar.classifyOne_of_no_dash h
  ne_mark := by
    rintro rfl
    exact h (by decide)

theorem isValueText_decimal (hg : g.IsPlain) (n : Int) : IsValueText g (Numeral.decimal n) := by
  obtain ⟨d, rest, hdigits, hd⟩ :=
    IntegerLiteral.exists_toDigits_eq_cons (show 1 < 10 by decide) n.natAbs
  have hdash := (Grammar.plain_digit d hd).2.2.1
  by_cases hnegative : n < 0
  · have htext : (Numeral.decimal n).toList = '-' :: toDigits 10 n.natAbs := by
      rw [Numeral.decimal, String.toList_ofList, Numeral.sign, if_pos hnegative,
        List.singleton_append]
    refine ⟨Grammar.classifyOne_negative hg (by simp [hdigits])
      (fun c => IntegerLiteral.of_mem_toDigits (by decide)) htext, fun hmark => ?_⟩
    rw [hmark, hdigits] at htext
    exact hdash (List.cons.inj (List.cons.inj htext).2).1.symm
  · have htext : (Numeral.decimal n).toList = digitChar d :: rest := by
      rw [Numeral.decimal, String.toList_ofList, Numeral.sign, if_neg hnegative, List.nil_append,
        hdigits]
    refine isValueText_of_no_dash ?_
    rw [htext]
    rintro ⟨more, hmore⟩
    exact hdash (List.cons.inj hmore).1.symm

theorem isValueText_hex (n : Int) : IsValueText g ("0x" ++ Numeral.hex n) := by
  refine isValueText_of_no_dash ?_
  rw [String.toList_append]
  rintro ⟨more, hmore⟩
  exact absurd (List.cons.inj hmore).1 (by decide)

theorem isValueText_path (path : PathText) : IsValueText g path.text := by
  refine isValueText_of_no_dash ?_
  rintro ⟨more, hmore⟩
  exact path.no_dash (hmore ▸ rfl)

/-- The texts that a form allows for its value. -/
def Form.texts : Form → String → Prop
  | switch _ => fun _ => False
  | valued _ texts => texts
  | operand text => (· = text)

/-- All texts for a value are taken for it. -/
theorem isValueText_of_texts (hg : g.IsPlain) {allowed : Int → Prop} (c : Choice) {text : String}
    (h : (c.form allowed).texts text) : IsValueText g text := by
  have hnumeral {n : Int} (h : IsNumeral allowed n text) : IsValueText g text := by
    obtain ⟨-, rfl⟩ | ⟨-, rfl⟩ := h
    · exact isValueText_decimal hg n
    · exact isValueText_hex n
  cases c with
  | config path | artifact path | buildDirectory path | output path | image path =>
    obtain rfl := h
    exact isValueText_path path
  | flashSize n | blockSize n | baseAddress n | artifactSize n => exact hnumeral h
  | maxTrials n => exact hnumeral (.inl h)
  | build | hex | json => exact h.elim

/-! ## Effects of options -/

/-- An option takes the values of a form, and they do what is told. -/
def Takes (effect : Effect Draft) (form : Form) (f : Draft → Draft) : Prop :=
  match effect, form with
  | .switch k, .switch _ => k = f
  | .valued k, .valued _ texts => ∀ text, texts text → ∀ d, k (some text) d = .ok (f d)
  | _, _ => False

variable {f : Draft → Draft} {n : Int}

theorem takes_path (names : List String) {path : PathText} {store : Option Path → Draft → Draft}
    (hstore : ∀ d, store (some path.path) d = f d) :
    Takes (Draft.pathOption store) (.valued names (· = path.text)) f := by
  rintro _ rfl d
  exact congrArg Except.ok (hstore d)

theorem takes_number {kind : String} {read? : String → Option Int} {texts : String → Prop}
    (hread : ∀ text, texts text → read? text = some n) (names : List String)
    {store : Option Int → Draft → Draft} (hstore : ∀ d, store (some n) d = f d) :
    Takes (Draft.numberOption kind read? store) (.valued names texts) f := by
  intro text htext d
  simp only [hread text htext, hstore]

theorem takes_int (names : List String) {store : Option Int → Draft → Draft}
    (hstore : ∀ d, store (some n) d = f d) :
    Takes (Draft.intOption store) (.valued names (IsNumeral Short n)) f := by
  refine takes_number (fun text htext => ?_) names hstore
  obtain ⟨hshort, rfl⟩ | ⟨hsign, rfl⟩ := htext
  · rw [IntegerLiteral.read?_decimal, if_pos (show Numeral.isWritable n = true from hshort)]
  · obtain ⟨n, rfl⟩ := Int.eq_ofNat_of_zero_le hsign
    exact IntegerLiteral.read?_hex n

theorem takes_decimal (names : List String) {store : Option Int → Draft → Draft}
    (hstore : ∀ d, store (some n) d = f d) :
    Takes (Draft.decimalOption store) (.valued names (IsDecimal Short n)) f := by
  refine takes_number (fun text htext => ?_) names hstore
  obtain ⟨hshort, rfl⟩ := htext
  rw [IntegerLiteral.readDecimal?_decimal, if_pos (show Numeral.isWritable n = true from hshort)]

theorem Choice.isName {c : Choice} : ∀ name ∈ c.names, Grammar.IsName name := by
  cases c <;> (dsimp only [names]; decide)

theorem Choice.form_cases (allowed : Int → Prop) (c : Choice) :
    c.form allowed = .switch c.names ∨ (∃ texts, c.form allowed = .valued c.names texts) ∨
      ∃ text, c.form allowed = .operand text := by
  cases c <;> simp [form]

/-- A grammar has an option that takes a value. -/
def HasOption (g : Grammar Draft) (c : Choice) : Prop :=
  ∃ effect, (∀ name ∈ c.names, g.option? name = some ⟨c.names, effect⟩) ∧
    Takes effect (c.form Short) (c.apply ·)

/-- A value is a part where there is an option that takes it. -/
theorem HasOption.isPart (hg : g.IsPlain) {c : Choice} (hc : HasOption g c) {words : List String}
    (hwords : (c.form Short).Allows words) : g.IsPart words (c.apply ·) := by
  obtain ⟨effect, ho, htakes⟩ := hc
  have htext (text : String) (h : (c.form Short).texts text) := isValueText_of_texts hg c h
  rcases c.form_cases Short with hform | ⟨texts, hform⟩ | ⟨text, hform⟩
  · rw [hform] at htakes hwords
    obtain ⟨name, hname, rfl⟩ := hwords
    cases effect with
    | switch k =>
      obtain rfl : k = _ := htakes
      exact .switch (c.isName name hname) (ho name hname)
    | valued k => exact htakes.elim
    | help text => exact htakes.elim
  · rw [hform] at htakes hwords htext
    obtain ⟨name, hname, text, hallowed, hform⟩ := hwords
    obtain ⟨hoperand, hmark⟩ := htext text hallowed
    cases effect with
    | switch k => exact htakes.elim
    | valued k =>
      obtain rfl | ⟨-, rfl⟩ := hform
      · exact .apart (c.isName name hname) (ho name hname) hoperand hmark (htakes text hallowed)
      · exact .joined (c.isName name hname) (ho name hname) hmark (htakes text hallowed)
    | help text => exact htakes.elim
  · rw [hform] at htakes
    cases effect <;> exact htakes.elim

/-! ## Options of the commands -/

theorem Request.isPlain (r : Request) : r.grammar.IsPlain := by
  cases r <;> constructor <;> dsimp only [grammar] <;> decide

/-- Every command has the options that all have. -/
theorem Request.option?_device (r : Request) :
    ∀ o ∈ deviceOptions, ∀ name ∈ o.names, r.grammar.option? name = some o := by
  cases r <;> simp only [deviceOptions, List.forall_mem_cons, List.not_mem_nil, false_implies,
    implies_true, and_true] <;> exact ⟨⟨rfl, rfl⟩, rfl, rfl, rfl⟩

/-- There are options for the values that every command has. -/
theorem DeviceRequest.exists_option (d : DeviceRequest) : ∀ slot ∈ d.slots, ∀ c ∈ slot,
    ∃ effect, ⟨c.names, effect⟩ ∈ deviceOptions ∧ Takes effect (c.form Short) (c.apply ·) := by
  simp only [slots, List.forall_mem_cons, Option.forall_mem_map]
  refine ⟨fun path _ => ?_, fun n _ => ?_, fun n _ => ?_, fun n _ => ?_, List.forall_mem_nil _⟩
  · exact ⟨_, .head _, takes_path _ fun _ => rfl⟩
  · exact ⟨_, .tail _ (.head _), takes_int _ fun _ => rfl⟩
  · exact ⟨_, .tail _ (.tail _ (.head _)), takes_int _ fun _ => rfl⟩
  · exact ⟨_, .tail _ (.tail _ (.tail _ (.head _))), takes_int _ fun _ => rfl⟩

/-- The command has options for its own values. -/
theorem Request.hasOption (r : Request) :
    ∀ slot ∈ r.slots, ∀ c ∈ slot, c.names ≠ [] → HasOption r.grammar c := by
  have hpair {a b : String} {o : OptionSpec Draft} (ha : r.grammar.option? a = some o)
      (hb : r.grammar.option? b = some o) :
      ∀ name ∈ [a, b], r.grammar.option? name = some o :=
    List.forall_mem_cons.2 ⟨ha, List.forall_mem_singleton.2 hb⟩
  have himage (image : PathText) :
      ∀ c ∈ some (Choice.image image), c.names ≠ [] → HasOption r.grammar c := by
    intro c hc hnames
    rw [← Option.mem_some_iff.1 hc] at hnames
    exact absurd rfl hnames
  cases r with
  | makeImage device output artifact build buildDirectory hex json =>
    simp only [slots, List.forall_mem_cons, Option.forall_mem_map]
    refine ⟨fun path _ hnames => ?_, fun path _ _ => ?_, Choice.forall_mem_flag fun _ => ?_,
      fun path _ _ => ?_, Choice.forall_mem_flag fun _ => ?_, Choice.forall_mem_flag fun _ => ?_,
      List.forall_mem_nil _⟩
    · exact absurd rfl hnames
    · exact ⟨_, hpair rfl rfl, takes_path _ fun _ => rfl⟩
    · exact ⟨_, List.forall_mem_singleton.2 rfl, rfl⟩
    · exact ⟨_, List.forall_mem_singleton.2 rfl, takes_path _ fun _ => rfl⟩
    · exact ⟨_, List.forall_mem_singleton.2 rfl, rfl⟩
    · exact ⟨_, hpair rfl rfl, rfl⟩
  | showLayout device artifactSize json =>
    simp only [slots, List.forall_mem_cons, Option.forall_mem_map]
    refine ⟨fun n _ _ => ?_, Choice.forall_mem_flag fun _ => ?_, List.forall_mem_nil _⟩
    · exact ⟨_, hpair rfl rfl, takes_int _ fun _ => rfl⟩
    · exact ⟨_, hpair rfl rfl, rfl⟩
  | checkImage device image =>
    exact List.forall_mem_singleton.2 (himage image)
  | showTrials device image maxTrials json =>
    simp only [slots, List.forall_mem_cons, Option.forall_mem_map]
    refine ⟨himage image, fun n _ _ => ?_, Choice.forall_mem_flag fun _ => ?_,
      List.forall_mem_nil _⟩
    · exact ⟨_, hpair rfl rfl, takes_decimal _ fun _ => rfl⟩
    · exact ⟨_, hpair rfl rfl, rfl⟩

theorem Request.mem_choices {r : Request} {c : Choice} :
    c ∈ r.choices ↔ some c ∈ r.device.slots ∨ some c ∈ r.slots := by
  simp [choices]

/-- A value for an option is a part of a command line for the command. -/
theorem Request.isPart {r : Request} {c : Choice} (hc : c ∈ r.choices) (hnames : c.names ≠ [])
    {words : List String} (hwords : (c.form Short).Allows words) :
    r.grammar.IsPart words (c.apply ·) := by
  have hoption : HasOption r.grammar c := by
    rcases mem_choices.1 hc with hdevice | hslot
    · obtain ⟨effect, heffect, htakes⟩ := r.device.exists_option _ hdevice c rfl
      exact ⟨effect, r.option?_device _ heffect, htakes⟩
    · exact r.hasOption _ hslot c rfl hnames
  exact hoption.isPart r.isPlain hwords

/-- A value for no option is the operand of the command. -/
theorem Request.exists_operand {r : Request} {c : Choice} (hc : c ∈ r.choices)
    (hnames : c.names = []) :
    ∃ o text, r.grammar.operand = some o ∧ o.shape ≠ .command ∧ c.form Short = .operand text ∧
      ∀ d, o.effect [text] d = .ok (c.apply d) := by
  rcases mem_choices.1 hc with hdevice | hslot
  · obtain ⟨effect, heffect, -⟩ := r.device.exists_option _ hdevice c rfl
    have hsome : ∀ o ∈ deviceOptions, o.names ≠ [] := by decide
    exact absurd hnames (hsome _ heffect)
  · cases c with
    | output path =>
      cases r with
      | makeImage => exact ⟨_, path.text, rfl, by decide, rfl, fun _ => rfl⟩
      | showLayout | checkImage | showTrials => simp [slots, Choice.flag, eq_comm] at hslot
    | image path =>
      cases r with
      | checkImage | showTrials => exact ⟨_, path.text, rfl, by decide, rfl, fun _ => rfl⟩
      | makeImage | showLayout => simp [slots, Choice.flag, eq_comm] at hslot
    | _ => exact absurd hnames (List.cons_ne_nil _ _)

/-- Without a value for the operand, the operand is none or changes nothing. -/
theorem Request.operand_missing {r : Request} (hnames : ∀ c ∈ r.choices, c.names ≠ []) {d : Draft}
    (hd : d = r.choices.foldl Choice.apply Draft.initial) :
    r.grammar.operand = none ∨
      ∃ o, r.grammar.operand = some o ∧ o.shape = .optional ∧ o.effect [] d = .ok d := by
  have himage (path : PathText) : some (Choice.image path) ∉ r.slots := fun hslot =>
    hnames _ (mem_choices.2 (.inr hslot)) rfl
  cases r with
  | makeImage device output artifact build buildDirectory hex json =>
    obtain ⟨spec, hspec, -, hcommand⟩ :=
      (makeImage device output artifact build buildDirectory hex json).exists_spec
    obtain rfl := Option.some.inj hspec
    have hmake := (Prod.ext_iff.1 (hcommand d hd)).1
    have houtput : d.make.output = output.map (·.path) := by
      rw [show d.make = _ from Command.makeImage.inj hmake]
    cases output with
    | none =>
      -- The operand takes effect at the end with no argument and stores what is there already.
      refine .inr ⟨_, rfl, rfl, congrArg Except.ok ?_⟩
      obtain ⟨device, ⟨output, rest⟩, image⟩ := d
      obtain rfl : output = none := houtput
      rfl
    | some path => exact absurd rfl (hnames (.output path) (mem_choices.2 (.inr (.head _))))
  | showLayout => exact .inl rfl
  | checkImage device image => exact absurd (.head _) (himage image)
  | showTrials device image maxTrials json => exact absurd (.head _) (himage image)

/-! ## Command lines for a command -/

namespace Spells

variable {r : Request} {cs : List Choice} {words : List String}

/-- Values for options are taken whether the operand is or not. -/
theorem reads_options (h : Spells Short cs words) (hmem : ∀ c ∈ cs, c ∈ r.choices)
    (hnames : ∀ c ∈ cs, c.names ≠ []) (left : Option (OperandSpec Draft)) :
    r.grammar.Reads left words (cs.foldl Choice.apply ·) left := by
  induction h with
  | nil => exact .nil left
  | cons hc hrest ih =>
    rw [List.forall_mem_cons] at hmem hnames
    exact .part (r.isPart hmem.1 hnames.1 hc) (ih hmem.2 hnames.2)

/-- The operand is taken from between values for options. -/
theorem reads_operand (h : Spells Short cs words) (hmem : ∀ c ∈ cs, c ∈ r.choices)
    (hdiffer : cs.Pairwise (·.names ≠ ·.names)) (hoperand : ∃ c ∈ cs, c.names = []) :
    r.grammar.Reads r.grammar.operand words (cs.foldl Choice.apply ·) none := by
  induction h with
  | nil => simp at hoperand
  | @cons c cs words rest hc hrest ih =>
    rw [List.forall_mem_cons] at hmem
    rw [List.pairwise_cons] at hdiffer
    by_cases hnames : c.names = []
    · obtain ⟨o, text, ho, hshape, hform, heffect⟩ := r.exists_operand hmem.1 hnames
      have htext : IsValueText r.grammar text := by
        have hallowed : (c.form Short).texts text := by rw [hform, Form.texts]
        exact isValueText_of_texts r.isPlain c hallowed
      rw [hform] at hc
      obtain rfl : words = [text] := hc
      rw [ho]
      show r.grammar.Reads (some o) (text :: rest)
        ((cs.foldl Choice.apply ·) ∘ (c.apply ·)) none
      -- All values differ in their names, so no value after this one is an operand.
      refine .operand hshape htext.operand htext.ne_mark heffect ?_
      exact hrest.reads_options hmem.2 (fun c' hc' => hnames ▸ (hdiffer.1 c' hc').symm) none
    · refine .part (r.isPart hmem.1 hnames hc) (ih hmem.2 hdiffer.2 ?_)
      obtain ⟨c', hc', hnone⟩ := hoperand
      rcases List.mem_cons.1 hc' with rfl | hrest
      · exact absurd hnone hnames
      · exact ⟨c', hrest, hnone⟩

end Spells

/-- The values of a request are read in whatever order and form they are written. -/
theorem Request.parse_grammar {r : Request} {cs : List Choice} {words : List String}
    (hcs : cs.Perm r.choices) (hwords : Spells Short cs words) :
    r.grammar.parse Draft.initial words =
      .ok (r.choices.foldl Choice.apply Draft.initial, []) := by
  have hmem (c : Choice) (hc : c ∈ cs) : c ∈ r.choices := hcs.mem_iff.1 hc
  have hvalue := foldl_apply_of_perm hcs Draft.initial
  rw [← hvalue]
  by_cases hoperand : ∃ c ∈ cs, c.names = []
  · have hreads := hwords.reads_operand hmem (pairwise_of_perm hcs) hoperand
    exact Grammar.parse_of_reads r.isPlain hreads (.inl ⟨rfl, rfl⟩)
  · have hnames : ∀ c ∈ cs, c.names ≠ [] := fun c hc hnone => hoperand ⟨c, hc, hnone⟩
    have hreads := hwords.reads_options hmem hnames r.grammar.operand
    rcases operand_missing (fun c hc => hnames c (hcs.mem_iff.2 hc)) hvalue with hnone | hsome
    · exact Grammar.parse_of_reads r.isPlain hreads (.inl ⟨hnone, rfl⟩)
    · exact Grammar.parse_of_reads r.isPlain hreads (.inr hsome)

/-! ## The whole command line -/

theorem mainGrammar_isPlain : mainGrammar.IsPlain := by
  constructor <;> decide

/-- No argument stands for two options of the program. -/
theorem length_shortMatches_main {arg : String} {c : Char} {cs : List Char}
    (harg : arg.toList = '-' :: c :: cs) (hc : c ≠ '-') :
    (mainGrammar.shortMatches arg).length ≤ 1 := by
  have hseconds : mainGrammar.allNames.map (·.1.toList[1]?) =
      [some 'h', some '-', some 'v', some '-'] := by decide
  have hcount : mainGrammar.allNames.countP (·.1.toList[1]? = some c) =
      [some 'h', some '-', some 'v', some '-'].countP (· = some c) := by
    rw [← hseconds, List.countP_map]
    rfl
  refine (Grammar.length_shortMatches_le harg).trans ?_
  rw [hcount]
  by_cases hh : c = 'h'
  · subst hh
    decide
  · by_cases hv : c = 'v'
    · subst hv
      decide
    · simp [Ne.symm hh, Ne.symm hc, Ne.symm hv]

/-- An argument that starts with a dash but with no name of an option of the program is sorted. -/
theorem exists_unnamed_main {arg : String} (hdash : arg.startsWith "-" = true) (hlone : arg ≠ "-") :
    ∃ c, Grammar.classifyOne.unnamed mainGrammar arg = .ok c := by
  have hfew : (if arg.startsWith "--" then mainGrammar.longMatches arg
      else mainGrammar.shortMatches arg).length ≤ 1 := by
    -- Long names are not shortened here, so only a short name could stand for two options.
    by_cases hlong : arg.startsWith "--" = true
    · rw [if_pos hlong]
      exact Nat.zero_le 1
    · rw [if_neg hlong]
      obtain ⟨rest, hrest⟩ := String.startsWith_string_iff.1 hdash
      cases rest with
      | nil => exact absurd (String.toList_inj.1 hrest.symm) hlone
      | cons c cs =>
        refine length_shortMatches_main hrest.symm fun hc => hlong ?_
        rw [String.startsWith_string_iff, ← hrest, hc]
        exact ⟨cs, rfl⟩
  unfold Grammar.classifyOne.unnamed
  split
  · exact ⟨_, rfl⟩
  · split <;> exact ⟨_, rfl⟩
  · next several hone hnone =>
    rcases hmatches : (if arg.startsWith "--" then mainGrammar.longMatches arg
      else mainGrammar.shortMatches arg) with _ | ⟨⟨name, written⟩, _ | ⟨entry, entries⟩⟩
    · exact (hnone hmatches).elim
    · exact (hone _ _ hmatches).elim
    · rw [hmatches] at hfew
      simp at hfew

/-- Every argument is an option or an operand of the program. -/
theorem exists_classifyOne_main (arg : String) : ∃ c, mainGrammar.classifyOne arg = .ok c := by
  unfold Grammar.classifyOne
  split
  · exact ⟨_, rfl⟩
  · next hdash =>
    have hdash : arg.startsWith "-" = true := by simpa using hdash
    split
    · exact ⟨_, rfl⟩
    · split
      · exact ⟨_, rfl⟩
      · next hlone =>
        have hunnamed := exists_unnamed_main hdash hlone
        split
        · split
          · exact ⟨_, rfl⟩
          · exact hunnamed
        · exact hunnamed

theorem readCommand_cons {name : String} {spec : CommandSpec}
    (hfind : commands.find? (·.name == name) = some spec) (rest : List String) (x : Reading) :
    readCommand (name :: rest) x = (spec.grammar.parse Draft.initial rest).map fun p =>
      ⟨{ x.arguments with command := some (spec.command p.1, p.1.device) }, p.2⟩ := by
  rw [readCommand]
  dsimp only [List.head?_cons, Option.getD_some, List.tail_cons]
  rw [hfind]
  dsimp only [bind, Except.bind, pure, Except.pure]
  cases spec.grammar.parse Draft.initial rest <;> rfl

/-- The command is read with its arguments. -/
theorem Request.readCommand_written {r : Request} {cs : List Choice} {rest : List String}
    (hcs : cs.Perm r.choices) (hrest : Spells Short cs rest) (x : Reading) :
    readCommand (r.name :: rest) x =
      .ok ⟨{ x.arguments with command := some r.command }, []⟩ := by
  obtain ⟨spec, hfind, hgrammar, hcommand⟩ := r.exists_spec
  rw [readCommand_cons hfind, hgrammar, parse_grammar hcs hrest, ← hcommand _ rfl]
  rfl

/-- What is known when a request was read after `n` words that ask for more detail. -/
def Request.reading (r : Request) (n : Nat) (x : Reading) : Reading :=
  ⟨⟨x.arguments.verbosity + n, some r.command⟩, []⟩

/-- The words that ask for more detail are counted, and all others belong to the command. -/
theorem reads_main {r : Request} {cs : List Choice} {rest : List String}
    (hcs : cs.Perm r.choices) (hrest : Spells Short cs rest) {leading : List String}
    (hleading : ∀ word ∈ leading, word ∈ ["-v", "--verbose"]) :
    mainGrammar.Reads mainGrammar.operand (leading ++ r.name :: rest) (r.reading leading.length)
      none := by
  induction leading with
  | nil =>
    obtain ⟨items, hitems⟩ := Grammar.exists_classify exists_classifyOne_main rest
    have hname : ¬ "-".toList <+: r.name.toList ∧ r.name ≠ "--" := by
      cases r <;> dsimp only [Request.name] <;> decide
    exact .command rfl (Grammar.classifyOne_of_no_dash hname.1) hname.2 hitems
      (Request.readCommand_written hcs hrest)
  | cons word leading ih =>
    rw [List.forall_mem_cons] at hleading
    have hword : mainGrammar.IsPart [word] fun x =>
        { x with arguments := { x.arguments with verbosity := x.arguments.verbosity + 1 } } := by
      rcases List.mem_pair.1 hleading.1 with rfl | rfl
      · exact .switch (by decide) rfl
      · exact .switch (by decide) rfl
    have hcount : r.reading (word :: leading).length = r.reading leading.length ∘ fun x =>
        { x with arguments := { x.arguments with verbosity := x.arguments.verbosity + 1 } } := by
      funext x
      simp only [Request.reading, List.length_cons, Function.comp_apply, Nat.add_comm,
        Nat.add_left_comm]
    rw [hcount, ← List.singleton_append, List.append_assoc]
    exact .part hword (ih hleading.2)

/-- **Reading a request.** However a request is written, after any number of words that ask for more
detail, the command line is read as the number of these words and what the request asks for. -/
theorem parse_written {r : Request} {leading words : List String}
    (hleading : ∀ word ∈ leading, word ∈ ["-v", "--verbose"]) (h : r.Written Short words) :
    Arguments.parse (leading ++ words) = .ok ⟨leading.length, some r.command⟩ := by
  obtain ⟨cs, rest, hcs, hrest, rfl⟩ := h
  have hparse : mainGrammar.parse ⟨⟨0, none⟩, []⟩ (leading ++ r.name :: rest) =
      .ok (r.reading leading.length ⟨⟨0, none⟩, []⟩, []) :=
    Grammar.parse_of_reads mainGrammar_isPlain (reads_main hcs hrest hleading) (.inl ⟨rfl, rfl⟩)
  rw [Request.reading, Nat.zero_add] at hparse
  rw [Arguments.parse, hparse]
  rfl

theorem no_dash_image : "out.hex".toList.head? ≠ some '-' := by
  decide

theorem no_dash_artifact : "a.bin".toList.head? ≠ some '-' := by
  decide

/-- A request to make an image below address zero. -/
def lowRequest : Request :=
  .makeImage ⟨none, some 0x40000, none, some (-4096)⟩ (some ⟨"out.hex", no_dash_image⟩)
    (some ⟨"a.bin", no_dash_artifact⟩) true none false false

/-- A command line for it. -/
def lowWords : List String :=
  ["mkimg", "--base-address", "-4096", "--flash-size=0x40000", "out.hex", "-a", "a.bin", "--build"]

theorem parse_written_low :
    (∀ word ∈ ["-v"], word ∈ ["-v", "--verbose"]) ∧ lowRequest.Written Short lowWords ∧
      Arguments.parse (["-v"] ++ lowWords) = .ok ⟨1, some lowRequest.command⟩ := by
  have hleading : ∀ word ∈ ["-v"], word ∈ ["-v", "--verbose"] := by decide
  have hbase : Short (-4096) := by
    rw [Short]
    decide +kernel
  have hwritten : lowRequest.Written Short lowWords := by
    refine ⟨_, _, .swap _ _ _, ?_, rfl⟩
    show Spells Short _ (["--base-address", "-4096"] ++ (["--flash-size=0x40000"] ++
      (["out.hex"] ++ (["-a", "a.bin"] ++ (["--build"] ++ [])))))
    refine .cons ⟨_, .head _, "-4096", .inl ⟨hbase, by decide +kernel⟩, .inl rfl⟩
      (.cons ⟨_, .head _, "0x40000", .inr ⟨by decide, by decide +kernel⟩, .inr ⟨?_, rfl⟩⟩
      (.cons rfl (.cons ⟨_, .head _, _, rfl, .inl rfl⟩ (.cons ⟨_, .head _, rfl⟩ .nil))))
    exact String.startsWith_string_iff.2 (by decide)
  exact ⟨hleading, hwritten, parse_written hleading hwritten⟩

/-! ## Numbers that are too long -/

theorem numberOption_refused {text : String} {read? : String → Option Int} (h : read? text = none)
    (kind : String) (store : Option Int → Draft → Draft) :
    ∃ effect, Draft.numberOption kind read? store = .valued effect ∧
      ∀ d, effect (some text) d = .error ("invalid " ++ kind ++ " value: " ++ Quoted.render text) :=
  ⟨_, rfl, fun d => by simp only [h]⟩

/-- How a size of the device that is no number is refused. -/
def invalidFlashSize (text : String) : Stop :=
  .usage "prepare_pflash.py check"
    ("argument --flash-size: " ++ ("invalid _int value: " ++ Quoted.render text))

/-- A decimal form that is too long is refused, although it is that of an integer. -/
theorem parse_overlong {n : Int} (h : ¬ Short n) (image : PathText) :
    Arguments.parse ["check", "--flash-size", Numeral.decimal n, image.text] =
      .error (invalidFlashSize (Numeral.decimal n)) := by
  have hread : IntegerLiteral.read? (Numeral.decimal n) = none := by
    rw [IntegerLiteral.read?_decimal, if_neg (show ¬ Numeral.isWritable n = true from h)]
  have hcheck : checkImageGrammar.parse Draft.initial
      ["--flash-size", Numeral.decimal n, image.text] =
        .error (invalidFlashSize (Numeral.decimal n)) := by
    obtain ⟨effect, heffect, hrefused⟩ := numberOption_refused hread "_int" fun n d =>
      { d with device := { d.device with flashSize := .ofOption n } }
    have hoption : checkImageGrammar.option? "--flash-size" =
        some ⟨["--flash-size"], .valued effect⟩ := by
      rw [← heffect]
      rfl
    have hplain : checkImageGrammar.IsPlain :=
      (Request.checkImage ⟨none, none, none, none⟩ image).isPlain
    have htext := isValueText_decimal hplain n
    have himage : IsValueText checkImageGrammar image.text := isValueText_path image
    rw [Grammar.parse_refused (by decide) hoption htext.operand htext.ne_mark (hrefused _)
      (Grammar.classify_cons himage.ne_mark himage.operand [])]
    rfl
  have hcommand (x : Reading) :
      readCommand ["check", "--flash-size", Numeral.decimal n, image.text] x =
        .error (invalidFlashSize (Numeral.decimal n)) := by
    have hfind : commands.find? (·.name == "check") =
      some ⟨"check", checkImageGrammar, fun d => .checkImage d.image⟩ := rfl
    rw [readCommand_cons hfind, hcheck]
    rfl
  obtain ⟨items, hitems⟩ := Grammar.exists_classify exists_classifyOne_main
    ["--flash-size", Numeral.decimal n, image.text]
  have hmain : mainGrammar.parse ⟨⟨0, none⟩, []⟩
      ["check", "--flash-size", Numeral.decimal n, image.text] =
        .error (invalidFlashSize (Numeral.decimal n)) :=
    Grammar.parse_command_refused rfl rfl (Grammar.classifyOne_of_no_dash (by decide)) (by decide)
      hitems (hcommand _)
  rw [Arguments.parse, hmain]
  rfl

theorem not_short {n : Nat} (h : Nat.pow 10 Numeral.maxDigits ≤ n) : ¬ Short (Int.ofNat n) :=
  fun hshort => Nat.not_lt.2 h (of_decide_eq_true hshort)

theorem no_dash_x : "x".toList.head? ≠ some '-' := by
  decide

/-- The least size whose decimal form is too long. -/
def overlongSize : Int :=
  Int.ofNat (Nat.pow 10 Numeral.maxDigits)

/-- A request to check an image for a device of that size. -/
def overlongRequest : Request :=
  .checkImage ⟨none, some overlongSize, none, none⟩ ⟨"x", no_dash_x⟩

/-- A command line for it with the size in base ten. -/
def overlongWords : List String :=
  ["check", "--flash-size", Numeral.decimal overlongSize, "x"]

/-- Not every integer can be given in base ten. -/
theorem parse_overlongWords :
    overlongRequest.Written (fun _ => True) overlongWords ∧
      Arguments.parse overlongWords ≠ .ok ⟨0, some overlongRequest.command⟩ := by
  have hsize : IsNumeral (fun _ => True) overlongSize (Numeral.decimal overlongSize) :=
    .inl ⟨trivial, rfl⟩
  have hspells : Spells (fun _ => True) [.flashSize overlongSize, .image ⟨"x", no_dash_x⟩]
      (["--flash-size", Numeral.decimal overlongSize] ++ (["x"] ++ [])) :=
    .cons ⟨_, .head _, _, hsize, .inl rfl⟩ (.cons rfl .nil)
  have hlong : ¬ Short overlongSize := not_short (Nat.le_refl _)
  refine ⟨⟨_, _, .refl _, hspells, rfl⟩, ?_⟩
  rw [overlongWords, parse_overlong hlong ⟨"x", no_dash_x⟩]
  intro heq
  cases heq

end NorFlash.CommandLine
