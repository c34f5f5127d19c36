import NorFlash.CommandLine.Arguments
import NorFlash.Proofs.CommandLine.Grammar
import NorFlash.Proofs.Path

/-!
# Paths on a command line

Each path that a command line names was read from a text, and the text is a part of the command line
(`Arguments.isReadFrom_of_parse`): it is so for the values that options have unless they are given,
and all that may stand on the command line keeps it. So these paths are proper, and a character that
does not stand on the command line stands in none of them.
-/

namespace NorFlash.CommandLine

variable {q : Char → Prop}

/-- A path was read from a text that is made of characters with a property. -/
def IsReadFrom (q : Char → Prop) (path : Path) : Prop :=
  ∃ text, MadeOf q text ∧ path = Path.ofString text

/-- The paths that a command line names for a command. -/
def Command.named : Command → List Path
  | .makeImage options => options.output.toList ++ options.artifact.toOption.toList
  | .showLayout _ _ => []
  | .checkImage image => [image]
  | .showTrials image _ _ => [image]

namespace Draft

variable {P : Draft → Prop}

theorem keeps_pathOption {f : Option Path → Draft → Draft}
    (h : ∀ path d, (∀ p ∈ path, IsReadFrom q p) → P d → P (f path d)) :
    (pathOption f).Keeps q P := by
  intro text d d' htext hd hP
  obtain rfl := Except.ok.inj hd
  refine h _ d (fun p hp => ?_) hP
  obtain ⟨value, hvalue, rfl⟩ := Option.map_eq_some_iff.1 hp
  exact ⟨value, htext value hvalue, rfl⟩

theorem keeps_numberOption {kind : String} {read? : String → Option Int}
    {f : Option Int → Draft → Draft} (h : ∀ n d, P d → P (f n d)) :
    (numberOption kind read? f).Keeps q P := by
  intro text d d' _ hd hP
  cases text with
  | none =>
    obtain rfl := Except.ok.inj hd
    exact h _ d hP
  | some text =>
    dsimp only at hd
    split at hd
    · obtain rfl := Except.ok.inj hd
      exact h _ d hP
    · simp at hd

/-- The paths that are named so far. -/
def named (d : Draft) : List Path :=
  d.make.output.toList ++ d.make.artifact.toOption.toList ++ [d.image]

/-- Each path that is named so far was read from a text. -/
def IsRead (q : Char → Prop) (d : Draft) : Prop :=
  ∀ path ∈ d.named, IsReadFrom q path

theorem isRead_initial : initial.IsRead q := by
  intro path hpath
  simp only [named, initial, Option.toList_none, OptionValue.toOption, List.append_nil,
    List.nil_append, List.mem_singleton] at hpath
  exact ⟨"", by simp [MadeOf], hpath⟩

theorem isRead_iff {d : Draft} :
    d.IsRead q ↔ (∀ path ∈ d.make.output, IsReadFrom q path) ∧
      (∀ path ∈ d.make.artifact.toOption, IsReadFrom q path) ∧ IsReadFrom q d.image := by
  simp only [IsRead, named, List.mem_append, Option.mem_toList, List.mem_singleton, Option.mem_def]
  constructor
  · intro h
    exact ⟨fun path hpath => h path (.inl (.inl hpath)),
      fun path hpath => h path (.inl (.inr hpath)), h _ (.inr rfl)⟩
  · rintro ⟨houtput, hartifact, himage⟩ path ((hpath | hpath) | rfl)
    · exact houtput path hpath
    · exact hartifact path hpath
    · exact himage

end Draft

/-- The output of a command is a path that was read from a text, if one is named. -/
def HasProperOutput (options : MakeOptions) : Prop :=
  ∀ path ∈ options.output, path.IsProper

/-! ## The grammars -/

theorem keeps_deviceOptions {P : Draft → Prop}
    (h : ∀ d device, P d → P { d with device := device }) :
    ∀ o ∈ deviceOptions, o.effect.Keeps q P := by
  intro o ho
  simp only [deviceOptions, List.mem_cons, List.not_mem_nil, or_false] at ho
  rcases ho with rfl | rfl | rfl | rfl
  · dsimp only
    apply Draft.keeps_pathOption
    exact fun _ d _ => h d _
  all_goals
    dsimp only [Draft.intOption]
    apply Draft.keeps_numberOption
    exact fun _ d => h d _

theorem isRead_imageOperand : imageOperand.Keeps q (Draft.IsRead q) := by
  intro words d d' hwords hd hread
  obtain rfl := Except.ok.inj hd
  obtain ⟨houtput, hartifact, -⟩ := Draft.isRead_iff.1 hread
  refine Draft.isRead_iff.2 ⟨houtput, hartifact, words.head?.getD "", ?_, rfl⟩
  cases hhead : words.head? with
  | none => simp [MadeOf]
  | some word => exact hwords word (List.mem_of_head? hhead)

theorem isRead_outputOperand : outputOperand.Keeps q (Draft.IsRead q) := by
  intro words d d' hwords hd hread
  obtain rfl := Except.ok.inj hd
  obtain ⟨-, hartifact, himage⟩ := Draft.isRead_iff.1 hread
  refine Draft.isRead_iff.2 ⟨fun path hpath => ?_, hartifact, himage⟩
  obtain ⟨word, hword, rfl⟩ := Option.map_eq_some_iff.1 hpath
  exact ⟨word, hwords word (List.mem_of_head? hword), rfl⟩

/-- The operand sets the output and an option the artifact, each from a text. -/
theorem keeps_makeImageGrammar : makeImageGrammar.Keeps q (Draft.IsRead q) where
  options := by
    intro o ho
    simp only [makeImageGrammar, List.cons_append, List.mem_cons, List.mem_append,
      List.not_mem_nil, or_false] at ho
    rcases ho with rfl | hdevice | rfl | rfl | rfl | rfl | rfl
    · trivial
    · exact keeps_deviceOptions (fun _ _ hd => hd) o hdevice
    · dsimp only
      apply Draft.keeps_pathOption
      intro path d hpath hd
      obtain ⟨houtput, -, himage⟩ := Draft.isRead_iff.1 hd
      refine Draft.isRead_iff.2 ⟨houtput, fun p hp => hpath p ?_, himage⟩
      cases path with
      | none => exact hp
      | some given => exact hp
    · exact fun _ hd => hd
    · dsimp only
      apply Draft.keeps_pathOption
      exact fun _ _ _ hd => hd
    · exact fun _ hd => hd
    · exact fun _ hd => hd
  operand := by
    intro o ho
    obtain rfl := Option.mem_some.1 ho
    exact isRead_outputOperand

theorem keeps_checkImageGrammar : checkImageGrammar.Keeps q (Draft.IsRead q) where
  options := by
    intro o ho
    simp only [checkImageGrammar, List.mem_cons] at ho
    rcases ho with rfl | hdevice
    · trivial
    · exact keeps_deviceOptions (fun _ _ hd => hd) o hdevice
  operand := by
    intro o ho
    obtain rfl := Option.mem_some.1 ho
    exact isRead_imageOperand

theorem keeps_showTrialsGrammar : showTrialsGrammar.Keeps q (Draft.IsRead q) where
  options := by
    intro o ho
    simp only [showTrialsGrammar, List.cons_append, List.mem_cons, List.mem_append,
      List.not_mem_nil, or_false] at ho
    rcases ho with rfl | hdevice | rfl | rfl
    · trivial
    · exact keeps_deviceOptions (fun _ _ hd => hd) o hdevice
    · dsimp only [Draft.decimalOption]
      apply Draft.keeps_numberOption
      exact fun _ _ hd => hd
    · exact fun _ hd => hd
  operand := by
    intro o ho
    obtain rfl := Option.mem_some.1 ho
    exact isRead_imageOperand

/-! ## The whole command line -/

/-- The paths of a command were read from texts, if the command line has come to one. -/
def Reading.IsRead (q : Char → Prop) (r : Reading) : Prop :=
  ∀ command device, r.arguments.command = some (command, device) →
    ∀ path ∈ command.named, IsReadFrom q path

theorem isRead_readCommand {words : List String} {r r' : Reading}
    (hwords : ∀ word ∈ words, MadeOf q word) (h : readCommand words r = .ok r') :
    r'.IsRead q := by
  rw [readCommand] at h
  dsimp only at h
  split at h
  · simp at h
  · next c hc =>
    obtain ⟨⟨draft, extras⟩, hparse, h⟩ := of_bind_eq_ok h
    obtain rfl := Except.ok.inj h
    intro command device hcommand
    obtain ⟨rfl, -⟩ := Prod.ext_iff.1 (Option.some.inj hcommand)
    have htail : ∀ word ∈ words.tail, MadeOf q word :=
      fun word hword => hwords word (List.mem_of_mem_tail hword)
    have hmem : c ∈ commands := List.mem_of_find?_eq_some hc
    simp only [commands, List.mem_cons, List.not_mem_nil, or_false] at hmem
    rcases hmem with rfl | rfl | rfl | rfl
    · have hread := keeps_makeImageGrammar.parse htail Draft.isRead_initial hparse
      exact fun path hpath => hread path (List.mem_append_left _ hpath)
    · simp [Command.named]
    · have hread := keeps_checkImageGrammar.parse htail Draft.isRead_initial hparse
      exact fun path hpath => hread path (List.mem_append_right _ hpath)
    · have hread := keeps_showTrialsGrammar.parse htail Draft.isRead_initial hparse
      exact fun path hpath => hread path (List.mem_append_right _ hpath)

theorem keeps_mainGrammar : mainGrammar.Keeps q (Reading.IsRead q) where
  options := by
    intro o ho
    simp only [mainGrammar, List.mem_cons, List.not_mem_nil, or_false] at ho
    rcases ho with rfl | rfl
    · trivial
    · exact fun _ hr => hr
  operand := by
    intro o ho words r r' hwords hr _
    obtain rfl := Option.mem_some.1 ho
    exact isRead_readCommand hwords hr

/-- **The paths that a command line names are read from it.** -/
theorem Arguments.isReadFrom_of_parse {words : List String} {verbosity : Nat} {command : Command}
    {device : DeviceOptions} (hwords : ∀ word ∈ words, MadeOf q word)
    (h : parse words = .ok ⟨verbosity, some (command, device)⟩) :
    ∀ path ∈ command.named, IsReadFrom q path := by
  obtain ⟨⟨r, extras⟩, hparse, h⟩ := of_bind_eq_ok h
  have hr := keeps_mainGrammar.parse hwords (by simp [Reading.IsRead]) hparse
  dsimp only at h
  split at h
  · have harguments : r.arguments = ⟨verbosity, some (command, device)⟩ := Except.ok.inj h
    exact hr command device (by rw [harguments])
  · simp at h

/-- The output that a command line names was read from a text. -/
theorem Arguments.hasProperOutput_of_parse {words : List String} {verbosity : Nat}
    {options : MakeOptions} {device : DeviceOptions}
    (h : parse words = .ok ⟨verbosity, some (.makeImage options, device)⟩) :
    HasProperOutput options := by
  intro path hpath
  have hany : ∀ word ∈ words, MadeOf (fun _ => True) word := fun _ _ _ _ => trivial
  obtain ⟨text, -, rfl⟩ := isReadFrom_of_parse hany h path
    (List.mem_append_left _ (Option.mem_toList.2 hpath))
  exact Path.isProper_ofString text

end NorFlash.CommandLine
