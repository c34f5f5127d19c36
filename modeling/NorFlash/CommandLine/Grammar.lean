import NorFlash.Text.Digit
import NorFlash.Text.Quoted

/-!
# Command line grammars

A `Grammar` lists the options of a command and the argument that may stand between them. Arguments
are first sorted into options and operands by `Grammar.classify`; `Grammar.parse` then takes them
from left to right and builds up a value, or ends with a `Stop`. Arguments that the grammar has no
place for are handed back.

Short options may be written together and with their value, long ones with an equals sign and, where
the grammar says so, shortened as far as they stay unique.
-/

namespace NorFlash.CommandLine

/-- Why the command line is not read to its end. -/
inductive Stop where
  /-- The help of a command was asked for; the text is given. -/
  | help (text : String)
  /-- The arguments are wrong for the program of the given name. -/
  | usage (program message : String)
  deriving DecidableEq, Repr

/-- What an option does to the value that is built up. -/
inductive Effect (σ : Type) where
  /-- It takes no value. -/
  | switch (f : σ → σ)
  /-- It takes a value, which may be refused with a message. There is none where the mark for operands
  stands in its place. -/
  | valued (f : Option String → σ → Except String σ)
  /-- It asks for help. -/
  | help (text : String)

/-- An option. -/
structure OptionSpec (σ : Type) where
  /-- The ways to write it. -/
  names : List String
  /-- What it does. -/
  effect : Effect σ

namespace OptionSpec

/-- How messages name an option. -/
def label (o : OptionSpec σ) : String :=
  "/".intercalate o.names

/-- Whether the option takes a value. -/
def takesValue (o : OptionSpec σ) : Bool :=
  match o.effect with
  | .valued _ => true
  | _ => false

end OptionSpec

/-- How many arguments an operand takes. -/
inductive Shape where
  /-- One. -/
  | one
  /-- One or none. -/
  | optional
  /-- One and all that follow, options among them. -/
  | command
  deriving DecidableEq, Repr

/-- An operand: the arguments that are no options. -/
structure OperandSpec (σ : Type) where
  /-- How messages name it. -/
  label : String
  /-- How many arguments it takes. -/
  shape : Shape
  /-- What the arguments do. -/
  effect : List String → σ → Except Stop σ

/-- What may stand on a command line. -/
structure Grammar (σ : Type) where
  /-- The name of the program, with the command. -/
  program : String
  /-- Whether long options may be shortened. -/
  abbreviations : Bool
  /-- The options. -/
  options : List (OptionSpec σ)
  /-- The operand, if there is one. -/
  operand : Option (OperandSpec σ)

/-! ## Sorting arguments -/

/-- An option as it is written in an argument. -/
structure Written (σ : Type) where
  /-- The option, if there is one of that name. -/
  option : Option (OptionSpec σ)
  /-- Whether the name has two dashes. -/
  long : Bool
  /-- The value in the same argument. -/
  value : Option String

/-- What an argument is. -/
inductive Class (σ : Type) where
  /-- An operand. -/
  | operand
  /-- The mark after which all arguments are operands. -/
  | mark
  /-- An option. -/
  | option (written : Written σ)

namespace Grammar

/-- The option of a name. -/
def option? (g : Grammar σ) (name : String) : Option (OptionSpec σ) :=
  g.options.find? fun o => o.names.contains name

/-- All names of options, each with its option. -/
def allNames (g : Grammar σ) : List (String × OptionSpec σ) :=
  g.options.flatMap fun o => o.names.map (·, o)

/-- A text divided at the first equals sign. -/
def divide (text : String) : String × Option String :=
  match text.toList.span (· ≠ '=') with
  | (name, _ :: value) => (String.ofList name, some (String.ofList value))
  | (name, []) => (String.ofList name, none)

/-- Whether a text is a dash and a decimal number. -/
def isNegativeNumber (text : String) : Bool :=
  match text.toList with
  | '-' :: rest =>
    let rest := if rest.getLast? = some '\n' then rest.dropLast else rest
    let isDigit : Char → Bool := fun c => (Digit.value? c).isSome
    match rest.span (· ≠ '.') with
    | (whole, []) => whole ≠ [] && whole.all isDigit
    | (whole, _ :: fraction) => whole.all isDigit && fraction ≠ [] && fraction.all isDigit
  | _ => false

/-- The options that an argument with two dashes may be short for. -/
def longMatches (g : Grammar σ) (arg : String) : List (String × Written σ) :=
  if g.abbreviations then
    let (name, value) := divide arg
    (g.allNames.filter fun entry => name.toList.isPrefixOf entry.1.toList).map fun entry =>
      (entry.1, ⟨some entry.2, true, value⟩)
  else []

/-- The options that an argument with one dash may stand for: one whose value follows its letter, or
one whose name goes on. -/
def shortMatches (g : Grammar σ) (arg : String) : List (String × Written σ) :=
  let letter := String.ofList (arg.toList.take 2)
  let value := String.ofList (arg.toList.drop 2)
  g.allNames.filterMap fun entry =>
    if entry.1 = letter then some (entry.1, ⟨some entry.2, false, some value⟩)
    else if arg.toList.isPrefixOf entry.1.toList then
      some (entry.1, ⟨some entry.2, entry.1.startsWith "--", none⟩)
    else none

/-- Sort one argument. -/
def classifyOne (g : Grammar σ) (arg : String) : Except Stop (Class σ) :=
  if ! arg.startsWith "-" then .ok .operand
  else
    match g.option? arg with
    | some o => .ok (.option ⟨some o, arg.startsWith "--", none⟩)
    | none =>
      if arg = "-" then .ok .operand
      else
        match divide arg with
        | (name, some value) =>
          match g.option? name with
          | some o => .ok (.option ⟨some o, name.startsWith "--", some value⟩)
          | none => unnamed g arg
        | _ => unnamed g arg
where
  /-- Sort an argument that starts with a dash and no name of an option. -/
  unnamed (g : Grammar σ) (arg : String) : Except Stop (Class σ) :=
    match if arg.startsWith "--" then g.longMatches arg else g.shortMatches arg with
    | [(_, written)] => .ok (.option written)
    | [] =>
      if isNegativeNumber arg || arg.toList.contains ' ' then .ok .operand
      else .ok (.option ⟨none, false, none⟩)
    | several =>
      .error (.usage g.program ("ambiguous option: " ++ arg ++ " could match "
        ++ ", ".intercalate (several.map (·.1))))

/-- Sort the arguments. -/
def classify (g : Grammar σ) : List String → Except Stop (List (String × Class σ))
  | [] => .ok []
  | "--" :: rest => .ok (("--", .mark) :: rest.map (·, .operand))
  | arg :: rest => do
    let c ← g.classifyOne arg
    let cs ← classify g rest
    return (arg, c) :: cs

/-! ## Operands -/

/-- Whether an argument is an option. -/
def isOption : String × Class σ → Bool
  | (_, .option _) => true
  | _ => false

/-- Whether an argument is the mark. -/
def isMark : String × Class σ → Bool
  | (_, .mark) => true
  | _ => false

/-- The number of marks at the start. -/
def leadingMarks (items : List (String × Class σ)) : Nat :=
  (items.takeWhile isMark).length

/-- The number of arguments at the start that an operand takes. -/
def operandLength (shape : Shape) (items : List (String × Class σ)) : Option Nat :=
  let marks := leadingMarks items
  match shape, items.drop marks with
  | .command, (_, .operand) :: _ => some items.length
  | .one, (_, .operand) :: rest => some (marks + 1 + leadingMarks rest)
  | .optional, (_, .operand) :: rest => some (marks + 1 + leadingMarks rest)
  | .optional, _ => some marks
  | _, _ => none

/-- Arguments without the first mark among them. -/
def withoutMark (shape : Shape) (args : List String) : List String :=
  if shape = .command then args else args.erase "--"

/-- What is known while the arguments are taken. -/
structure Progress (σ : Type) where
  /-- The value built up. -/
  value : σ
  /-- The operand, as long as it is not taken. -/
  operand : Option (OperandSpec σ)
  /-- The arguments that have no place. -/
  extras : List String

/-- Take the operand from the start of the arguments; the answer tells how many it took. -/
def takeOperand (p : Progress σ) (items : List (String × Class σ)) :
    Except Stop (Nat × Progress σ) :=
  match p.operand with
  | none => .ok (0, p)
  | some o =>
    match operandLength o.shape items with
    | none => .ok (0, p)
    | some n => do
      let value ← o.effect (withoutMark o.shape ((items.take n).map (·.1))) p.value
      return (n, { p with value, operand := none })

/-! ## Options -/

/-- A usage error about an option. -/
def optionError (g : Grammar σ) (o : OptionSpec σ) (message : String) : Stop :=
  .usage g.program ("argument " ++ o.label ++ ": " ++ message)

/-- The error of a value for an option that takes none. -/
def ignoredValue (g : Grammar σ) (o : OptionSpec σ) (value : String) : Stop :=
  g.optionError o ("ignored explicit argument " ++ Quoted.render value)

/-- The options in one argument, in order, each with its value. -/
structure Bundle (σ : Type) where
  /-- The options and their values. -/
  options : List (OptionSpec σ × Option String)
  /-- Whether the value of the last option is the argument that follows. -/
  takesNext : Bool

/-- A bundle with an option without a value in front. -/
def Bundle.cons (o : OptionSpec σ) (b : Bundle σ) : Bundle σ :=
  { b with options := (o, none) :: b.options }

/-- Divide an argument into the options written together; the option `o` comes first, and what
follows it in the argument is given, if anything does. Behind an option that takes no value the
letters of further options may stand, up to one that takes the rest as its value. -/
def bundle (g : Grammar σ) (o : OptionSpec σ) (long : Bool) :
    Option (List Char) → Except Stop (Bundle σ)
  | none => .ok ⟨[(o, none)], o.takesValue⟩
  | some [] =>
    if o.takesValue then .ok ⟨[(o, some "")], false⟩ else .error (g.ignoredValue o "")
  | some (c :: cs) =>
    if o.takesValue then .ok ⟨[(o, some (String.ofList (c :: cs)))], false⟩
    else
      match if long then none else g.option? (String.ofList ['-', c]), cs with
      | none, _ => .error (g.ignoredValue o (String.ofList (c :: cs)))
      | some next, [] => (bundle g next false none).map (Bundle.cons o)
      | some next, d :: ds => (bundle g next false (some (d :: ds))).map (Bundle.cons o)
termination_by value => (value.map List.length).getD 0

/-- Let an option take effect. -/
def applyOption (g : Grammar σ) (o : OptionSpec σ) (value : Option String) (s : σ) :
    Except Stop σ :=
  match o.effect, value with
  | .help text, _ => .error (.help text)
  | .switch f, _ => .ok (f s)
  | .valued f, some text =>
    match f (if text = "--" then none else some text) s with
    | .ok s => .ok s
    | .error message => .error (g.optionError o message)
  | .valued _, none => .error (g.optionError o "expected one argument")

/-- Let options take effect in turn. -/
def applyAll (g : Grammar σ) : List (OptionSpec σ × Option String) → σ → Except Stop σ
  | [], s => .ok s
  | (o, value) :: rest, s => do applyAll g rest (← g.applyOption o value s)

/-- Take an option, and the value after it, from the start of the arguments. The answer tells
whether a value was taken. -/
def takeOption (g : Grammar σ) (p : Progress σ) (arg : String) (written : Written σ)
    (rest : List (String × Class σ)) : Except Stop (Bool × Progress σ) :=
  match written.option with
  | none => .ok (false, { p with extras := p.extras ++ [arg] })
  | some o => do
    let b ← g.bundle o written.long (written.value.map String.toList)
    if b.takesNext then
      match rest with
      | (value, .operand) :: _ =>
        let options := b.options.dropLast ++ (b.options.getLast?.map fun e => (e.1, some value)).toList
        let s ← g.applyAll options p.value
        return (true, { p with value := s })
      | _ => do
        let last := (b.options.getLast?.map (·.1)).getD o
        .error (g.optionError last "expected one argument")
    else
      let s ← g.applyAll b.options p.value
      return (false, { p with value := s })

/-! ## All arguments -/

/-- Take arguments from left to right; `fuel` bounds their number. -/
def consume (g : Grammar σ) : Nat → Progress σ → List (String × Class σ) →
    Except Stop (Progress σ)
  | 0, p, _ => .ok p
  | fuel + 1, p, items =>
    if items.any isOption then
      match items with
      | (arg, .option written) :: rest => do
        let (taken, p) ← g.takeOption p arg written rest
        consume g fuel p (if taken then rest.tail else rest)
      | _ => do
        let (n, p) ← takeOperand p items
        if 0 < n then consume g fuel p (items.drop n)
        else
          let before := items.takeWhile (!isOption ·)
          consume g fuel { p with extras := p.extras ++ before.map (·.1) } (items.dropWhile (!isOption ·))
    else do
      let (n, p) ← takeOperand p items
      return { p with extras := p.extras ++ (items.drop n).map (·.1) }

/-- Read a command line, starting from a value. The answer is the value built up and the arguments
that have no place. -/
def parse (g : Grammar σ) (start : σ) (args : List String) : Except Stop (σ × List String) := do
  let items ← g.classify args
  let p ← g.consume (2 * items.length + 1) ⟨start, g.operand, []⟩ items
  match p.operand with
  | some o =>
    if o.shape = .one then
      .error (.usage g.program ("the following arguments are required: " ++ o.label))
    else .ok (p.value, p.extras)
  | none => .ok (p.value, p.extras)

end Grammar

end NorFlash.CommandLine
