import NorFlash.Shell.Process

/-!
# Tools and their options

A `Tool` is a program that does no more than look at files, change them or write text. Its arguments
are divided into `Options` and operands: letters behind a dash, some of which take a value, and words
behind two dashes that stand for letters.
-/

namespace NorFlash.Shell

/-- A program: a process and arguments give a status and a process. -/
abbrev Tool := Process → List String → Nat × Process

namespace Tool

/-- What the arguments of a program say. -/
structure Options where
  /-- The letters of the options. -/
  letters : List Char
  /-- The values of the letters that take one. -/
  values : List (Char × String)
  /-- The other arguments. -/
  operands : List String

namespace Options

/-- Whether a letter is given. -/
def has (o : Options) (letter : Char) : Bool :=
  o.letters.contains letter

/-- The value of a letter; the last one counts. -/
def value? (o : Options) (letter : Char) : Option String :=
  o.values.reverse.lookup letter

/-- The words for letters. -/
def longNames : List (String × Char) :=
  [("archive", 'a'), ("all", 'a'), ("backup", 'b'), ("bytes", 'c'), ("directory", 'd'), ("force", 'f'),
    ("interactive", 'i'), ("link", 'l'), ("lines", 'l'), ("lines", 'n'), ("no-clobber", 'n'),
    ("dereference", 'L'), ("no-dereference", 'P'), ("no-dereference", 'n'), ("parents", 'p'),
    ("preserve", 'p'), ("mode", 'm'), ("recursive", 'r'), ("recursive", 'R'), ("symbolic", 's'),
    ("symbolic-link", 's'), ("size", 's'), ("target-directory", 't'), ("no-target-directory", 'T'),
    ("update", 'u'), ("verbose", 'v'), ("quiet", 'q'), ("silent", 's')]

/-- Read the letters of a word. A letter that takes a value takes the rest of the word, or the next
word. -/
def readLetters (plain valued : List Char) (rest : List String) (o : Options) :
    List Char → Option (List String × Options)
  | [] => some (rest, o)
  | letter :: letters =>
    if plain.contains letter then
      readLetters plain valued rest { o with letters := letter :: o.letters } letters
    else if valued.contains letter then
      match letters, rest with
      | [], [] => none
      | [], value :: rest => some (rest, { o with values := o.values ++ [(letter, value)] })
      | _, _ => some (rest, { o with values := o.values ++ [(letter, String.ofList letters)] })
    else none

/-- Read a word behind two dashes. -/
def readLong (plain valued : List Char) (rest : List String) (o : Options) (word : List Char) :
    Option (List String × Options) :=
  let name := String.ofList (word.takeWhile (· ≠ '='))
  let given := (word.dropWhile (· ≠ '=')).tail
  let letters := (longNames.filter (·.1 = name)).map (·.2)
  match letters.find? valued.contains, letters.find? plain.contains with
  | some letter, _ =>
    if word.contains '=' then
      some (rest, { o with values := o.values ++ [(letter, String.ofList given)] })
    else readLetters plain valued rest o [letter]
  | none, some letter => some (rest, { o with letters := letter :: o.letters })
  | none, none => none

/-- Read arguments; none if one of them is no option. Options may follow operands, and after two
dashes all arguments are operands. -/
def read (plain valued : List Char) : Nat → List String → Options → Option Options
  | _, [], o => some o
  | 0, _, _ => none
  | fuel + 1, arg :: rest, o =>
    match arg.toList with
    | ['-', '-'] => some { o with operands := o.operands ++ rest }
    | '-' :: '-' :: word => do
      let (rest, o) ← readLong plain valued rest o word
      read plain valued fuel rest o
    | '-' :: c :: letters => do
      let (rest, o) ← readLetters plain valued rest o (c :: letters)
      read plain valued fuel rest o
    | _ => read plain valued fuel rest { o with operands := o.operands ++ [arg] }

end Options

/-- A tool whose arguments have such options. It does nothing but succeed where it is asked what it
does, and fails where an argument is no option. -/
def withOptions (plain valued : String) (f : Options → Process → Nat × Process) : Tool :=
  fun p args =>
    let first := args.find? fun arg => arg = "--help" ∨ arg = "--version" ∨ arg = "--"
    if first.any (· ≠ "--") then (0, p)
    else
      match Options.read plain.toList valued.toList args.length args ⟨[], [], []⟩ with
      | some o => f o p
      | none => (1, p)

/-- Run a step for each operand; the status is one if a step had another than zero. -/
def forEach (step : Process → String → Nat × Process) (p : Process) (operands : List String) :
    Nat × Process :=
  operands.foldl (fun (status, p) operand =>
    let (next, p) := step p operand
    (if next = 0 then status else 1, p)) (0, p)

/-- Run a step for each operand, of which there has to be one. -/
def forSome (step : Process → String → Nat × Process) (p : Process) (operands : List String) :
    Nat × Process :=
  if operands = [] then (1, p) else forEach step p operands

/-- The last name in the text of a path. -/
def baseName (path : String) : String :=
  ((FileTree.components path).filter (· ≠ ".")).getLast?.getD path

end Tool

end NorFlash.Shell
