import NorFlash.Shell.Expansion
import NorFlash.Shell.Getopts
import NorFlash.Shell.Script
import NorFlash.Shell.Tool.Mode
import NorFlash.Shell.Tool.Test

/-!
# Commands of the shell itself

The commands that a shell carries out by itself because they change it: its variables, options and
arguments, where it works and when it ends. `Builtin.named?` finds one by its name.
-/

namespace NorFlash.Shell

/-- A command of the shell itself: arguments give a status. -/
abbrev Builtin := List String → Run Nat

namespace Builtin

/-! ## Options -/

/-- The letters that name options. -/
def optionLetters : List Char :=
  "efIimnsxvVECabup".toList

/-- The options by their names. -/
def optionNames : List (String × Char) :=
  [("errexit", 'e'), ("noglob", 'f'), ("ignoreeof", 'I'), ("interactive", 'i'), ("monitor", 'm'),
    ("noexec", 'n'), ("stdin", 's'), ("xtrace", 'x'), ("verbose", 'v'), ("vi", 'V'), ("emacs", 'E'),
    ("noclobber", 'C'), ("allexport", 'a'), ("notify", 'b'), ("nounset", 'u'), ("privileged", 'p'),
    ("nolog", '-'), ("debug", '-')]

/-- Options with one more or without one. -/
def setOption (options : List Char) (on : Bool) (letter : Char) : List Char :=
  let others := options.filter (· ≠ letter)
  if on ∧ letter ≠ '-' then letter :: others else others

/-- What the words in front of the arguments of a shell say. -/
structure Invocation where
  /-- The options that are set. -/
  options : List Char
  /-- Whether the first argument is a script. -/
  script : Bool
  /-- Whether the words ended with a mark. -/
  marked : Bool
  /-- What follows. -/
  rest : List String

/-- Read the letters of one word; some of them take the next word. The letter `c` stands for a
script where a shell is started. -/
def readLetters (starting on : Bool) : List Char → Invocation → Option Invocation
  | [], i => some i
  | letter :: letters, i =>
    if letter = 'c' ∧ starting then readLetters starting on letters { i with script := true }
    else if letter = 'l' ∧ starting then readLetters starting on letters i
    else if letter = 'o' then
      match i.rest with
      | [] => readLetters starting on letters i
      | name :: rest => do
        let option ← optionNames.lookup name
        readLetters starting on letters
          { i with options := setOption i.options on option, rest := rest }
    else if optionLetters.contains letter then
      readLetters starting on letters { i with options := setOption i.options on letter }
    else none

/-- Read the words in front of the arguments; none if one of them is no option. -/
def readOptions (starting : Bool) : Nat → Invocation → Option Invocation
  | 0, i => some i
  | fuel + 1, i =>
    match i.rest with
    | [] => some i
    | word :: rest =>
      match word.toList with
      | ['-', '-'] => some { i with marked := true, rest := rest }
      | ['-'] =>
        let options := if starting then i.options
          else setOption (setOption i.options false 'x') false 'v'
        some { i with options := options, rest := rest }
      | '-' :: letters => do
        readOptions starting fuel (← readLetters starting true letters { i with rest := rest })
      | '+' :: letters => do
        readOptions starting fuel (← readLetters starting false letters { i with rest := rest })
      | _ => some i

/-- Set options, and the arguments if there are any. -/
def set : Builtin := fun args => do
  let p ← get
  match readOptions false (args.length + 1) ⟨p.options, false, false, args⟩ with
  | none => Run.fault
  | some i =>
    let arguments := if i.rest ≠ [] ∨ i.marked then i.rest else p.arguments
    MonadState.set { p with options := i.options, arguments := arguments }
    return 0

/-! ## Variables -/

/-- The name and the value of a word that may assign. -/
def splitAssignment (word : String) : String × Option String :=
  match word.toList.span (· ≠ '=') with
  | (name, _ :: value) => (String.ofList name, some (String.ofList value))
  | (name, []) => (String.ofList name, none)

/-- Go through the names of some words, which are a fault if they are none. A variable is given the
value of its word, if there is one, before the step. -/
def forNames (words : List String) (step : String → Process → Process) : Run Nat := do
  words.forM fun word => do
    let (name, value) := splitAssignment word
    if !Script.isName name.toList then Run.fault
    value.forM (Run.assign name)
    modify (step name)
  return 0

/-- Let programs have variables. -/
def exportNames : Builtin := fun args =>
  forNames (args.filter (· ≠ "-p")) fun name p => { p with exported := name :: p.exported }

/-- Let variables keep their values. -/
def readonly : Builtin := fun args =>
  forNames (args.filter (· ≠ "-p")) fun name p => { p with constants := name :: p.constants }

/-- Let variables belong to the function that is running, without which that is a fault. -/
def makeLocal : Builtin := fun args => do
  if (← get).localNames.isNone then Run.fault
  forNames args fun name p => { p with localNames := p.localNames.map (name :: ·) }

/-- Take variables or functions away. -/
def unset : Builtin := fun args => do
  let isFunction := args.head? = some "-f"
  let names := if isFunction ∨ args.head? = some "-v" then args.tail else args
  names.forM fun name => do
    if !Script.isName name.toList then Run.fault
    if !isFunction ∧ (← get).constants.contains name then Run.fault
    modify fun p =>
      if isFunction then { p with functions := p.functions.filter (·.1 != name) }
      else p.unassign name
  return 0

/-- The line at the start of the input and what follows it; the flag tells whether the line ends. -/
def inputLine (raw : Bool) : List Char → List Glyph × List Char × Bool
  | [] => ([], [], false)
  | '\n' :: cs => ([], cs, true)
  | c :: cs =>
    if c = '\\' ∧ raw = false then
      match cs with
      | [] => ([], [], false)
      | d :: rest =>
        let (line, after, ended) := inputLine raw rest
        (if d = '\n' then line else ⟨d, true⟩ :: line, after, ended)
    else
      let (line, after, ended) := inputLine raw cs
      (⟨c, false⟩ :: line, after, ended)

/-- The values that variables get from a line: a word each, and the last one all that is left. -/
def lineValues (separators : List Char) : Nat → List Glyph → List String
  | 0, _ => []
  | count + 1, line =>
    let isSeparator (g : Glyph) : Bool := !g.quoted && separators.contains g.char
    let isSpace (g : Glyph) : Bool := isSeparator g && Fields.isBlank g.char
    let line := line.dropWhile isSpace
    if count = 0 then [Glyph.text (line.reverse.dropWhile isSpace).reverse]
    else
      let (word, rest) := line.span (!isSeparator ·)
      let rest := rest.dropWhile isSpace
      let rest := if rest.head?.any fun g => isSeparator g && !Fields.isBlank g.char then rest.tail
        else rest
      Glyph.text word :: lineValues separators count rest

/-- The names behind the options of `read`, and whether one of these takes the meaning of
backslashes. -/
def readNames : List String → Bool × List String
  | "-r" :: rest => (true, (readNames rest).2)
  | "-p" :: _ :: rest => readNames rest
  | "--" :: rest => (false, rest)
  | names => (false, names)

/-- Read a line of the input into variables. -/
def read : Builtin := fun args => do
  let (raw, names) := readNames args
  if names = [] then return Run.faultStatus
  let p ← get
  let (line, after, ended) := inputLine raw (Utf8.read p.input).chars
  let values := lineValues (Expansion.separators p) names.length line
  MonadState.set { p with input := (String.ofList after).toUTF8 }
  (names.zip values).forM fun v => Run.assign v.1 v.2
  return if ended then 0 else 1

/-- Read the next option of the arguments into a variable. -/
def getopts : Builtin := fun args => do
  match args with
  | known :: name :: words =>
    let p ← get
    let step := OptionStep.next known.toList (if words = [] then p.arguments else words)
      p.optionIndex p.optionOffset
    if !step.isEnd then
      match step.value with
      | some value => Run.assign "OPTARG" value
      | none => modify (·.unassign "OPTARG")
    Run.assign "OPTIND" (toString step.index)
    Run.assign name (String.singleton step.letter)
    modify fun p => { p with optionOffset := step.offset }
    return if step.isEnd then 1 else 0
  | _ => return Run.faultStatus

/-! ## Arguments and places -/

/-- The number that an argument stands for, which is not negative and has 31 bits. -/
def number? (text : String) : Option Nat :=
  match Tool.integer? text with
  | some (.ofNat n) => if n < 0x80000000 then some n else none
  | _ => none

/-- Drop arguments. -/
def shift : Builtin := fun args => do
  let p ← get
  match number? (args.head?.getD "1") with
  | some n =>
    if p.arguments.length < n then Run.fault
    MonadState.set { p with arguments := p.arguments.drop n }
    return 0
  | none => Run.fault

/-- Change the working directory. -/
def changeDirectory : Builtin := fun args => do
  let p ← get
  let operands := args.filter fun arg => arg ≠ "-L" ∧ arg ≠ "-P" ∧ arg ≠ "--"
  let path := match operands with
    | [] => (p.valueOf? "HOME").getD ""
    | "-" :: _ => (p.valueOf? "OLDPWD").getD ""
    | path :: _ => path
  match p.tree.find p.directory true (if path = "" then "." else path) with
  | .ok loc =>
    match p.tree.get? loc with
    | some (.directory _) =>
      let old := (p.valueOf? "PWD").getD ""
      let p := (p.assign "OLDPWD" old).assign "PWD" ("/" ++ "/".intercalate loc)
      MonadState.set { p with directory := loc }
      return 0
    | _ => return 2
  | .error _ => return 2

/-- Write the working directory. -/
def showDirectory : Builtin := fun _ => do
  modify fun p => p.write ("/" ++ "/".intercalate p.directory ++ "\n").toUTF8
  return 0

/-- Set the permission bits that new entries do not have. -/
def setMask : Builtin := fun args => do
  match args with
  | mask :: _ =>
    let digits := mask.toList
    if digits.all fun c => '0' ≤ c ∧ c ≤ '7' then
      modify fun p => { p with mask := digits.foldl (fun n c => n * 8 + (c.toNat - 48)) 0 % 0o1000 }
      return 0
    else
      let p ← get
      match Mode.bits? 0 true mask (0o777 - p.mask) with
      | some bits =>
        MonadState.set { p with mask := 0o777 - bits }
        return 0
      | none => return 2
  | [] =>
    modify fun p =>
      let digits := Numeral.zeroFill 4 (Nat.toDigits 8 p.mask)
      p.write (String.ofList digits ++ "\n").toUTF8
    return 0

/-! ## Signals -/

/-- The signals by their names. -/
def signals : List (String × Nat) :=
  [("EXIT", 0), ("HUP", 1), ("INT", 2), ("QUIT", 3), ("ILL", 4), ("TRAP", 5), ("ABRT", 6), ("BUS", 7),
    ("FPE", 8), ("KILL", 9), ("USR1", 10), ("SEGV", 11), ("USR2", 12), ("PIPE", 13), ("ALRM", 14),
    ("TERM", 15), ("STKFLT", 16), ("CHLD", 17), ("CONT", 18), ("STOP", 19), ("TSTP", 20),
    ("TTIN", 21), ("TTOU", 22), ("URG", 23), ("XCPU", 24), ("XFSZ", 25), ("VTALRM", 26),
    ("PROF", 27), ("WINCH", 28), ("IO", 29), ("PWR", 30), ("SYS", 31)]

/-- The signals that nothing follows from unless it is asked for. -/
def ignoredSignals : List Nat :=
  [17, 18, 23, 28]

/-- The number of a signal. -/
def signalNumber? (name : String) : Option Nat :=
  let bare := if name.startsWith "SIG" then (name.drop 3).toString else name
  (signals.lookup bare).or (name.toNat?.filter (· ≤ 64))

/-- The signal and the processes that the arguments of `kill` name. -/
def killArguments? : List String → Option (Nat × List String)
  | "-s" :: signal :: rest => (signalNumber? signal).bind (targets · rest)
  | "--" :: rest => targets 15 rest
  | option :: rest =>
    if option.startsWith "-" then
      (signalNumber? (option.drop 1).toString).bind
        (targets · (if rest.head? = some "--" then rest.tail else rest))
    else targets 15 (option :: rest)
  | [] => none
where
  /-- A signal with the processes for it, if there are any and all of them have numbers. -/
  targets (signal : Nat) (processes : List String) : Option (Nat × List String) :=
    if processes ≠ [] ∧ processes.all fun process => process.toNat?.isSome then
      some (signal, processes)
    else none

/-- Say what is done for signals. -/
def trap : Builtin := fun args => do
  let args := if args.head? = some "--" then args.tail else args
  match args with
  | [] => return 0
  | first :: rest =>
    let reset := first = "-" ∨ rest = [] ∨ first.toNat?.isSome
    let names := if first = "-" ∨ ¬reset then rest else args
    let known := names.map signalNumber?
    (known.takeWhile Option.isSome).forM fun n => modify fun p =>
      let others := p.traps.filter fun t => some t.1 ≠ n
      { p with traps := if reset then others else (n.getD 0, first) :: others }
    return if known.all Option.isSome then 0 else 1

/-- The name of the signal that a number stands for, or a status after its end. -/
def signalName? (n : Nat) : Option String :=
  (signals.find? fun s => s.2 ≠ 0 ∧ s.2 = if 128 < n then n - 128 else n).map (·.1)

/-- Wait for commands, of which those without a number are a fault. The status is that of the last
one. -/
def wait : Builtin := fun args => do
  let p ← get
  let statuses := args.map fun arg => (number? arg).map fun n => (p.jobs.lookup n).getD 127
  return (statuses.getLastD (some 0)).getD Run.faultStatus

/-- Take other names of commands away. There are none. -/
def unalias : Builtin := fun args =>
  return if args = ["-a"] then 0 else if args = [] then Run.faultStatus else 1

/-! ## Ends -/

/-- The status that an argument gives. -/
def statusOf (args : List String) : Run Nat := do
  match args with
  | [] => return (← get).status
  | arg :: _ =>
    match number? arg with
    | some n => return n
    | none => Run.fault

/-- End the shell. -/
def exit : Builtin := fun args => do
  throw (.leave (← statusOf args))

/-- End a function or a script. -/
def finish : Builtin := fun args => do
  throw (.returned (← statusOf args))

/-- End loops, or their rounds. Where there is no loop, nothing is done. -/
def skip (again : Bool) : Builtin := fun args => do
  let p ← get
  match number? (args.head?.getD "1") with
  | some (n + 1) =>
    if p.loops = 0 then return 0
    throw (.skipped (min (n + 1) p.loops) again)
  | _ => Run.fault

/-! ## The commands by name -/

/-- Do nothing. -/
def nothing : Builtin := fun _ => return 0

/-- The commands whose faults end the shell. -/
def special : List (String × Builtin) :=
  [(":", nothing), ("break", skip false), ("continue", skip true), ("exit", exit),
    ("export", exportNames), ("readonly", readonly), ("return", finish), ("set", set), ("shift", shift),
    ("times", nothing), ("trap", trap), ("unset", unset), ("local", makeLocal)]

/-- The other commands. -/
def regular : List (String × Builtin) :=
  [("cd", changeDirectory), ("pwd", showDirectory), ("read", read), ("umask", setMask),
    ("getopts", getopts), ("wait", wait), ("hash", nothing), ("alias", nothing),
    ("unalias", unalias), ("ulimit", nothing)]

/-- The names of all commands whose faults end the shell. -/
def isSpecial (name : String) : Bool :=
  (special.lookup name).isSome || [".", "eval", "exec"].contains name

/-- The command of a name. -/
def named? (name : String) : Option Builtin :=
  (special.lookup name).or (regular.lookup name)

end Builtin

end NorFlash.Shell
