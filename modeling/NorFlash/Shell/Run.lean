import NorFlash.Action
import NorFlash.Shell.Builtin
import NorFlash.Shell.Program

/-!
# Running scripts

`Shell.execute` runs a command of a script on a process, and `Shell.startProgram` runs a program with
arguments: the shell itself, which reads a script from an argument or a file, or one of the tools.
`Shell.programs` is how external programs behave where only these and the scripts of the tree are
there.
-/

namespace NorFlash.Shell

/-! ## How commands run and end -/

/-- How a process ended. -/
inductive Ended where
  /-- With a status. -/
  | status (n : Nat)
  /-- By a signal. -/
  | signal (n : Nat)
  deriving DecidableEq, Repr

namespace Ended

/-- The status that a shell sees of a process that ended. -/
def seen : Ended → Nat
  | status n => n
  | signal n => 128 + n

/-- The end of a shell that ran some work. -/
def of (body : Run Nat) : Run Ended :=
  tryCatch (status <$> body) fun
    | .leave n | .returned n => pure (status (n % 256))
    | .killed n => pure (signal n)
    | .skipped _ _ => return status (← get).status

end Ended

/-- Keep the status of a command. -/
def conclude (n : Nat) : Run Nat := do
  modify fun p => { p with status := n }
  return n

/-- Keep the status of a command, whose failure may end the shell. -/
def settle (tested strict : Bool) (n : Nat) : Run Nat := do
  let n ← conclude n
  if strict ∧ n ≠ 0 ∧ !tested then throw (.leave n)
  return n

/-- Whether a failure ends the shell. -/
def isStrict : Run Bool := do
  return (← get).options.contains 'e'

/-- Run a round of a loop at a level; none where the loop ends. -/
def round (level : Nat) (body : Run Nat) : Run (Option Nat) :=
  tryCatch (some <$> body) fun
    | .skipped n again => do
      modify fun p => { p with loops := level }
      if 1 < n then throw (.skipped (n - 1) again)
      return if again then some 0 else none
    | stop => throw stop

/-- Run work in a process of its own, which leaves files, a buffer and the rest of the input. -/
def inChild (start : Process → Process) (body : Run Ended) : Run Ended := do
  let p ← get
  set (start p)
  let ended ← body
  let child ← get
  set { p with tree := child.tree, buffer := child.buffer, input := child.input }
  return ended

/-- The status of a shell within the shell. A signal for the shell itself ends it. -/
def afterSubshell : Ended → Run Nat
  | .status n => return n
  | .signal n => throw (.killed n)

/-! ## Streams -/

/-- Redirect a stream, and answer whether that is possible. -/
def redirectOne (expand : Word → Run String) : Redirection → Run Bool
  | .output stream mode target => do
    let path ← expand target
    match (← get).openOutput mode path with
    | some (p, sink) =>
      set (p.setSink stream sink)
      return true
    | none => return false
  | .input stream source => do
    let path ← expand source
    match (← get).openInput path with
    | some content =>
      modify (·.setSource stream content)
      return true
    | none => return false
  | .both stream target => do
    let path ← expand target
    match (← get).openOutput .append path with
    | some (p, sink) =>
      set ((p.setSource stream ((p.openInput path).getD ByteArray.empty)).setSink stream sink)
      return true
    | none => return false
  | .document body => do
    let text ← expand body
    modify (·.setSource 0 text.toUTF8)
    return true
  | .duplicate stream other => do
    let text ← expand other
    let p ← get
    if text = "-" then
      set (p.closeStream stream)
      return true
    else
      match text.toNat? with
      | some 0 => return true
      | some n =>
        let source := p.sources.lookup n
        let sink := p.sinks.lookup n
        if source.isNone ∧ sink.isNone then return false
        if stream = 0 then
          set { p.setSource 0 (source.getD ByteArray.empty) with inputSource := n }
        else
          set (sink.elim p (p.setSink stream))
          source.forM fun content => modify (·.setSource stream content)
        return true
      | none => Run.fault

/-- Redirect streams, and answer whether that is possible. -/
def redirectAll (expand : Word → Run String) (streams : List Redirection) : Run Bool :=
  streams.allM (redirectOne expand)

/-- The stream that a redirection is of. -/
def redirected : Redirection → Nat
  | .output stream _ _ | .input stream _ | .both stream _ | .duplicate stream _ => stream
  | .document _ => 0

/-- Run work with redirected streams, which are put back after it; none if that is not possible. -/
def withStreams (expand : Word → Run String) (streams : List Redirection) (body : Run α) :
    Run (Option α) := do
  let before ← get
  let isOwn (n : Nat) : Bool := streams.any (redirected · = n)
  let restore : Run Unit := modify fun p =>
    let p := if isOwn 0 then p.withInputOf before else p
    { p with
      sinks := before.sinks
      sources := before.sources.filter (isOwn ·.1) ++ p.sources.filter (!isOwn ·.1) }
  if ← redirectAll expand streams then
    let result ← tryCatch body fun stop => do
      restore
      throw stop
    restore
    return some result
  else
    restore
    return none

/-! ## Programs -/

/-- The status of a shell that cannot start a program. -/
def refusedStatus : Errno → Nat
  | .noEntry | .notDirectory | .tooManyLinks | .nameTooLong => 127
  | _ => 126

/-- The path of the program that a word of a command names. -/
def programPath? (p : Process) (name : String) : Option String :=
  if name.toList.contains '/' then some name
  else
    let directories := ((p.valueOf? "PATH").getD "").splitOn ":"
    (directories.map fun d => (if d = "" then "." else d) ++ "/" ++ name).find? fun path =>
      match p.tree.status p.directory path with
      | .ok node => name ≠ "" && node.isFile
      | .error _ => false

/-- The program that a word of a command names, with the arguments in front of others. A file in no
format that can be run is a script of the shell. -/
def programFor (p : Process) (name : String) : Except Errno (Program × List String) :=
  match programPath? p name with
  | none => .error .noEntry
  | some path =>
    match Program.resolve p.tree p.directory Program.maxDepth path with
    | .error .notExecutable => .ok (.shell, [path])
    | found => found

/-- The tools that the shell has within itself. -/
def isOwnTool (name : String) : Bool :=
  ["true", "false", "echo", "printf", "test", "["].contains name

/-- Whether a shell carries out a command by itself. -/
def isOwn (name : String) : Bool :=
  (Builtin.named? name).isSome || isOwnTool name || Builtin.isSpecial name
    || ["command", "kill", "type"].contains name

/-- What a shell calls a command that it knows. -/
def known? (p : Process) (name : String) : Option String :=
  if Script.reserved.contains name ∨ isOwn name ∨ (p.functions.lookup name).isSome then some name
  else programPath? p name

/-- What a shell says a command is. -/
def describe (p : Process) (name : String) : String :=
  name ++
    if Script.reserved.contains name then " is a shell keyword"
    else if Builtin.isSpecial name then " is a special shell builtin"
    else if (p.functions.lookup name).isSome then " is a shell function"
    else if isOwn name then " is a shell builtin"
    else
      match programPath? p name with
      | some path => " is " ++ path
      | none => ": not found"

/-- Say what commands are. -/
def describeAll (names : List String) : Run Nat := do
  names.forM fun name => modify fun p => p.write (describe p name ++ "\n").toUTF8
  let p ← get
  return if names.all fun name => (known? p name).isSome then 0 else 127

/-- Run a tool. It fails where it writes and there is no output. -/
def runTool (tool : Tool) (args : List String) : Run Nat := do
  let p ← get
  if (p.sinks.lookup 1).isSome then
    let (n, after) := tool p args
    set after
    return n
  else
    let (n, after) := tool { p.setSink 1 .buffer with buffer := ByteArray.empty } args
    set { after with sinks := p.sinks, buffer := p.buffer }
    return if n = 0 ∧ after.buffer.size ≠ 0 then 1 else n

/-! ## Commands -/

mutual

/-- Run a command; `fuel` bounds how deep commands start others. The flag `tested` tells that a
failure is looked at, so that it does not end the shell. -/
def execute : Nat → Bool → Command → Run Nat
  | 0, _, _ => Run.fault
  | fuel + 1, tested, .simple assignments words streams => do
    if (← get).options.contains 'n' then return 0
    let strict ← isStrict
    let expand := Expansion.text (substitute fuel)
    modify fun p => { p with answer := 0 }
    match ← Expansion.words (substitute fuel) words with
    | [] => do
      let done ← withStreams expand streams (assignments.forM fun a => do
        Run.assign a.1 (← expand a.2))
      let answer := (← get).answer
      settle tested strict (if done.isSome then answer else Run.faultStatus)
    | ["exec"] => do
      if ← redirectAll expand streams then conclude 0 else Run.fault
    | program :: args => do
      match ← withStreams expand streams (runWith fuel tested program args assignments) with
      | some n => settle tested strict n
      | none => if Builtin.isSpecial program then Run.fault else settle tested strict Run.faultStatus
  | fuel + 1, tested, .redirected body streams => do
    let done ← withStreams (Expansion.text (substitute fuel)) streams (execute fuel tested body)
    conclude (done.getD Run.faultStatus)
  | fuel + 1, tested, .subshell body => do
    let strict ← isStrict
    let ended ← inChild (fun p => { p with traps := [] }) (endShell fuel (execute fuel tested body))
    settle tested strict (← afterSubshell ended)
  | fuel + 1, tested, .background body => do
    let ended ← inChild (fun p => { p with traps := [], input := ByteArray.empty })
      (endShell fuel (execute fuel tested body))
    let n ← afterSubshell ended
    modify fun p => { p with jobs := (p.number + 1 + p.jobs.length, n) :: p.jobs }
    conclude 0
  | fuel + 1, tested, .sequence first second => do
    let _ ← execute fuel tested first
    execute fuel tested second
  | fuel + 1, tested, .andThen first second => do
    let n ← execute fuel true first
    if n = 0 then execute fuel tested second else return n
  | fuel + 1, tested, .orElse first second => do
    let n ← execute fuel true first
    if n = 0 then return 0 else execute fuel tested second
  | fuel + 1, _, .negated body => do
    let n ← execute fuel true body
    conclude (if n = 0 then 1 else 0)
  | fuel + 1, tested, .pipe first second => do
    let strict ← isStrict
    let p ← get
    set { p.setSink 1 .buffer with traps := [], buffer := ByteArray.empty }
    let _ ← afterSubshell (← endShell fuel (execute fuel tested first))
    let source ← get
    set { p with tree := source.tree, traps := [], input := source.buffer }
    let ended ← endShell fuel (execute fuel tested second)
    let reader ← get
    set { p with tree := reader.tree, buffer := reader.buffer, input := source.input }
    settle tested strict (← afterSubshell ended)
  | fuel + 1, tested, .conditional condition body otherwise => do
    let n ← execute fuel true condition
    execute fuel tested (if n = 0 then body else otherwise)
  | fuel + 1, tested, .loop condition body untilSuccess => do
    let level := (← get).loops
    modify fun p => { p with loops := level + 1 }
    let n ← runLoop fuel tested (level + 1) condition body untilSuccess 0
    modify fun p => { p with loops := level }
    conclude n
  | fuel + 1, tested, .forEach name items body => do
    let values ← match items with
      | some words => Expansion.words (substitute fuel) words
      | none => do pure (← get).arguments
    let level := (← get).loops
    modify fun p => { p with loops := level + 1 }
    let n ← runEach fuel tested (level + 1) name values body 0
    modify fun p => { p with loops := level }
    conclude n
  | fuel + 1, tested, .choice subject branches => do
    let text ← Expansion.text (substitute fuel) subject
    runBranches fuel tested (Glyph.octets text) branches
  | _ + 1, _, .function name body => do
    modify fun p => { p with functions := (name, body) :: p.functions.filter (·.1 != name) }
    conclude 0

/-- Run a command while a condition succeeds, or until it does. -/
def runLoop : Nat → Bool → Nat → Command → Command → Bool → Nat → Run Nat
  | 0, _, _, _, _, _, _ => Run.fault
  | fuel + 1, tested, level, condition, body, untilSuccess, n => do
    match ← round level (execute fuel true condition) with
    | none => return n
    | some answer =>
      if (answer == 0) = untilSuccess then return n
      match ← round level (execute fuel tested body) with
      | none => return 0
      | some n => runLoop fuel tested level condition body untilSuccess n

/-- Run a command for each of some values of a variable. -/
def runEach : Nat → Bool → Nat → String → List String → Command → Nat → Run Nat
  | 0, _, _, _, _, _, _ => Run.fault
  | _, _, _, _, [], _, n => return n
  | fuel + 1, tested, level, name, value :: values, body, _ => do
    Run.assign name value
    match ← round level (execute fuel tested body) with
    | none => return 0
    | some n => runEach fuel tested level name values body n

/-- Run the command of the first branch with a pattern that a text matches. -/
def runBranches : Nat → Bool → List Char → List (List Word × Command) → Run Nat
  | 0, _, _, _ => Run.fault
  | _, _, _, [] => conclude 0
  | fuel + 1, tested, text, (words, body) :: others => do
    let found ← words.anyM fun word => do
      let glyphs ← Expansion.glyphs (substitute fuel) word
      return (Pattern.ofText glyphs).accepts text
    if found then execute fuel tested body else runBranches fuel tested text others

/-- What a script writes, without line ends behind it. -/
def substitute : Nat → List Char → Run (List Char)
  | 0, _ => Run.fault
  | fuel + 1, script => do
    let p ← get
    set { p.setSink 1 .buffer with traps := [], buffer := ByteArray.empty }
    let ended ← endShell fuel (runText fuel false script)
    let child ← get
    set { p with tree := child.tree, input := child.input }
    let n ← afterSubshell ended
    modify fun p => { p with answer := n }
    let cs := (Utf8.read child.buffer).chars.filter (· ≠ '\x00')
    return (cs.reverse.dropWhile (· = '\n')).reverse

/-- Run the words of a command with variables of its own, which stay after a command of the shell
itself. -/
def runWith : Nat → Bool → String → List String → List (String × Word) → Run Nat
  | 0, _, _, _, _ => Run.fault
  | fuel + 1, tested, program, args, assignments => do
    let before ← get
    assignments.forM fun a => do
      Run.assign a.1 (← Expansion.text (substitute fuel) a.2)
      if !Builtin.isSpecial program then
        modify fun p => { p with exported := a.1 :: p.exported }
    let n ← runWords fuel tested program args
    if !Builtin.isSpecial program then
      assignments.forM fun a => modify fun p =>
        let p := match before.valueOf? a.1 with
          | some value => p.assign a.1 value
          | none => p.unassign a.1
        if before.exported.contains a.1 then p
        else { p with exported := p.exported.filter (· != a.1) }
    return n

/-- Run what the words of a command stand for. -/
def runWords : Nat → Bool → String → List String → Run Nat
  | 0, _, _, _ => Run.fault
  | fuel + 1, tested, program, args => do
    let p ← get
    match Builtin.special.lookup program, p.functions.lookup program with
    | some builtin, _ => builtin args
    | none, some body => runFunction fuel tested body args
    | none, none =>
      match program with
      | "eval" => runText fuel tested (" ".intercalate args).toList
      | "." =>
        if args = [] then return 0
        match (args.head?.bind (programPath? p)).bind p.openInput with
        | some content =>
          tryCatch (runText fuel tested (Utf8.read content).chars) fun
            | .returned n => return n
            | stop => throw stop
        | none => Run.fault
      | "exec" =>
        match args with
        | program :: args =>
          match programFor p program with
          | .error e => throw (.leave (refusedStatus e))
          | .ok (found, before) =>
            modify fun p => { p with traps := [] }
            match ← startChild fuel program found (before ++ args) with
            | .status n => throw (.leave n)
            | .signal n => throw (.killed n)
        | [] => return 0
      | "type" => describeAll args
      | "command" =>
        match args with
        | "-v" :: name :: _ =>
          match known? p name with
          | some path =>
            modify (·.write (path ++ "\n").toUTF8)
            return 0
          | none => return 127
        | "-V" :: names => describeAll names
        | name :: args => runWords fuel tested name args
        | [] => return 0
      | "kill" =>
        if args = ["-l"] then return 0
        if args.head? = some "-l" then
          match (args.tail.head?.bind Builtin.number?).bind Builtin.signalName? with
          | some name =>
            modify (·.write (name ++ "\n").toUTF8)
            return 0
          | none => return Run.faultStatus
        match Builtin.killArguments? args with
        | none => return Run.faultStatus
        | some (signal, targets) => do
          if targets.contains (toString p.number) then
            let _ ← receive fuel signal
          let known := toString p.number :: p.jobs.map fun job => toString job.1
          return if targets.all known.contains then 0 else 1
      | _ =>
        match Builtin.named? program with
        | some builtin => builtin args
        | none =>
          match if isOwnTool program then Tool.named? program else none with
          | some tool => runTool tool args
          | none =>
            match programFor p program with
            | .error e => return refusedStatus e
            | .ok (found, before) =>
              if Program.areTooLong (program :: args) then return 126
              let ended ← startChild fuel program found (before ++ args)
              return ended.seen

/-- Run a function with arguments. -/
def runFunction : Nat → Bool → Command → List String → Run Nat
  | 0, _, _, _ => Run.fault
  | fuel + 1, tested, body, args => do
    let before ← get
    set { before with
      arguments := args, localNames := some [], loops := 0, optionIndex := 1, optionOffset := none }
    let n ← tryCatch (execute fuel tested body) fun
      | .returned n => return n
      | stop => throw stop
    modify fun p =>
      let isOwn (name : String) : Bool := (p.localNames.getD []).contains name
      { p with
        values := before.values.filter (isOwn ·.1) ++ p.values.filter fun v => !isOwn v.1
        arguments := before.arguments
        localNames := before.localNames
        loops := before.loops
        optionIndex := before.optionIndex
        optionOffset := before.optionOffset }
    return n

/-- Do what is to be done for a signal to the shell itself. -/
def receive : Nat → Nat → Run Nat
  | 0, _ => Run.fault
  | fuel + 1, signal => do
    let p ← get
    if signal = 0 then return 0
    match if signal = 9 ∨ signal = 19 then none else p.traps.lookup signal with
    | some action => do
      let _ ← runText fuel false action.toList
      modify fun q => { q with status := p.status }
      return 0
    | none =>
      if Builtin.ignoredSignals.contains signal then return 0 else throw (.killed signal)

/-- Run a program in a process of its own, under the name by which it was called. -/
def startChild : Nat → String → Program → List String → Run Ended
  | 0, _, _, _ => Run.fault
  | fuel + 1, name, program, args =>
    inChild (fun p => { p.forProgram with name := name })
      (endShell fuel (startProgram fuel program args))

/-- Run a program. -/
def startProgram : Nat → Program → List String → Run Nat
  | 0, _, _ => Run.fault
  | _ + 1, .tool tool, args => runTool tool args
  | fuel + 1, .shell, args => runShell fuel args
  | fuel + 1, .environment, args => runEnvironment fuel args

/-- Start a program with other variables, which arguments before its name give. -/
def runEnvironment : Nat → List String → Run Nat
  | 0, _ => Run.fault
  | _ + 1, [] => return 0
  | fuel + 1, arg :: args => do
    let p ← get
    match arg, args with
    | "--", _ => runEnvironment fuel args
    | "-", _ | "-i", _ => do
      set { p with exported := [], values := p.values.filter (·.1 = "PATH") }
      runEnvironment fuel args
    | "-u", name :: args => do
      modify (·.unassign name)
      runEnvironment fuel args
    | _, _ =>
      if arg.startsWith "-S" then
        let words := ((arg.drop 2).toString.splitOn " ").filter (· ≠ "")
        runEnvironment fuel (words ++ args)
      else if arg.startsWith "-" then return 125
      else
        match Builtin.splitAssignment arg with
        | (name, some value) => do
          modify fun p => { p.assign name value with exported := name :: p.exported }
          runEnvironment fuel args
        | (_, none) =>
          match programPath? p arg with
          | none => return 127
          | some path =>
            match Program.resolve p.tree p.directory Program.maxDepth path with
            | .error e => return if e = .noEntry then 127 else 126
            | .ok (found, before) =>
              match ← startChild fuel arg found (before ++ args) with
              | .status n => throw (.leave n)
              | .signal n => throw (.killed n)

/-- Run the shell with the arguments that it was started with. -/
def runShell : Nat → List String → Run Nat
  | 0, _ => Run.fault
  | fuel + 1, args => do
    match Builtin.readOptions true (args.length + 1) ⟨[], false, false, args⟩ with
    | none => Run.fault
    | some i =>
      modify fun p => { p with options := i.options }
      match i.rest with
      | first :: rest =>
        if i.script then
          modify fun p => { p with name := rest.head?.getD p.name, arguments := rest.tail }
          runText fuel false first.toList
        else if i.options.contains 's' then
          modify fun p => { p with arguments := first :: rest }
          runInput fuel
        else
          match (← get).openInput first with
          | some content =>
            modify fun p => { p with name := first, arguments := rest }
            runText fuel false (Utf8.read content).chars
          | none => Run.fault
      | [] => if i.script then Run.fault else runInput fuel

/-- Run the script that the input is. -/
def runInput : Nat → Run Nat
  | 0 => Run.fault
  | fuel + 1 => do
    let input := (← get).input
    modify fun p => { p with input := ByteArray.empty }
    runText fuel false (Utf8.read input).chars

/-- Run the text of a script. -/
def runText : Nat → Bool → List Char → Run Nat
  | 0, _, _ => Run.fault
  | fuel + 1, tested, text => runTokens fuel tested 0 (Token.scan text)

/-- Read a command, run it, and go on with those after it. -/
def runTokens : Nat → Bool → Nat → List Token → Run Nat
  | 0, _, _, _ => Run.fault
  | fuel + 1, tested, n, tokens =>
    match Script.skipLines tokens with
    | [] => return n
    | tokens => do
      match Script.next? tokens with
      | none => Run.fault
      | some (body, rest) =>
        let n ← execute fuel tested body
        runTokens fuel tested n rest

/-- Run a shell to its end, and then what is to be done there. -/
def endShell : Nat → Run Nat → Run Ended
  | 0, _ => return .status Run.faultStatus
  | fuel + 1, body => do
    match ← Ended.of body with
    | .signal n => return .signal n
    | .status n =>
      match (← get).traps.lookup 0 with
      | none => return .status n
      | some action =>
        modify fun p => { p with status := n, traps := p.traps.filter (·.1 != 0) }
        Ended.of do
          let _ ← runText fuel false action.toList
          return n

end

/-! ## Programs of a setting -/

/-- How deep commands may start others. -/
def depth : Nat := 20000

/-- How external programs behave where there are only scripts and tools. -/
def programs : Programs := fun directory words t =>
  match words with
  | [] => (.error (.program .permission), t)
  | name :: args =>
    match Program.find t directory name with
    | .error errno => (.error (.program errno), t)
    | .ok (found, before) =>
      if Program.areTooLong words then (.error (.program .argumentsTooLong), t)
      else
        match (startChild depth name found (before ++ args)).run.run (Process.new t directory) with
        | (.ok (.status n), p) => (.ok n, p.tree)
        | (.ok (.signal n), p) => (.ok (-(n : Int)), p.tree)
        | (.error _, p) => (.ok Run.faultStatus, p.tree)

end NorFlash.Shell
