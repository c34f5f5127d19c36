import NorFlash.Shell.Token

/-!
# Scripts

`Script.next?` reads the command at the start of the tokens of a script, up to the end of its line:
lists of pipelines, groups, conditions, choices and loops over simple commands. A shell reads one
such command, runs it and reads the next one, so that what stands before a faulty line is run.
-/

namespace NorFlash.Shell.Script

/-- A command and the tokens after it. -/
abbrev Parsed := Option (Command × List Token)

/-- The words that have a meaning of their own where a command may start. -/
def reserved : List String :=
  ["\x7b", "\x7d", "if", "then", "else", "elif", "fi", "while", "until", "for", "do", "done", "case",
    "esac", "!"]

/-- The reserved words that end a list of commands. -/
def closing : List String :=
  ["\x7d", "then", "else", "elif", "fi", "do", "done", "esac"]

/-- The reserved word that a token is. -/
def reserved? : Token → Option String
  | .word word => (plain? word).filter reserved.contains
  | _ => none

/-- The tokens without the line ends in front of them. -/
def skipLines : List Token → List Token
  | .operator "\n" :: rest => skipLines rest
  | tokens => tokens

/-- The tokens after an expected reserved word. -/
def expect (word : String) : List Token → Option (List Token)
  | token :: rest => if reserved? token = some word then some rest else none
  | [] => none

/-- Whether a list of commands ends at a token. -/
def endsList : Token → Bool
  | .operator sign => sign = ")" ∨ sign = ";;"
  | token => (reserved? token).any closing.contains

/-! ## Simple commands -/

/-- A redirection of a stream, or of the one that its sign is for, at the start of the tokens. -/
def redirectionOf? (stream : Option Nat) : List Token → Option (Redirection × List Token)
  | .operator "<<" :: .document body :: rest => some (.document body, rest)
  | .operator sign :: .word w :: rest =>
    match sign with
    | ">" => some (.output (stream.getD 1) .replace w, rest)
    | ">|" => some (.output (stream.getD 1) .overwrite w, rest)
    | ">>" => some (.output (stream.getD 1) .append w, rest)
    | "<" => some (.input (stream.getD 0) w, rest)
    | ">&" => some (.duplicate (stream.getD 1) w, rest)
    | "<&" => some (.duplicate (stream.getD 0) w, rest)
    | "<>" => some (.both (stream.getD 0) w, rest)
    | _ => none
  | _ => none

/-- A redirection at the start of the tokens. -/
def redirection? : List Token → Option (Redirection × List Token)
  | .stream n :: rest => redirectionOf? (some n) rest
  | tokens => redirectionOf? none tokens

/-- The redirections at the start of the tokens. -/
def redirections : Nat → List Token → List Redirection × List Token
  | 0, tokens => ([], tokens)
  | fuel + 1, tokens =>
    match redirection? tokens with
    | some (r, rest) =>
      let (more, rest) := redirections fuel rest
      (r :: more, rest)
    | none => ([], tokens)

/-- Whether characters are the name of a variable. -/
def isName (cs : List Char) : Bool :=
  cs.head?.any Token.isNameStart && cs.all Token.isNameChar

/-- The assignment that a word is. -/
def assignment? (word : Word) : Option (String × Word) :=
  match word with
  | .text chars false :: pieces =>
    match chars.span (· ≠ '=') with
    | (name, _ :: value) =>
      if isName name then
        some (String.ofList name, if value = [] then pieces else .text value false :: pieces)
      else none
    | _ => none
  | _ => none

/-- Read a simple command; the parts read so far come last one first. -/
def simple : Nat → List Token → List (String × Word) → List Word → List Redirection → Parsed
  | 0, _, _, _, _ => none
  | fuel + 1, tokens, assignments, words, streams =>
    match redirection? tokens with
    | some (r, rest) => simple fuel rest assignments words (r :: streams)
    | none =>
      match tokens with
      | .word w :: rest =>
        match assignment? w with
        | some a =>
          if words = [] then simple fuel rest (a :: assignments) words streams
          else simple fuel rest assignments (w :: words) streams
        | none => simple fuel rest assignments (w :: words) streams
      | .stream _ :: _ | .unclosed :: _ => none
      | _ =>
        if assignments = [] ∧ words = [] ∧ streams = [] then none
        else some (.simple assignments.reverse words.reverse streams.reverse, tokens)

/-! ## Compound commands -/

/-- The words up to the end of a list of items. -/
def items : List Token → List Word × List Token
  | .word w :: rest =>
    let (more, rest) := items rest
    (w :: more, rest)
  | tokens => ([], tokens)

/-- The tokens after the end of a command, which a semicolon or a line end marks. -/
def skipEnd : List Token → List Token
  | .operator ";" :: rest => skipLines rest
  | tokens => skipLines tokens

/-- A command with the redirections behind it. -/
def redirect (body : Command) (tokens : List Token) : Parsed :=
  match redirections tokens.length tokens with
  | ([], rest) => some (body, rest)
  | (streams, rest) => some (.redirected body streams, rest)

/-- The patterns of a branch, up to the bracket behind them. -/
def patterns : List Token → Option (List Word × List Token)
  | .word w :: .operator ")" :: rest => some ([w], rest)
  | .word w :: .operator "|" :: rest =>
    (patterns rest).map fun found => (w :: found.1, found.2)
  | _ => none

mutual

/-- Read a list of commands up to a token that continues none. A list that is not nested in another
command ends with its line. -/
def list (nested : Bool) : Nat → List Token → Parsed
  | 0, _ => none
  | fuel + 1, tokens => listRest nested fuel none (skipLines tokens)

/-- Read the commands of a list after those before. -/
def listRest (nested : Bool) : Nat → Option Command → List Token → Parsed
  | 0, _, _ => none
  | fuel + 1, before, tokens => do
    let (current, rest) ← conjunction fuel tokens
    let joined (c : Command) : Command := before.elim c (.sequence · c)
    match rest with
    | .operator sign :: rest =>
      if sign = "\n" ∧ nested = false then some (joined current, rest)
      else if sign = ";" ∨ sign = "&" ∨ sign = "\n" then
        let whole := joined (if sign = "&" then .background current else current)
        match if nested then skipLines rest else rest with
        | [] => some (whole, [])
        | token :: rest =>
          if nested = false ∧ token = .operator "\n" then some (whole, rest)
          else if nested ∧ endsList token then some (whole, token :: rest)
          else listRest nested fuel (some whole) (token :: rest)
      else if nested then some (joined current, .operator sign :: rest)
      else none
    | rest => if nested ∨ rest = [] then some (joined current, rest) else none

/-- Read pipelines joined by success and failure. -/
def conjunction : Nat → List Token → Parsed
  | 0, _ => none
  | fuel + 1, tokens => do
    let (first, rest) ← pipeline fuel tokens
    conjunctionRest fuel first rest

/-- Read the pipelines after the first one. -/
def conjunctionRest : Nat → Command → List Token → Parsed
  | 0, _, _ => none
  | fuel + 1, first, .operator "&&" :: rest => do
    let (second, rest) ← pipeline fuel (skipLines rest)
    conjunctionRest fuel (.andThen first second) rest
  | fuel + 1, first, .operator "||" :: rest => do
    let (second, rest) ← pipeline fuel (skipLines rest)
    conjunctionRest fuel (.orElse first second) rest
  | _, first, tokens => some (first, tokens)

/-- Read a pipeline, whose success and failure may be exchanged. -/
def pipeline : Nat → List Token → Parsed
  | 0, _ => none
  | fuel + 1, tokens =>
    match expect "!" tokens with
    | some rest => do
      let (body, rest) ← pipes fuel rest
      some (.negated body, rest)
    | none => pipes fuel tokens

/-- Read commands that read what the ones before them write. -/
def pipes : Nat → List Token → Parsed
  | 0, _ => none
  | fuel + 1, tokens => do
    let (first, rest) ← command fuel tokens
    match rest with
    | .operator "|" :: rest =>
      let (second, rest) ← pipes fuel (skipLines rest)
      some (.pipe first second, rest)
    | _ => some (first, rest)

/-- Read the branches of a condition up to its end. -/
def conditions : Nat → List Token → Parsed
  | 0, _ => none
  | fuel + 1, tokens => do
    let (condition, rest) ← list true fuel tokens
    let (body, rest) ← list true fuel (← expect "then" rest)
    match rest with
    | token :: rest =>
      match reserved? token with
      | some "fi" => some (.conditional condition body .nothing, rest)
      | some "else" =>
        let (otherwise, rest) ← list true fuel rest
        some (.conditional condition body otherwise, ← expect "fi" rest)
      | some "elif" =>
        let (otherwise, rest) ← conditions fuel rest
        some (.conditional condition body otherwise, rest)
      | _ => none
    | [] => none

/-- Read the branches of a choice up to its end. -/
def branches : Nat → List Token → Option (List (List Word × Command) × List Token)
  | 0, _ => none
  | fuel + 1, tokens =>
    let tokens := skipLines tokens
    match expect "esac" tokens with
    | some rest => some ([], rest)
    | none => do
      let tokens := match tokens with
        | .operator "(" :: rest => rest
        | tokens => tokens
      let (words, rest) ← patterns tokens
      let (body, rest) ←
        match skipLines rest with
        | [] => none
        | token :: rest =>
          if endsList token then some (Command.nothing, token :: rest)
          else list true fuel (token :: rest)
      match skipLines rest with
      | .operator ";;" :: rest =>
        let (others, rest) ← branches fuel rest
        some ((words, body) :: others, rest)
      | tokens => some ([(words, body)], ← expect "esac" tokens)

/-- Read the body of a loop. -/
def loopBody : Nat → List Token → Parsed
  | 0, _ => none
  | fuel + 1, tokens => do
    let (body, rest) ← list true fuel (← expect "do" tokens)
    some (body, ← expect "done" rest)

/-- Read a command. -/
def command : Nat → List Token → Parsed
  | 0, _ => none
  | fuel + 1, tokens =>
    match tokens with
    | .operator "(" :: rest => do
      let (body, rest) ← list true fuel rest
      match rest with
      | .operator ")" :: rest => redirect (.subshell body) rest
      | _ => none
    | token :: rest =>
      match reserved? token with
      | none =>
        match tokens with
        | .word name :: .operator "(" :: .operator ")" :: rest => do
          let name ← (plain? name).filter fun text => isName text.toList
          let (body, rest) ← command fuel (skipLines rest)
          some (.function name body, rest)
        | _ => simple (tokens.length + 1) tokens [] [] []
      | some "\x7b" => do
        let (body, rest) ← list true fuel rest
        redirect body (← expect "\x7d" rest)
      | some "if" => do
        let (body, rest) ← conditions fuel rest
        redirect body rest
      | some "while" => do
        let (condition, rest) ← list true fuel rest
        let (body, rest) ← loopBody fuel rest
        redirect (.loop condition body false) rest
      | some "until" => do
        let (condition, rest) ← list true fuel rest
        let (body, rest) ← loopBody fuel rest
        redirect (.loop condition body true) rest
      | some "for" =>
        match rest with
        | .word name :: rest => do
          let name ← (plain? name).filter fun text => isName text.toList
          let (words, rest) ←
            match skipLines rest with
            | .word word :: after =>
              if plain? word = some "in" then
                let (words, after) := items after
                match after with
                | .operator sign :: _ =>
                  if sign = ";" ∨ sign = "\n" then some (some words, skipEnd after) else none
                | _ => none
              else some (none, .word word :: after)
            | tokens => some (none, skipEnd tokens)
          let (body, rest) ← loopBody fuel rest
          redirect (.forEach name words body) rest
        | _ => none
      | some "case" =>
        match rest with
        | .word subject :: rest =>
          match skipLines rest with
          | .word word :: rest => do
            if plain? word ≠ some "in" then none
            let (choices, rest) ← branches fuel rest
            redirect (.choice subject choices) rest
          | _ => none
        | _ => none
      | some _ => none
    | [] => none

end

/-- The command at the start of the tokens, up to the end of its line, and the tokens after it. -/
def next? (tokens : List Token) : Parsed :=
  list false (16 * tokens.length + 16) tokens

end NorFlash.Shell.Script
