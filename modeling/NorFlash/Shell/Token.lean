import NorFlash.Shell.Command

/-!
# Tokens of shell scripts

`Token.scan` divides the text of a script into words, operators and line ends. Quotes, backslashes,
parameters and the texts that follow a command are taken apart here. A quote or a bracket that is
not closed ends the tokens, so that what stands before it can still be run.
-/

namespace NorFlash.Shell

/-- A token of a script. -/
inductive Token where
  /-- A word. -/
  | word (word : Word)
  /-- An operator, or a line end, which is written as a line feed. -/
  | operator (text : String)
  /-- The number of a stream in front of a redirection. -/
  | stream (number : Nat)
  /-- A text that serves as input. -/
  | document (body : Word)
  /-- What begins here does not end. -/
  | unclosed
  deriving DecidableEq, Repr

namespace Token

/-! ## Characters -/

/-- Whether a character may start the name of a variable. -/
def isNameStart (c : Char) : Bool :=
  c.isAlpha || c == '_'

/-- Whether a character may be part of the name of a variable. -/
def isNameChar (c : Char) : Bool :=
  c.isAlphanum || c == '_'

/-- Whether a character ends a word. -/
def endsWord (c : Char) : Bool :=
  " \t\n;&|<>()".toList.contains c

/-- The characters that alone name a parameter. -/
def specialNames : List Char :=
  "#?$@*!-".toList

/-- The character before and after a script whose output is taken. -/
def backquote : Char := '\x60'

/-! ## Parameters -/

/-- The name of a parameter at the start of a text and what follows it. -/
def splitName : List Char → List Char × List Char
  | [] => ([], [])
  | c :: cs =>
    if isNameStart c then (c :: cs.takeWhile isNameChar, cs.dropWhile isNameChar)
    else if c.isDigit then (c :: cs.takeWhile Char.isDigit, cs.dropWhile Char.isDigit)
    else if specialNames.contains c then ([c], cs)
    else ([], c :: cs)

/-- The operation that a sign stands for. -/
def operation? (orEmpty : Bool) : Char → Option Operation
  | '-' => some (.fallback orEmpty)
  | '=' => some (.assign orEmpty)
  | '?' => some (.refuse orEmpty)
  | '+' => some (.replace orEmpty)
  | _ => none

/-- The operation and the operand after the name of a parameter. -/
def operationOf? : List Char → Option (Operation × List Char)
  | [] => some (.value, [])
  | '#' :: '#' :: operand => some (.dropStart true, operand)
  | '#' :: operand => some (.dropStart false, operand)
  | '%' :: '%' :: operand => some (.dropEnd true, operand)
  | '%' :: operand => some (.dropEnd false, operand)
  | ':' :: sign :: operand => (operation? true sign).map (·, operand)
  | sign :: operand => (operation? false sign).map (·, operand)

/-- The piece that the text between braces stands for. -/
def expansion (quoted : Bool) (inner : List Char) : Piece :=
  match inner with
  | '#' :: c :: cs =>
    match splitName (c :: cs) with
    | (name, []) => .parameter (String.ofList name) .length [] quoted
    | _ => general
  | _ => general
where
  /-- The piece unless it is a length. -/
  general : Piece :=
    match splitName inner with
    | ([], _) => .refused
    | (name, rest) =>
      match operationOf? rest with
      | some (operation, operand) => .parameter (String.ofList name) operation operand quoted
      | none => .refused

/-! ## Brackets -/

/-- The rest of a text between double quotes, up to the quote that closes it. -/
def passDouble? : List Char → List Char → Option (List Char × List Char)
  | acc, '\\' :: c :: cs => passDouble? (c :: '\\' :: acc) cs
  | acc, c :: cs => if c = '"' then some (c :: acc, cs) else passDouble? (c :: acc) cs
  | _, [] => none

/-- The characters up to the bracket that closes `level` open ones, the last one first, and those
after it. Quotes are passed over; `plain` tells that single quotes are none. -/
def bracketed? (start stop : Char) (plain : Bool) :
    Nat → Nat → List Char → List Char → Option (List Char × List Char)
  | 0, _, _, _ => none
  | _, _, _, [] => none
  | fuel + 1, level, acc, c :: cs =>
    let next (level : Nat) := bracketed? start stop plain fuel level (c :: acc) cs
    if c = '\\' then
      match cs with
      | d :: rest => bracketed? start stop plain fuel level (d :: c :: acc) rest
      | [] => none
    else if c = '\'' ∧ plain = false then
      match cs.span (· ≠ '\'') with
      | (inner, close :: rest) =>
        bracketed? start stop plain fuel level (close :: inner.reverse ++ c :: acc) rest
      | (_, []) => none
    else if c = '"' then
      match passDouble? (c :: acc) cs with
      | some (acc, rest) => bracketed? start stop plain fuel level acc rest
      | none => none
    else if c = start ∧ (start = '(' ∨ acc.head? = some '$') then next (level + 1)
    else if c = stop then
      match level with
      | 0 | 1 => some (acc, cs)
      | level + 2 => next (level + 1)
    else next level

/-- The text up to a closing bracket and what follows it. -/
def inBrackets? (start stop : Char) (plain : Bool) (cs : List Char) :
    Option (List Char × List Char) :=
  (bracketed? start stop plain (cs.length + 1) 1 [] cs).map fun found => (found.1.reverse, found.2)

/-- What a dollar sign begins. -/
inductive Dollar where
  /-- A piece, and what follows it. -/
  | piece (piece : Piece) (rest : List Char)
  /-- Nothing: it stands for itself. -/
  | sign
  /-- Something that does not end. -/
  | unclosed

/-- What a dollar sign in front of a text begins. -/
def dollar (quoted : Bool) (cs : List Char) : Dollar :=
  match cs with
  | '(' :: rest =>
    match inBrackets? '(' ')' false rest with
    | none => .unclosed
    | some ('(' :: inner, rest) =>
      if inner.getLast? = some ')' then .piece (.arithmetic inner.dropLast quoted) rest
      else .piece (.substitution ('(' :: inner) quoted) rest
    | some (inner, rest) => .piece (.substitution inner quoted) rest
  | '{' :: rest =>
    match inBrackets? '{' '}' quoted rest with
    | none => .unclosed
    | some (inner, rest) => .piece (expansion quoted inner) rest
  | c :: rest =>
    if c.isDigit then .piece (.parameter (String.singleton c) .value [] quoted) rest
    else
      match splitName cs with
      | ([], _) => .sign
      | (name, rest) => .piece (.parameter (String.ofList name) .value [] quoted) rest
  | [] => .sign

/-- The script between backquotes, whose backslashes are resolved, and what follows it. -/
def backquoted? (quoted : Bool) : List Char → Option (List Char × List Char)
  | '\\' :: c :: cs =>
    let special := c = '$' ∨ c = '\\' ∨ c = backquote ∨ (quoted ∧ c = '"')
    (backquoted? quoted cs).map fun found =>
      (if special then c :: found.1 else '\\' :: c :: found.1, found.2)
  | c :: cs =>
    if c = backquote then some ([], cs)
    else (backquoted? quoted cs).map fun found => (c :: found.1, found.2)
  | [] => none

/-! ## Words -/

/-- Where pieces stand. -/
inductive Place where
  /-- In a word of a script. -/
  | word
  /-- Between double quotes. -/
  | quotes
  /-- In the operand of a parameter. -/
  | operand (quoted : Bool)
  /-- In a text that serves as input. -/
  | document
  deriving DecidableEq, Repr

namespace Place

/-- Whether pieces at the place are quoted. -/
def isQuoted : Place → Bool
  | word => false
  | operand quoted => quoted
  | quotes | document => true

/-- Whether a backslash takes the meaning of a character; otherwise it stands for itself. -/
def escapes : Place → Char → Bool
  | quotes, c => c = '$' ∨ c = '\\' ∨ c = backquote ∨ c = '"'
  | operand true, c => c = '$' ∨ c = '\\' ∨ c = backquote ∨ c = '"' ∨ c = '}'
  | document, c => c = '$' ∨ c = '\\' ∨ c = backquote
  | _, _ => true

end Place

/-- The pieces with one character more, the last piece first. -/
def addChar (c : Char) (quoted : Bool) : List Piece → List Piece
  | .text before q :: pieces =>
    if q = quoted then .text (before ++ [c]) q :: pieces
    else .text [c] quoted :: .text before q :: pieces
  | pieces => .text [c] quoted :: pieces

/-- Whether a text starts with all arguments, of which there may be none even between quotes. -/
def startsArguments (cs : List Char) : Bool :=
  "$@".toList.isPrefixOf cs || "$\x7b@\x7d".toList.isPrefixOf cs

/-- Read pieces up to their end. The pieces read so far come last one first. -/
def pieces? (place : Place) : Nat → List Char → List Piece → Option (List Piece × List Char)
  | 0, _, _ => none
  | _, [], acc => if place = .quotes then none else some (acc, [])
  | fuel + 1, '\\' :: cs, acc =>
    match cs with
    | [] => pieces? place fuel [] (addChar '\\' place.isQuoted acc)
    | c :: rest =>
      if c = '\n' then pieces? place fuel rest acc
      else if place.escapes c then pieces? place fuel rest (addChar c true acc)
      else pieces? place fuel rest (addChar c true (addChar '\\' true acc))
  | fuel + 1, '$' :: cs, acc =>
    match dollar place.isQuoted cs with
    | .piece piece rest => pieces? place fuel rest (piece :: acc)
    | .sign => pieces? place fuel cs (addChar '$' place.isQuoted acc)
    | .unclosed => none
  | fuel + 1, c :: cs, acc =>
    if c = backquote then
      match backquoted? place.isQuoted cs with
      | some (script, rest) => pieces? place fuel rest (.substitution script place.isQuoted :: acc)
      | none => none
    else if place.isQuoted = false ∧ c = '\'' then
      match cs.span (· ≠ '\'') with
      | (inner, _ :: rest) => pieces? place fuel rest (.text inner true :: acc)
      | (_, []) => none
    else if place.isQuoted = false ∧ c = '"' then
      match pieces? .quotes fuel cs (if startsArguments cs then acc else .text [] true :: acc) with
      | some (acc, rest) => pieces? place fuel rest acc
      | none => none
    else if place = .quotes ∧ c = '"' then some (acc, cs)
    else if place = .operand true ∧ c = '"' then pieces? place fuel cs acc
    else if place = .word ∧ endsWord c then some (acc, c :: cs)
    else pieces? place fuel cs (addChar c place.isQuoted acc)

/-- The word at the start of a text and what follows it. -/
def readWord? (cs : List Char) : Option (Word × List Char) :=
  (pieces? .word (2 * cs.length + 2) cs []).map fun found => (found.1.reverse, found.2)

/-- The word that all of a text stands for. -/
def wholeWord? (place : Place) (cs : List Char) : Option Word :=
  (pieces? place (2 * cs.length + 2) cs []).map fun found => found.1.reverse

/-! ## Texts that serve as input -/

/-- Divide the lines of a text at the line that ends a document: the document and the lines after
it. Where the line is missing, all is the document. -/
def documentLines (delimiter : List Char) (tabs : Bool) : List (List Char) →
    List Char × List (List Char)
  | [] => ([], [])
  | line :: lines =>
    let line := if tabs then line.dropWhile (· = '\t') else line
    if line = delimiter then ([], lines)
    else
      let (inside, after) := documentLines delimiter tabs lines
      (if lines = [] then line else line ++ '\n' :: inside, after)

/-- The characters of a word as they stand, without regard to quotes. -/
def bareText (word : Word) : List Char :=
  word.flatMap fun
    | .text chars _ => chars
    | .parameter name _ _ _ => '$' :: name.toList
    | _ => []

/-- Take the document that follows the line of its operator out of the text after the operator: the
document, and the text without it. -/
def document? (tabs : Bool) (cs : List Char) : Option (Word × List Char) := do
  let (delimiter, rest) ← readWord? (cs.dropWhile fun c => c = ' ' ∨ c = '\t')
  let (line, after) := rest.span (· ≠ '\n')
  let (body, outside) := documentLines (bareText delimiter) tabs (after.tail.splitOn '\n')
  let content ← if delimiter.any Piece.isQuoted then some [.text body true]
    else wholeWord? .document body
  return (content, line ++ '\n' :: ['\n'].intercalate outside)

/-! ## Scripts -/

/-- The operators of more than one character, the longest ones first. -/
def longOperators : List String :=
  ["<<-", "&&", "||", ">>", ">&", ">|", "<&", "<>", ";;", "<<"]

/-- The operator at the start of a text. -/
def operatorAt (cs : List Char) : String :=
  (longOperators.find? fun o => o.toList.isPrefixOf cs).getD (String.ofList (cs.take 1))

/-- The number of one digit that a word is in front of a redirection. -/
def streamNumber? (word : Word) (rest : List Char) : Option Nat :=
  match plain? word, rest with
  | some text, c :: _ =>
    if (c = '<' ∨ c = '>') ∧ text.length = 1 then text.toNat? else none
  | _, _ => none

/-- Read the tokens of a text. -/
def tokens : Nat → List Char → List Token
  | 0, _ => [.unclosed]
  | _, [] => []
  | fuel + 1, c :: cs =>
    if c = ' ' ∨ c = '\t' then tokens fuel cs
    else if c = '#' then tokens fuel (cs.dropWhile (· ≠ '\n'))
    else if c = '\\' ∧ cs.head? = some '\n' then tokens fuel cs.tail
    else if endsWord c then
      let sign := operatorAt (c :: cs)
      let rest := cs.drop (sign.length - 1)
      if sign = "<<" ∨ sign = "<<-" then
        match document? (sign = "<<-") rest with
        | some (body, rest) => .operator "<<" :: .document body :: tokens fuel rest
        | none => [.unclosed]
      else .operator sign :: tokens fuel rest
    else
      match readWord? (c :: cs) with
      | some (w, rest) =>
        match streamNumber? w rest with
        | some number => .stream number :: tokens fuel rest
        | none => .word w :: tokens fuel rest
      | none => [.unclosed]

/-- The tokens of a script. -/
def scan (script : List Char) : List Token :=
  tokens (2 * script.length + 2) script

end Token

end NorFlash.Shell
