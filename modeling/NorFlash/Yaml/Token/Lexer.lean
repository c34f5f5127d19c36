import NorFlash.Yaml.Token.Block
import NorFlash.Yaml.Token.Flow
import NorFlash.Yaml.Token.Property

/-!
# From text to tokens

`Token.scan` reads the tokens of a document, or of its first part. Whether a node is a key shows only at the colon behind
it, so the lexer keeps a `Candidate` for each bracket level; the tokens that start a key and its
mapping are put in front of the candidate once the colon is found. A candidate stays on one line and
is not longer than 1024 characters.
-/

namespace NorFlash.Yaml

/-- A node that is a key if a colon follows. -/
structure Candidate where
  /-- Whether the colon has to follow, because the line cannot mean anything else. -/
  required : Bool
  /-- The number of tokens in front of the node. -/
  position : Nat
  /-- Where the node starts. -/
  spot : Spot

/-- The state of the lexer. -/
structure Lexer where
  /-- The text that is not yet read. -/
  rest : Source
  /-- The tokens read so far. -/
  tokens : Array Token
  /-- The columns of the open blocks, the innermost one first. -/
  indents : List Int
  /-- The candidate outside of brackets, and one for each open bracket, the innermost one first. -/
  candidates : List (Option Candidate)
  /-- Whether a key or a block may start here. -/
  keyAllowed : Bool
  /-- Whether the text is at its end. -/
  finished : Bool

namespace Lexer

/-- The state at the start of a text. -/
def start (s : Source) : Lexer :=
  ⟨s, #[], [], [none], true, false⟩

/-- Whether a bracket is open. -/
def inFlow (l : Lexer) : Bool :=
  1 < l.candidates.length

/-- The column of the innermost open block. -/
def indent (l : Lexer) : Int :=
  l.indents.head?.getD (-1)

/-- The place of the next character. -/
def spot (l : Lexer) : Spot :=
  l.rest.spot

/-- The state after one more token, which has `length` characters. -/
def emit (token : Token) (length : Nat) (l : Lexer) : Lexer :=
  { l with tokens := l.tokens.push token, rest := l.rest.after length }

/-! ## Blocks -/

/-- Close the blocks that start to the right of a column. -/
def unroll (column : Int) (l : Lexer) : Lexer :=
  if l.inFlow then l
  else
    let closed := l.indents.takeWhile (column < ·)
    { l with
      indents := l.indents.drop closed.length
      tokens := l.tokens ++ (closed.map fun _ => Token.blockEnd).toArray }

/-- Open a block at a column with a token in front of the one at `position`, unless it is open. -/
def roll (column : Int) (position : Nat) (token : Token) (l : Lexer) : Lexer :=
  if !l.inFlow && l.indent < column then
    { l with
      indents := column :: l.indents
      tokens := l.tokens.insertIdxIfInBounds position token }
  else l

/-! ## Candidates -/

/-- Fail at the next character. -/
def refuse (l : Lexer) : Scan α :=
  .error l.spot.index

/-- Give up the candidate of the innermost bracket. -/
def dropCandidate (l : Lexer) : Scan Lexer :=
  match l.candidates with
  | some c :: rest => if c.required then l.refuse else .ok { l with candidates := none :: rest }
  | _ => .ok l

/-- Take the node that starts here as a candidate, if a key is allowed. -/
def saveCandidate (l : Lexer) : Scan Lexer := do
  if l.keyAllowed then
    let l ← l.dropCandidate
    let required := !l.inFlow && l.indent == l.spot.column
    return { l with candidates := some ⟨required, l.tokens.size, l.spot⟩ :: l.candidates.tail }
  else return l

/-- The most characters of a key in front of its colon. -/
def maxKey : Nat := 1024

/-- Whether a candidate can be no key any more at a place. -/
def isStale (here : Spot) (c : Candidate) : Bool :=
  c.spot.line < here.line || c.spot.index + maxKey < here.index

/-- Give up the candidates that can be no keys any more. -/
def dropStale (l : Lexer) : Scan Lexer := do
  let candidates ← l.candidates.mapM fun
    | some c =>
      if isStale l.spot c then (if c.required then l.refuse else .ok none) else .ok (some c)
    | none => .ok none
  return { l with candidates := candidates }

/-! ## Between tokens -/

/-- Skip blanks, comments and line ends; a tab is a blank only where no block may start, and a key
is allowed after a line end outside of brackets. The answer tells whether a key is allowed. -/
def skipBetween (inFlow : Bool) (inComment keyAllowed : Bool) : Source → Bool × Source
  | [] => (keyAllowed, [])
  | spot :: rest =>
    if isBreak spot.char then skipBetween inFlow false (keyAllowed || !inFlow) rest
    else if spot.char == endMark then (keyAllowed, spot :: rest)
    else if inComment then skipBetween inFlow true keyAllowed rest
    else if spot.column == 0 && spot.char == byteOrderMark then
      skipBetween inFlow false keyAllowed rest
    else if spot.char == ' ' || ((inFlow || !keyAllowed) && spot.char == '\t') then
      skipBetween inFlow false keyAllowed rest
    else if spot.char == '#' then skipBetween inFlow true keyAllowed rest
    else (keyAllowed, spot :: rest)

/-- Go on to the next token and close the blocks that end in front of it. -/
def advance (l : Lexer) : Scan Lexer := do
  let l ← l.dropStale
  let (keyAllowed, rest) := skipBetween l.inFlow false l.keyAllowed l.rest
  let l ← { l with keyAllowed := keyAllowed, rest := rest }.dropStale
  return l.unroll l.spot.column

/-! ## Tokens -/

/-- End all blocks. -/
def closeAll (l : Lexer) : Scan Lexer := do
  let l ← (l.unroll (-1)).dropCandidate
  return { l with keyAllowed := false }

/-- End the text. -/
def finish (l : Lexer) : Scan Lexer := do
  return { ← l.closeAll with finished := true }

/-- Read a directive. -/
def directive (l : Lexer) : Scan Lexer := do
  let l ← l.closeAll
  let (token, rest) ← l.rest.onLine (readDirective? l.rest)
  return { l.emit token 0 with rest := rest }

/-- Read a mark between documents. -/
def documentMark (token : Token) (l : Lexer) : Scan Lexer := do
  return (← l.closeAll).emit token 3

/-- Open a bracket. -/
def openFlow (token : Token) (l : Lexer) : Scan Lexer := do
  let l ← l.saveCandidate
  return { l with candidates := none :: l.candidates, keyAllowed := true }.emit token 1

/-- Close a bracket. -/
def closeFlow (token : Token) (l : Lexer) : Scan Lexer := do
  let l ← l.dropCandidate
  let candidates := if l.inFlow then l.candidates.tail else l.candidates
  return { l with candidates := candidates, keyAllowed := false }.emit token 1

/-- Read a comma. -/
def comma (l : Lexer) : Scan Lexer := do
  return { ← l.dropCandidate with keyAllowed := true }.emit .comma 1

/-- Open a block at the next character, which is allowed only where a key is. -/
def openBlock (token : Token) (l : Lexer) : Scan Lexer :=
  if l.inFlow then .ok l
  else if l.keyAllowed then .ok (l.roll l.spot.column l.tokens.size token)
  else l.refuse

/-- Read the dash in front of an item. -/
def item (l : Lexer) : Scan Lexer := do
  let l ← (← l.openBlock .blockSequence).dropCandidate
  return { l with keyAllowed := true }.emit .item 1

/-- Read the mark in front of a key. -/
def key (l : Lexer) : Scan Lexer := do
  let l ← (← l.openBlock .blockMapping).dropCandidate
  return { l with keyAllowed := !l.inFlow }.emit .key 1

/-- Read the colon in front of a value. The candidate becomes the key. -/
def value (l : Lexer) : Scan Lexer := do
  match l.candidates with
  | some c :: rest =>
    let l := { l with
      tokens := l.tokens.insertIdxIfInBounds c.position .key
      candidates := none :: rest
      keyAllowed := false }
    return (l.roll c.spot.column c.position .blockMapping).emit .value 1
  | _ =>
    let l ← l.openBlock .blockMapping
    return { l with keyAllowed := !l.inFlow }.emit .value 1

/-- Read a name, a tag or a scalar within lines, each of which may start a key. -/
def node (read : Lexer → Scan (Token × Source)) (l : Lexer) : Scan Lexer := do
  let l ← l.saveCandidate
  let (token, rest) ← read l
  return { l.emit token 0 with rest := rest, keyAllowed := false }

/-- Read a name behind its mark. -/
def name (token : String → Token) (l : Lexer) : Scan Lexer :=
  l.node fun l => do
    let (name, rest) ← l.rest.onLine (readName? l.rest)
    return (token name, rest)

/-- Read a plain scalar. A line that ends behind it allows a key. -/
def plain (l : Lexer) : Scan Lexer := do
  let l ← l.saveCandidate
  let scanned ← scanPlain l.inFlow (l.indent + 1) [] .none l.rest
  return { l.emit (.scalar true scanned.text) 0 with
    rest := scanned.rest, keyAllowed := scanned.lineEnded }

/-- Read a scalar between quotes. -/
def quoted (single : Bool) (l : Lexer) : Scan Lexer :=
  l.node fun l => do
    let scanned ← scanQuoted single 0 [] .none (l.rest.after 1)
    return (.scalar false scanned.text, scanned.rest)

/-- Read a block scalar. -/
def block (literal : Bool) (l : Lexer) : Scan Lexer := do
  let l ← l.dropCandidate
  let (text, rest) ← scanBlock literal l.indent (l.rest.after 1)
  return { l.emit (.scalar false text) 0 with rest := rest, keyAllowed := true }

/-- Whether a plain scalar may start here. -/
def startsPlain (l : Lexer) : Bool :=
  let c := l.rest.first
  let next := l.rest.ahead 1
  if c == '-' then !isBlank next
  else if c == '?' || c == ':' then !l.inFlow && !isWordEnd next
  else
    !isWordEnd c && ! [',', '[', ']', '\x7b', '\x7d', '#', '&', '*', '!', '|', '>', '\'', '"', '%',
      '@', '\x60'].contains c

/-- Read a token that starts with a mark of its own, or a plain scalar. -/
def token (l : Lexer) : Scan Lexer :=
  let next := l.rest.ahead 1
  match l.rest.first with
  | '[' => l.openFlow .flowSequence
  | '\x7b' => l.openFlow .flowMapping
  | ']' => l.closeFlow .flowSequenceEnd
  | '\x7d' => l.closeFlow .flowMappingEnd
  | ',' => l.comma
  | '-' => if isWordEnd next then l.item else l.plain
  | '?' => if l.inFlow || isWordEnd next then l.key else l.plain
  | ':' => if l.inFlow || isWordEnd next then l.value else l.plain
  | '*' => l.name .reference
  | '&' => l.name .anchor
  | '!' => l.node fun l => l.rest.onLine (readTag? l.inFlow l.rest)
  | '\'' => l.quoted true
  | '"' => l.quoted false
  | c =>
    if c == '|' && !l.inFlow then l.block true
    else if c == '>' && !l.inFlow then l.block false
    else if l.startsPlain then l.plain
    else l.refuse

/-- The number of characters that are looked at where a token starts. -/
def lookahead : Nat := 4

/-- Read one token. In a text that ends where the file does not, a token needs some characters. -/
def step (complete : Bool) (l : Lexer) : Scan Lexer := do
  let l ← l.advance
  if ! complete && (l.rest.after lookahead).isEmpty then .error (l.spot.index + lookahead)
  else if l.rest.first == endMark then l.finish
  else if l.spot.column == 0 && l.rest.first == '%' then l.directive
  else if l.rest.isDocumentMark '-' then l.documentMark .documentStart
  else if l.rest.isDocumentMark '.' then l.documentMark .documentEnd
  else l.token

/-- The tokens that are known for good: those in front of the first candidate. -/
def settled (l : Lexer) : Scan (List Token) := do
  let l ← l.dropStale
  let known := l.candidates.foldl (fun n c => (c.map (·.position)).elim n (min n)) l.tokens.size
  return (l.tokens.extract 0 known).toList

/-- Read tokens until the text ends, `fuel` of them at most. Where the file does not end there,
`size` is the number of characters that are there, and the answer is what is known before the
reader needs more of them. -/
def run (size : Option Nat) : Nat → Lexer → Except Halt (List Token)
  | 0, _ => .error .malformed
  | fuel + 1, l =>
    let known : Except Halt (List Token) := l.settled.mapError fun _ => .malformed
    if l.finished then .ok l.tokens.toList
    else
      match l.step size.isNone with
      | .ok next => if size.any (· < next.spot.index + 2) then known else run size fuel next
      | .error place => if size.any (· ≤ place) then known else .error .malformed

end Lexer

/-- The tokens of a text, and if it is not `complete`, those that are known before more of it is
needed. Each token has a character of its own, and one more step ends the text. -/
def Token.scan (complete : Bool) (s : Source) : Except Halt (List Token) :=
  Lexer.run (if complete then none else some (s.length - 1)) (s.length + 2) (Lexer.start s)

end NorFlash.Yaml
