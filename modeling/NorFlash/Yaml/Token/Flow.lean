import NorFlash.Text.Numeral
import NorFlash.Yaml.Source

/-!
# Scalars within lines

Plain and quoted scalars may go on over several lines. A `Gap` is the space between two of their
words: blanks are kept, one line end becomes a space, and of several line ends the first is dropped.
-/

namespace NorFlash.Yaml

/-! ## Gaps -/

/-- The space after a word. -/
inductive Gap where
  /-- None. -/
  | none
  /-- Blanks, the last one first. -/
  | blanks (cs : List Char)
  /-- Line ends: the first one, unless it was escaped, and those after it, the last one first. -/
  | breaks (leading : Option Char) (trailing : List Char)

namespace Gap

/-- The gap with one more blank or line end. A blank after a line end is indentation. -/
def add (c : Char) : Gap → Gap
  | none => if isBreak c then breaks (some (lineBreak c)) [] else blanks [c]
  | blanks cs => if isBreak c then breaks (some (lineBreak c)) [] else blanks (c :: cs)
  | breaks leading trailing =>
    if isBreak c then breaks leading (lineBreak c :: trailing) else breaks leading trailing

/-- The characters that a gap stands for, the last one first. -/
def folded : Gap → List Char
  | none => []
  | blanks cs => cs
  | breaks (some '\n') [] => [' ']
  | breaks (some '\n') trailing => trailing
  | breaks leading trailing => trailing ++ leading.toList

/-- Whether there is a gap. -/
def isSome : Gap → Bool
  | none => false
  | _ => true

/-- Whether a line ends in the gap. -/
def hasBreak : Gap → Bool
  | breaks _ _ => true
  | _ => false

end Gap

/-! ## Plain scalars -/

/-- A scalar and what follows it. -/
structure Scanned where
  /-- The text of the scalar. -/
  text : String
  /-- Whether a line ended after its last word. -/
  lineEnded : Bool
  /-- What follows. -/
  rest : Source

namespace Scanned

/-- A scalar that ends here, with its characters, the last one first. -/
def here (acc : List Char) (gap : Gap) (rest : Source) : Scanned :=
  ⟨String.ofList acc.reverse, gap.hasBreak, rest⟩

end Scanned

/-- The characters that end a plain scalar in a bracketed collection. -/
def isFlowMark (c : Char) : Bool :=
  c == ',' || c == '[' || c == ']' || c == '\x7b' || c == '\x7d'

/-- Whether a plain scalar ends in front of this. -/
def endsPlain (inFlow : Bool) (s : Source) : Bool :=
  let c := s.first
  c == endMark || (c == ':' && isWordEnd (s.ahead 1)) || (inFlow && isFlowMark c)

/-- Whether a colon in a bracketed collection stands directly before a mark, which is not allowed. -/
def isStrayColon (inFlow : Bool) (s : Source) : Bool :=
  inFlow && s.first == ':' && (isFlowMark (s.ahead 1) || s.ahead 1 == '?')

/-- Read on in a plain scalar whose lines are indented by `indent` at least, with the characters so
far, the last one first, and the gap after them. -/
def scanPlain (inFlow : Bool) (indent : Int) (acc : List Char) (gap : Gap) :
    Source → Scan Scanned
  | [] => .ok (.here acc gap [])
  | spot :: rest =>
    let s : Source := spot :: rest
    if isBlank spot.char || isBreak spot.char then
      if gap.hasBreak && spot.column < indent && spot.char == '\t' then .error spot.index
      else scanPlain inFlow indent acc (gap.add spot.char) rest
    else if gap.isSome && ((!inFlow && spot.column < indent) || s.isAnyDocumentMark
        || spot.char == '#') then
      .ok (.here acc gap s)
    else if isStrayColon inFlow s then .error (spot.index + 1)
    else if endsPlain inFlow s then .ok (.here acc gap s)
    else scanPlain inFlow indent (spot.char :: (gap.folded ++ acc)) .none rest

/-! ## Quoted scalars -/

/-- What an escape letter stands for. -/
def escape? (letter : Char) : Option Char :=
  [('0', '\x00'), ('a', '\x07'), ('b', '\x08'), ('t', '\t'), ('\t', '\t'), ('n', '\n'),
    ('v', '\x0b'), ('f', '\x0c'), ('r', '\r'), ('e', '\x1b'), (' ', ' '), ('"', '"'), ('/', '/'),
    ('\\', '\\'), ('N', '\x85'), ('_', '\xa0'), ('L', '\u2028'), ('P', '\u2029')].lookup letter

/-- The number of hexadecimal digits that follow an escape letter. -/
def escapeWidth? (letter : Char) : Option Nat :=
  [('x', 2), ('u', 4), ('U', 8)].lookup letter

/-- The character whose code point hexadecimal digits write. -/
def codePoint? (digits : List Char) : Option Char := do
  let values ← digits.mapM Numeral.digitValue?
  let n := values.foldl (fun n d => n * 16 + d) 0
  if n.isValidChar then some (Char.ofNat n) else none

/-- The character that an escape after a backslash stands for, and the length of the escape without
the backslash. -/
def readEscape? (s : Source) : Option (Char × Nat) :=
  match escape? s.first, escapeWidth? s.first with
  | some c, _ => some (c, 1)
  | none, some width =>
    (codePoint? (((s.after 1).take width).map Spot.char)).map fun c => (c, width + 1)
  | none, none => none

/-- The number of characters of an escape, without the backslash, that have to be looked at. -/
def escapeReach (s : Source) : Nat :=
  (escapeWidth? s.first).getD 0 + 1

/-- Read on in a scalar between single quotes or between double ones, with the characters so far,
the last one first, and the gap after them; `skip` characters belong to an escape that is already
read. -/
def scanQuoted (single : Bool) (skip : Nat) (acc : List Char) (gap : Gap) :
    Source → Scan Scanned
  | [] => .error 0
  | spot :: rest =>
    let s : Source := spot :: rest
    match skip with
    | skip + 1 => scanQuoted single skip acc gap rest
    | 0 =>
      if isBlank spot.char || isBreak spot.char then
        scanQuoted single 0 acc (gap.add spot.char) rest
      else if spot.char == endMark then .error spot.index
      else if gap.isSome && s.isAnyDocumentMark then .error (spot.index + 3)
      else
        let acc := gap.folded ++ acc
        if single && spot.char == '\'' then
          if s.ahead 1 == '\'' then scanQuoted single 1 ('\'' :: acc) .none rest
          else .ok (.here acc .none rest)
        else if !single && spot.char == '"' then .ok (.here acc .none rest)
        else if !single && spot.char == '\\' then
          if isBreak (s.ahead 1) then scanQuoted single 1 acc (.breaks none []) rest
          else
            match readEscape? rest with
            | some (c, length) => scanQuoted single length (c :: acc) .none rest
            | none => .error (spot.index + escapeReach rest)
        else scanQuoted single 0 (spot.char :: acc) .none rest

end NorFlash.Yaml
