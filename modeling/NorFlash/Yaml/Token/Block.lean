import NorFlash.Yaml.Source

/-!
# Block scalars

A block scalar is made of the lines that are indented more than what holds it. Its head tells
whether lines are folded, how far they are indented and what happens to line ends behind the last
one.
-/

namespace NorFlash.Yaml

/-- What happens to the line ends behind the last line. -/
inductive Chomping where
  /-- They are dropped. -/
  | strip
  /-- One of them is kept. -/
  | clip
  /-- All are kept. -/
  | keep
  deriving DecidableEq, Repr

/-- The head of a block scalar. -/
structure BlockHead where
  /-- What happens to the line ends behind the last line. -/
  chomping : Chomping
  /-- The indentation of the lines beyond that of what holds them; zero if the first line tells. -/
  increment : Nat

namespace BlockHead

/-- The chomping that a character asks for. -/
def chomping? (c : Char) : Option Chomping :=
  if c == '+' then some .keep else if c == '-' then some .strip else none

/-- The indentation that a character asks for. -/
def increment? (c : Char) : Option Nat :=
  if '1' ≤ c ∧ c ≤ '9' then some (c.toNat - '0'.toNat) else none

/-- The head at the start of a text, and what follows its marks. -/
def read (s : Source) : BlockHead × Source :=
  match chomping? s.first, increment? s.first with
  | some chomping, _ =>
    match increment? (s.ahead 1) with
    | some increment => (⟨chomping, increment⟩, s.after 2)
    | none => (⟨chomping, 0⟩, s.after 1)
  | none, some increment =>
    match chomping? (s.ahead 1) with
    | some chomping => (⟨chomping, increment⟩, s.after 2)
    | none => (⟨.clip, increment⟩, s.after 1)
  | none, none => (⟨.clip, 0⟩, s)

end BlockHead

/-- The lines without text in front of the first one: the greatest indentation found, their line
ends, the last one first, and what follows. With `indent` zero all spaces are indentation. -/
def leadingLines (indent deepest : Nat) (breaks : List Char) :
    Source → Scan (Nat × List Char × Source)
  | [] => .ok (deepest, breaks, [])
  | spot :: rest =>
    let inside := indent == 0 || spot.column < indent
    if inside && spot.char == ' ' then leadingLines indent deepest breaks rest
    else if inside && spot.char == '\t' then .error spot.index
    else if isBreak spot.char then
      leadingLines indent (max deepest spot.column) (lineBreak spot.char :: breaks) rest
    else .ok (max deepest spot.column, breaks, spot :: rest)

/-- The text of a block scalar as far as it was read. -/
structure BlockText where
  /-- The characters, the last one first. -/
  chars : List Char
  /-- The line end behind the last line with text. -/
  leading : List Char
  /-- The line ends behind that, the last one first. -/
  trailing : List Char
  /-- Whether the last line with text starts with a blank. -/
  startsBlank : Bool

namespace BlockText

/-- The text with the line ends before a line that starts with the character `c`. Where lines are
folded a single line end between lines that start with no blank becomes a space. -/
def startLine (literal : Bool) (c : Char) (t : BlockText) : BlockText :=
  let joined :=
    if !literal && t.leading == ['\n'] && !t.startsBlank && !isBlank c then
      if t.trailing.isEmpty then ' ' :: t.chars else t.trailing ++ t.chars
    else t.trailing ++ (t.leading ++ t.chars)
  ⟨joined, [], [], isBlank c⟩

/-- The text with its last line ends as the head asks for. -/
def finish (chomping : Chomping) (t : BlockText) : String :=
  String.ofList <| List.reverse <|
    match chomping with
    | .strip => t.chars
    | .clip => t.leading ++ t.chars
    | .keep => t.trailing ++ (t.leading ++ t.chars)

end BlockText

/-- Read on in a block scalar whose lines are indented by `indent`; `inLine` tells whether the text
of a line was started. -/
def scanLines (literal : Bool) (indent : Nat) (inLine : Bool) (t : BlockText) :
    Source → Scan (BlockText × Source)
  | [] => .ok (t, [])
  | spot :: rest =>
    if inLine then
      if spot.char == endMark then .ok (t, spot :: rest)
      else if isBreak spot.char then
        scanLines literal indent false { t with leading := [lineBreak spot.char] } rest
      else scanLines literal indent true { t with chars := spot.char :: t.chars } rest
    else if spot.column < indent && spot.char == ' ' then scanLines literal indent false t rest
    else if spot.column < indent && spot.char == '\t' then .error spot.index
    else if isBreak spot.char then
      scanLines literal indent false { t with trailing := lineBreak spot.char :: t.trailing } rest
    else if spot.column == indent && spot.char != endMark then
      let t := t.startLine literal spot.char
      scanLines literal indent true { t with chars := spot.char :: t.chars } rest
    else .ok (t, spot :: rest)

/-- Read a block scalar after its first mark, in a collection indented by `parent`. -/
def scanBlock (literal : Bool) (parent : Int) (s : Source) : Scan (String × Source) := do
  let (head, s) := BlockHead.read s
  let s ← s.onLine s.endOfLine?
  let asked := if head.increment = 0 then 0 else (max parent 0).toNat + head.increment
  let (deepest, breaks, s) ← leadingLines asked 0 [] s
  let indent := if asked = 0 then max (max deepest (parent + 1).toNat) 1 else asked
  let (t, s) ← scanLines literal indent false ⟨[], [], breaks, false⟩ s
  return (t.finish head.chomping, s)

end NorFlash.Yaml
