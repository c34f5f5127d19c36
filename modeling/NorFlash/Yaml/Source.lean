/-!
# Source text of documents

A `Source` is the rest of a document's text, each character with the place it stands at, and an end
mark behind the last one. `Source.ofText?` refuses text with characters that no document may hold.
-/

namespace NorFlash.Yaml

/-- Why reading a text stops before its end. -/
inductive Halt where
  /-- The text is that of no document. -/
  | malformed
  /-- More of the text is needed than is there. -/
  | unread
  deriving DecidableEq, Repr

/-- The outcome of looking for something in a text. If it is not there, the number of characters is
told in front of the place up to which the text was looked at. -/
abbrev Scan := Except Nat

/-! ## Characters -/

/-- The character that stands behind the text. -/
def endMark : Char := '\x00'

/-- The mark of the byte order, which may start a line. -/
def byteOrderMark : Char := '\ufeff'

/-- Whether a document may hold a character. -/
def isAllowed (c : Char) : Bool :=
  let n := c.toNat
  c == '\t' || c == '\n' || c == '\r' || (0x20 ≤ n && n ≤ 0x7e) || n == 0x85
    || (0xa0 ≤ n && n ≤ 0xd7ff) || (0xe000 ≤ n && n ≤ 0xfffd) || 0x10000 ≤ n

/-- Whether a character ends a line. -/
def isBreak (c : Char) : Bool :=
  c == '\n' || c == '\x85' || c == '\u2028' || c == '\u2029'

/-- Whether a character is a space or a tab. -/
def isBlank (c : Char) : Bool :=
  c == ' ' || c == '\t'

/-- Whether a character ends a line or the text. -/
def isLineEnd (c : Char) : Bool :=
  isBreak c || c == endMark

/-- Whether a character ends a word, a line or the text. -/
def isWordEnd (c : Char) : Bool :=
  isBlank c || isLineEnd c

/-- Whether a character may stand in the name of an anchor or of a tag handle. -/
def isNameChar (c : Char) : Bool :=
  c.isAlphanum || c == '_' || c == '-'

/-- The character that a line end stands for within a scalar. -/
def lineBreak (c : Char) : Char :=
  if c == '\x85' then '\n' else c

/-! ## Places -/

/-- A character and the place it stands at. -/
structure Spot where
  /-- The character. -/
  char : Char
  /-- The number of characters before it. -/
  index : Nat
  /-- The number of lines before it. -/
  line : Nat
  /-- The number of characters before it in its line. -/
  column : Nat
  deriving DecidableEq, Repr

/-- The rest of a text. -/
abbrev Source := List Spot

namespace Source

/-- Characters with their places, behind those already placed, the last one first; the place of the
next character is given. The result has its last character first too. -/
def placeOnto (acc : Source) (index line column : Nat) : List Char → Source
  | [] => ⟨endMark, index, line, column⟩ :: acc
  | c :: cs =>
    if isBreak c then placeOnto (⟨c, index, line, column⟩ :: acc) (index + 1) (line + 1) 0 cs
    else placeOnto (⟨c, index, line, column⟩ :: acc) (index + 1) line (column + 1) cs

/-- The source of a text. One byte order mark in front of it does not belong to it. -/
def ofText (cs : List Char) : Source :=
  (placeOnto [] 0 0 0 (if cs.head? = some byteOrderMark then cs.tail else cs)).reverse

/-- The source of a text whose characters are all allowed. -/
def ofText? (cs : List Char) : Option Source :=
  if cs.all isAllowed then some (ofText cs) else none

/-- The first character with its place. -/
def spot (s : Source) : Spot :=
  s.head?.getD ⟨endMark, 0, 0, 0⟩

/-- What follows the first `n` characters. -/
def after (n : Nat) (s : Source) : Source :=
  s.drop n

/-- The first character. -/
def first (s : Source) : Char :=
  (spot s).char

/-- The character after the first `n` ones. -/
def ahead (n : Nat) (s : Source) : Char :=
  first (s.after n)

/-- The characters at the start that pass a test. -/
def chars (p : Char → Bool) (s : Source) : List Char :=
  (s.takeWhile fun spot => p spot.char).map Spot.char

/-- What follows the characters at the start that pass a test. -/
def skip (p : Char → Bool) (s : Source) : Source :=
  s.dropWhile fun spot => p spot.char

/-- Whether a line starts here with a mark between documents: three times the character `c`. -/
def isDocumentMark (c : Char) (s : Source) : Bool :=
  (spot s).column == 0 && first s == c && ahead 1 s == c && ahead 2 s == c && isWordEnd (ahead 3 s)

/-- Whether a line starts here with one of the marks between documents. -/
def isAnyDocumentMark (s : Source) : Bool :=
  isDocumentMark '-' s || isDocumentMark '.' s

/-- The number of characters in front of the end of the line. -/
def lineEnd (s : Source) : Nat :=
  (spot (skip (fun c => !isLineEnd c) s)).index

/-- Something on a line, which was looked at up to its end if it is not there. -/
def onLine (s : Source) (found : Option α) : Scan α :=
  match found with
  | some a => .ok a
  | none => .error s.lineEnd

/-- What follows the rest of a line, which may hold blanks and a comment only, and its end. -/
def endOfLine? (s : Source) : Option Source :=
  let s := skip isBlank s
  let s := if first s == '#' then skip (fun c => !isLineEnd c) s else s
  if isBreak (first s) then some (s.after 1)
  else if first s == endMark then some s
  else none

end Source

end NorFlash.Yaml
