import NorFlash.FileTree.Basic

/-!
# Patterns

A `Pattern` says what a text looks like: characters as they are, any character, any characters, or
one of some characters. `Pattern.accepts` tells whether a text does. A pattern is written as a row of
`Glyph`s, of which only those that are not quoted are special; it is matched byte by byte.
-/

namespace NorFlash.Shell

/-- A character of a word and whether it was quoted. -/
structure Glyph where
  /-- The character. -/
  char : Char
  /-- Whether it was quoted. -/
  quoted : Bool
  deriving DecidableEq, Repr

namespace Glyph

/-- The glyphs of characters. -/
def ofChars (quoted : Bool) (cs : List Char) : List Glyph :=
  cs.map (⟨·, quoted⟩)

/-- The text of glyphs. -/
def text (glyphs : List Glyph) : String :=
  String.ofList (glyphs.map (·.char))

/-- The bytes of a text, each as the character of its number. -/
def octets (text : String) : List Char :=
  text.toUTF8.toList.map fun b => Char.ofNat b.toNat

/-- Glyphs for the bytes of glyphs. -/
def inBytes (glyphs : List Glyph) : List Glyph :=
  glyphs.flatMap fun g => ofChars g.quoted (octets (String.singleton g.char))

/-- Whether a glyph is a special character. -/
def isSign (c : Char) (g : Glyph) : Bool :=
  g.char == c && !g.quoted

/-- Divide glyphs at the separators of a path. -/
def components (glyphs : List Glyph) : List (List Glyph) :=
  glyphs.splitOnP (·.char == '/')

end Glyph

/-- What stands at a place of a pattern. -/
inductive PatternElement where
  /-- A character. -/
  | char (c : Char)
  /-- Any character. -/
  | anyChar
  /-- Any characters, or none. -/
  | anyText
  /-- One of the characters of some ranges, or one that is in none of them. -/
  | range (negated : Bool) (ranges : List (Char × Char))
  deriving DecidableEq, Repr

/-- What a text looks like. -/
abbrev Pattern := List PatternElement

namespace Pattern

/-! ## Reading -/

/-- The characters that have a name as a class. -/
def classes : List (String × List (Char × Char)) :=
  [("alnum", [('0', '9'), ('A', 'Z'), ('a', 'z')]), ("alpha", [('A', 'Z'), ('a', 'z')]),
    ("blank", [(' ', ' '), ('\t', '\t')]), ("cntrl", [('\x00', '\x1f'), ('\x7f', '\x7f')]),
    ("digit", [('0', '9')]), ("graph", [('!', '~')]), ("lower", [('a', 'z')]),
    ("print", [(' ', '~')]), ("punct", [('!', '/'), (':', '@'), ('[', '\x60'), ('\x7b', '~')]),
    ("space", [('\t', '\r'), (' ', ' ')]), ("upper", [('A', 'Z')]),
    ("xdigit", [('0', '9'), ('A', 'F'), ('a', 'f')])]

/-- The class that glyphs name at their start, and how many of them name it. -/
def classAt? (glyphs : List Glyph) : Option (List (Char × Char) × Nat) :=
  classes.findSome? fun (name, found) =>
    let mark := ("[:" ++ name ++ ":]").toList
    if (Glyph.ofChars false mark).isPrefixOf glyphs then some (found, mark.length) else none

/-- The ranges up to a closing bracket, and how many glyphs they and the bracket are: single
characters, two with a dash between them, and classes. A bracket that comes first is one of the
characters. -/
def ranges? : Nat → Bool → List Glyph → Option (List (Char × Char) × Nat)
  | 0, _, _ | _, _, [] => none
  | fuel + 1, isFirst, g :: rest =>
    let next (found : List (Char × Char)) (count : Nat) : Option (List (Char × Char) × Nat) :=
      (ranges? fuel false ((g :: rest).drop count)).map fun (others, n) =>
        (found ++ others, count + n)
    if g.isSign ']' ∧ !isFirst then some ([], 1)
    else
      match classAt? (g :: rest), rest with
      | some (found, count), _ => next found count
      | none, dash :: high :: _ =>
        if dash.isSign '-' ∧ !high.isSign ']' then next [(g.char, high.char)] 3
        else next [(g.char, g.char)] 1
      | none, _ => next [(g.char, g.char)] 1

/-- The element that an opening bracket begins, and how many glyphs behind the bracket belong to
it. -/
def bracket? (glyphs : List Glyph) : Option (PatternElement × Nat) :=
  let negated := glyphs.head?.any fun g => g.isSign '!' || g.isSign '^'
  let inner := if negated then glyphs.tail else glyphs
  (ranges? inner.length true inner).map fun (found, count) =>
    (.range negated found, if negated then count + 1 else count)

/-- The pattern that is written as glyphs, the first `skip` of which belong to an element before. -/
def ofGlyphs : Nat → List Glyph → Pattern
  | _, [] => []
  | skip + 1, _ :: rest => ofGlyphs skip rest
  | 0, g :: rest =>
    if g.isSign '*' then .anyText :: ofGlyphs 0 rest
    else if g.isSign '?' then .anyChar :: ofGlyphs 0 rest
    else
      match if g.isSign '[' then bracket? rest else none with
      | some (element, count) => element :: ofGlyphs count rest
      | none => .char g.char :: ofGlyphs 0 rest

/-- The pattern that is written as glyphs. It speaks of the bytes of texts. -/
def ofText (glyphs : List Glyph) : Pattern :=
  ofGlyphs 0 (Glyph.inBytes glyphs)

/-- Whether anything in a pattern is special. -/
def isSpecial (pattern : Pattern) : Bool :=
  pattern.any fun
    | .char _ => false
    | _ => true

/-! ## Texts -/

/-- A text and what is left of it when characters are taken away at its start. -/
def suffixes : List Char → List (List Char)
  | [] => [[]]
  | c :: cs => (c :: cs) :: suffixes cs

/-- Whether a text looks as a pattern says. -/
def accepts : Pattern → List Char → Bool
  | [], text => text.isEmpty
  | .anyText :: rest, text => (suffixes text).any (accepts rest)
  | _ :: _, [] => false
  | .char c :: rest, d :: text => c == d && accepts rest text
  | .anyChar :: rest, _ :: text => accepts rest text
  | .range negated ranges :: rest, c :: text =>
    (ranges.any fun r => r.1 ≤ c && c ≤ r.2) != negated && accepts rest text

/-- The length of the shortest or the longest start of a text that looks as a pattern says. -/
def startLength? (longest : Bool) (pattern : Pattern) (text : List Char) : Option Nat :=
  let lengths := List.range (text.length + 1)
  (if longest then lengths.reverse else lengths).find? fun n => accepts pattern (text.take n)

/-- The length of the shortest or the longest end of a text that looks as a pattern says. -/
def endLength? (longest : Bool) (pattern : Pattern) (text : List Char) : Option Nat :=
  let lengths := List.range (text.length + 1)
  (if longest then lengths.reverse else lengths).find? fun n =>
    accepts pattern (text.drop (text.length - n))

/-! ## Names -/

/-- The names of the entries of a directory, in order. -/
def namesIn (t : FileTree) (loc : Location) : List String :=
  let names := t.entries.filterMap fun entry =>
    if entry.1.length = loc.length + 1 ∧ loc.isPrefixOf entry.1 then entry.1.getLast? else none
  names.mergeSort fun a b => decide (a ≤ b)

/-- Whether a name looks as a pattern says. A dot at its start has to be given. -/
def acceptsName (pattern : Pattern) (name : String) : Bool :=
  accepts pattern (Glyph.octets name)
    && (name.toList.head? != some '.' || pattern.head? == some (.char '.'))

end Pattern

end NorFlash.Shell
