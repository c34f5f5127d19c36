import NorFlash.Text.Utf8
import NorFlash.Yaml.Source
import NorFlash.Yaml.Token.Basic

/-!
# Names, tags and directives

The tokens that start with a mark of their own: the names of nodes, tags, and the directives in
front of a document. Each reader answers the token and what follows it.
-/

namespace NorFlash.Yaml

/-! ## Names of nodes -/

/-- Whether a name may end in front of a character. -/
def endsName (c : Char) : Bool :=
  isWordEnd c || ['?', ':', ',', ']', '\x7d', '%', '@', '\x60'].contains c

/-- The name after a mark. -/
def readName? (s : Source) : Option (String × Source) :=
  let name := (s.after 1).chars isNameChar
  let rest := (s.after 1).skip isNameChar
  if name ≠ [] ∧ endsName rest.first then some (String.ofList name, rest) else none

/-! ## Tags -/

/-- Whether a character may stand in a tag. -/
def isTagChar (c : Char) : Bool :=
  isNameChar c || [';', '/', '?', ':', '@', '&', '=', '+', '$', '.', '!', '~', '*', '\'', '(', ')',
    '%'].contains c

/-- Whether a character may stand in a tag between angle brackets or in a directive. -/
def isWideTagChar (c : Char) : Bool :=
  isTagChar c || [',', '[', ']'].contains c

/-- The bytes that the characters of a tag stand for: two hexadecimal digits after a percent sign
are a byte, and `skip` characters belong to such a byte. -/
def tagBytes? : Nat → List Char → Option (List UInt8)
  | _, [] => some []
  | skip + 1, _ :: cs => tagBytes? skip cs
  | 0, c :: cs =>
    if c = '%' then
      match cs with
      | high :: low :: _ => do
        let high ← Numeral.digitValue? high
        let low ← Numeral.digitValue? low
        return UInt8.ofNat (high * 16 + low) :: (← tagBytes? 2 cs)
      | _ => none
    else do return UInt8.ofNat c.toNat :: (← tagBytes? 0 cs)

/-- The text that the characters of a tag stand for. -/
def tagText? (cs : List Char) : Option String := do
  let bytes ← tagBytes? 0 cs
  let text := Utf8.read (ByteArray.mk bytes.toArray)
  if text.fault.isNone then some (String.ofList text.chars) else none

/-- The handle at the start of a tag: an exclamation mark, or a name between two of them. -/
def readHandle (s : Source) : List Char × Source :=
  let name := (s.after 1).chars isNameChar
  let rest := (s.after 1).skip isNameChar
  if rest.first == '!' then ('!' :: name ++ ['!'], rest.after 1) else ('!' :: name, rest)

/-- The tag between angle brackets. -/
def readVerbatim? (s : Source) : Option (Token × Source) := do
  let text := (s.after 2).chars isWideTagChar
  let rest := (s.after 2).skip isWideTagChar
  if text ≠ [] ∧ rest.first = '>' then
    return (.tag "" (← tagText? text), rest.after 1)
  else none

/-- The tag with a handle. A lone exclamation mark is a tag without a handle. -/
def readShorthand? (s : Source) : Option (Token × Source) := do
  let (handle, rest) := readHandle s
  let suffix := rest.chars isTagChar
  let after := rest.skip isTagChar
  if handle.getLast? = some '!' ∧ 1 < handle.length then
    if suffix = [] then none
    else return (.tag (String.ofList handle) (← tagText? suffix), after)
  else
    let suffix ← tagText? (handle.tail ++ suffix)
    return (if suffix.isEmpty then .tag "" "!" else .tag "!" suffix, after)

/-- The tag at the start of a text. -/
def readTag? (inFlow : Bool) (s : Source) : Option (Token × Source) := do
  let (token, rest) ← if s.ahead 1 == '<' then readVerbatim? s else readShorthand? s
  if isWordEnd rest.first || (inFlow && rest.first == ',') then some (token, rest) else none

/-! ## Directives -/

/-- The longest part of a version, in digits. -/
def maxVersionDigits : Nat := 9

/-- A part of a version. -/
def readVersionPart? (s : Source) : Option (Nat × Source) :=
  let digits := s.chars Char.isDigit
  if digits ≠ [] ∧ digits.length ≤ maxVersionDigits then
    some (digits.foldl (fun n c => n * 10 + (c.toNat - '0'.toNat)) 0, s.skip Char.isDigit)
  else none

/-- The version that a document is written in. -/
def readVersion? (s : Source) : Option (Token × Source) := do
  let (major, s) ← readVersionPart? (s.skip isBlank)
  if s.first = '.' then
    let (minor, s) ← readVersionPart? (s.after 1)
    return (.version major minor, s)
  else none

/-- A handle for tags and what it stands for. -/
def readTagHandle? (s : Source) : Option (Token × Source) := do
  let s := s.skip isBlank
  if s.first ≠ '!' then none
  let (handle, s) := readHandle s
  if handle.getLast? ≠ some '!' ∨ ! isBlank s.first then none
  let s := s.skip isBlank
  let start := s.chars isWideTagChar
  let rest := s.skip isWideTagChar
  if start ≠ [] ∧ isWordEnd rest.first then
    return (.tagHandle (String.ofList handle) (← tagText? start), rest)
  else none

/-- The directive on a line, with the line. -/
def readDirective? (s : Source) : Option (Token × Source) := do
  let name := (s.after 1).chars isNameChar
  let rest := (s.after 1).skip isNameChar
  if ! isWordEnd rest.first then none
  let (token, rest) ←
    if name = ['Y', 'A', 'M', 'L'] then readVersion? rest
    else if name = ['T', 'A', 'G'] then readTagHandle? rest
    else none
  return (token, ← rest.endOfLine?)

end NorFlash.Yaml
