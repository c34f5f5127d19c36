import NorFlash.Text.Numeral
import NorFlash.Text.Printable

/-!
# Quoted text

How messages show a text so that its bounds and its characters can be seen: between single quotes,
or between double quotes where it holds a single quote and no double one, with escapes for the
quote, the backslash and the characters that are not printable.
-/

namespace NorFlash.Quoted

/-- The last `width` hexadecimal digits of a code point after an escape letter. -/
def escapeCode (letter : Char) (width : Nat) (c : Char) : List Char :=
  '\\' :: letter :: Numeral.zeroFill width (Numeral.hexDigits c.toNat)

/-- The escape of a character by its code point, in the shortest form that holds it. -/
def escapeWide (c : Char) : List Char :=
  if c.toNat < 0x100 then escapeCode 'x' 2 c
  else if c.toNat < 0x10000 then escapeCode 'u' 4 c
  else escapeCode 'U' 8 c

/-- A character between quotes. -/
def escape (quote c : Char) : List Char :=
  if c = quote ∨ c = '\\' then ['\\', c]
  else if c = '\t' then ['\\', 't']
  else if c = '\n' then ['\\', 'n']
  else if c = '\r' then ['\\', 'r']
  else if Printable.isPrintable c then [c]
  else escapeWide c

/-- The quote that a text is put between. -/
def quoteFor (cs : List Char) : Char :=
  if cs.contains '\'' && !cs.contains '"' then '"' else '\''

/-- The text between quotes. -/
def encode (cs : List Char) : List Char :=
  let quote := quoteFor cs
  quote :: cs.flatMap (escape quote) ++ [quote]

/-- The text between quotes. -/
def render (s : String) : String :=
  String.ofList (encode s.toList)

/-! ## ASCII escapes -/

/-- A character in ASCII: printable ones as they are, the backslash doubled, and others as
escapes. -/
def escapeAscii (c : Char) : List Char :=
  if c = '\\' then ['\\', '\\']
  else if c = '\t' then ['\\', 't']
  else if c = '\n' then ['\\', 'n']
  else if c = '\r' then ['\\', 'r']
  else if 0x20 ≤ c.toNat ∧ c.toNat < 0x7f then [c]
  else escapeWide c

/-- The ASCII form of a text as a byte string that is shown between quotes, so that the escapes are
escaped once more. -/
def renderBytes (s : String) : String :=
  let cs := s.toList.flatMap escapeAscii
  let quote := quoteFor cs
  String.ofList ('b' :: quote :: cs.flatMap (escape quote) ++ [quote])

/-! ## Bytes -/

/-- A byte between quotes: a printable ASCII character or an escape. -/
def escapeByte (quote : Char) (b : UInt8) : List Char :=
  let c := Char.ofNat b.toNat
  if b < 0x7f then escape quote c else escapeCode 'x' 2 c

/-- Bytes between quotes. -/
def renderOctets (bytes : List UInt8) : String :=
  let quote := quoteFor (bytes.map fun b => Char.ofNat b.toNat)
  String.ofList ('b' :: quote :: bytes.flatMap (escapeByte quote) ++ [quote])

end NorFlash.Quoted
