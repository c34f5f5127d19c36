import NorFlash.Text.Numeral

/-!
# Named fields

The facts that a command answers, as named values in order, and `Fields.json?`, which writes them
as an object in ASCII.
-/

namespace NorFlash

/-- The value of a field. -/
inductive FieldValue where
  /-- No value. -/
  | null
  /-- An empty list. -/
  | noItems
  /-- A number. -/
  | number (value : Int)
  /-- A text. -/
  | text (value : String)
  deriving DecidableEq, Repr

/-- Values with their names. -/
abbrev Fields := List (String × FieldValue)

namespace Fields

/-! ## Texts -/

/-- A number of 16 bits as an escape. -/
def escapeUnit (n : Nat) : List Char :=
  '\\' :: 'u' :: Numeral.zeroFill 4 (Numeral.hexDigits n)

/-- The escape of a character: one number of 16 bits, or two where it needs more. -/
def escapeWide (c : Char) : List Char :=
  let n := c.toNat
  if n < 0x10000 then escapeUnit n
  else
    escapeUnit (0xd800 + (n - 0x10000) / 0x400) ++ escapeUnit (0xdc00 + (n - 0x10000) % 0x400)

/-- The letters of the short escapes. -/
def shortEscapes : List (Char × Char) :=
  [('"', '"'), ('\\', '\\'), ('\n', 'n'), ('\r', 'r'), ('\t', 't'), ('\x0c', 'f'), ('\x08', 'b')]

/-- A character of a text. -/
def escape (c : Char) : List Char :=
  match shortEscapes.lookup c with
  | some letter => ['\\', letter]
  | none => if ' ' ≤ c ∧ c ≤ '~' then [c] else escapeWide c

/-- A text between quotes. -/
def quote (s : String) : String :=
  String.ofList ('"' :: s.toList.flatMap escape ++ ['"'])

/-! ## Objects -/

/-- A value as it is written. -/
def valueText : FieldValue → String
  | .null => "null"
  | .noItems => "[]"
  | .number value => Numeral.decimal value
  | .text value => quote value

/-- Whether a value can be written. -/
def isWritable : FieldValue → Bool
  | .number value => Numeral.isWritable value
  | _ => true

/-- The fields as an object. -/
def objectText (fields : Fields) : String :=
  "\x7b" ++ ", ".intercalate (fields.map fun f => quote f.1 ++ ": " ++ valueText f.2) ++ "\x7d"

/-- The fields as an object, unless a number among them is too long to be written. -/
def json? (fields : Fields) : Option String :=
  if fields.all fun f => isWritable f.2 then some fields.objectText else none

end Fields

end NorFlash
