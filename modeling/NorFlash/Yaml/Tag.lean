import NorFlash.Yaml.Timestamp

/-!
# Tags

A `Tag` tells what kind of value a node stands for. `Tag.ofName` reads a tag that is written out,
and `Tag.ofPlain` finds the tag of a plain scalar by its form.
-/

namespace NorFlash.Yaml

/-- The kind of value that a node stands for. -/
inductive Tag where
  /-- No value. -/
  | null
  /-- A truth value. -/
  | bool
  /-- An integer. -/
  | integer
  /-- A number with a fraction. -/
  | float
  /-- Bytes. -/
  | binary
  /-- A date or a time. -/
  | timestamp
  /-- A list of pairs without repeated keys. -/
  | orderedMap
  /-- A list of pairs. -/
  | pairs
  /-- A set. -/
  | set
  /-- A text. -/
  | text
  /-- A list. -/
  | list
  /-- A mapping. -/
  | map
  /-- The key whose value is merged into the mapping. -/
  | merge
  /-- The key of the value that stands for the whole mapping. -/
  | whole
  /-- Any other kind. -/
  | unknown
  deriving DecidableEq, Repr

namespace Tag

/-- The start of the names of the tags that have a meaning. -/
def commonStart : String := "tag:yaml.org,2002:"

/-- The tags that have a meaning, with the ends of their names. -/
def common : List (String × Tag) :=
  [("null", null), ("bool", bool), ("int", integer), ("float", float), ("binary", binary),
    ("timestamp", timestamp), ("omap", orderedMap), ("pairs", pairs), ("set", set), ("str", text),
    ("seq", list), ("map", map), ("merge", merge), ("value", whole)]

/-- The tag with a name. -/
def ofName (name : String) : Tag :=
  match common.find? fun entry => commonStart ++ entry.1 == name with
  | some entry => entry.2
  | none => unknown

/-! ## Forms -/

/-- The characters without a sign in front. -/
def unsigned : List Char → List Char
  | '+' :: cs => cs
  | '-' :: cs => cs
  | cs => cs

/-- Whether all characters are digits or underscores and there is one at least. -/
def areDigits (isDigit : Char → Bool) (cs : List Char) : Bool :=
  !cs.isEmpty && cs.all fun c => isDigit c || c == '_'

/-- Whether a character is a hexadecimal digit. -/
def isHexDigit (c : Char) : Bool :=
  c.isDigit || ('a' ≤ c && c ≤ 'f') || ('A' ≤ c && c ≤ 'F')

/-- Whether the characters are digits and underscores of which the first is a digit. -/
def isNumber (cs : List Char) : Bool :=
  (cs.head?.any Char.isDigit) && areDigits Char.isDigit cs

/-- Whether the characters are one digit, or two of which the first is less than six. -/
def isSixtieth : List Char → Bool
  | [c] => c.isDigit
  | [c, d] => '0' ≤ c && c ≤ '5' && d.isDigit
  | _ => false

/-- Whether the characters are an integer: in base two, eight, ten or sixteen, or in base sixty
with colons between the digits. -/
def isInteger (cs : List Char) : Bool :=
  match unsigned cs with
  | '0' :: 'b' :: digits => areDigits (fun c => c == '0' || c == '1') digits
  | '0' :: 'x' :: digits => areDigits isHexDigit digits
  | ['0'] => true
  | '0' :: digits => areDigits (fun c => '0' ≤ c && c ≤ '7') digits
  | digits =>
    match digits.splitOn ':' with
    | number :: sixtieths => isNumber number && sixtieths.all isSixtieth
    | [] => false

/-- Whether the characters are an exponent or nothing. -/
def isExponent : List Char → Bool
  | [] => true
  | e :: sign :: digits =>
    (e == 'e' || e == 'E') && (sign == '+' || sign == '-') && !digits.isEmpty
      && digits.all Char.isDigit
  | _ => false

/-- Whether the characters are a number with a fraction: with a point, in base ten or sixty, or an
infinity, or the text that stands for no number. -/
def isFloat (cs : List Char) : Bool :=
  let whole := (unsigned cs).takeWhile (· ≠ '.')
  let part := (unsigned cs).dropWhile (· ≠ '.')
  let fraction := part.tail.takeWhile fun c => c.isDigit || c == '_'
  let rest := part.tail.dropWhile fun c => c.isDigit || c == '_'
  if part.isEmpty then false
  else if whole.isEmpty then
    ["inf", "Inf", "INF"].any (·.toList == part.tail)
      || [".nan", ".NaN", ".NAN"].any (·.toList == cs)
      || (cs.head? == some '.' && isNumber fraction && isExponent rest)
  else
    match whole.splitOn ':' with
    | [number] => isNumber number && isExponent rest
    | number :: sixtieths => isNumber number && sixtieths.all isSixtieth && rest.isEmpty
    | [] => false

/-- The texts that stand for no value. -/
def nulls : List String := ["", "~", "null", "Null", "NULL"]

/-- The texts that stand for a truth value, with the value. -/
def truths : List (String × Bool) :=
  [("yes", true), ("Yes", true), ("YES", true), ("no", false), ("No", false), ("NO", false),
    ("true", true), ("True", true), ("TRUE", true), ("false", false), ("False", false),
    ("FALSE", false), ("on", true), ("On", true), ("ON", true), ("off", false), ("Off", false),
    ("OFF", false)]

/-- The tag of a text by its form. -/
def ofForm (s : String) : Tag :=
  if truths.any (·.1 == s) then bool
  else if isFloat s.toList then float
  else if isInteger s.toList then integer
  else if s == "<<" then merge
  else if nulls.contains s then null
  else if Timestamp.isWritten s.toList then timestamp
  else if s == "=" then whole
  else text

/-- The tag of a plain scalar. A line feed may follow all forms but the empty one. -/
def ofPlain (s : String) : Tag :=
  if s == "\n" then text else ofForm (String.ofList (Timestamp.withoutLineFeed s.toList))

end Tag

end NorFlash.Yaml
