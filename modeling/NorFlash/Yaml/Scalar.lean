import NorFlash.Text.Base64
import NorFlash.Text.IntegerLiteral
import NorFlash.Text.Lowercase
import NorFlash.Text.Utf8
import NorFlash.Yaml.Atom
import NorFlash.Yaml.Tag

/-!
# Scalars

`Scalar.atom` is the value of a scalar with a tag, or the `Fault` of a text that the tag does not
allow. A plain scalar has a tag that fits its form, so that few faults are left for it: digits that
no calendar has, and marks of a base without digits.
-/

namespace NorFlash.Yaml

/-! ## Faults -/

/-- Why a document has no value. -/
inductive Fault where
  /-- The bytes are no text. -/
  | encoding (fault : Utf8Fault)
  /-- The text is no document. -/
  | malformed
  /-- A text has no digits in a base. -/
  | notInteger (base : Nat) (text : String)
  /-- An integer has too many digits. -/
  | tooManyDigits (count : Nat)
  /-- An integer is too long to be shown. -/
  | longInteger
  /-- A number has no characters. -/
  | noCharacters
  /-- A power of sixty is too large for a number with a fraction. -/
  | wideSixtieth
  /-- A text is no number with a fraction. -/
  | notFloat (text : String)
  /-- A text is no truth value. -/
  | notBool (text : String)
  /-- A text is no date or time. -/
  | notTimestamp
  /-- A collection stands for a date or a time. -/
  | compoundTimestamp
  /-- Mappings lead to other mappings, for a text or for entries, too often to be followed. -/
  | tooManyLevels
  /-- Collections stand within each other too deeply to be shown. -/
  | tooDeep
  /-- Digits are no date or time. -/
  | timestamp (fault : TimestampFault)

namespace Fault

/-- The most characters that are shown of a text which is no integer. -/
def shownLength : Nat := 200

/-- The fault in words. -/
def message : Fault → String
  | encoding fault => fault.message
  | malformed => "<yaml error>"
  | notInteger base text =>
    "invalid literal for int() with base " ++ Numeral.decimal base ++ ": "
      ++ String.ofList ((Quoted.render text).toList.take shownLength)
  | tooManyDigits count =>
    Numeral.overlong ++ ": value has " ++ Numeral.decimal count ++ " digits"
      ++ Numeral.overlongAdvice
  | longInteger => Numeral.overlong ++ Numeral.overlongAdvice
  | noCharacters => "string index out of range"
  | wideSixtieth => "int too large to convert to float"
  | notFloat text => "could not convert string to float: " ++ Quoted.render text
  | notBool text => Quoted.render text
  | notTimestamp => "'NoneType' object has no attribute 'groupdict'"
  | compoundTimestamp => "expected string or bytes-like object, got 'list'"
  | tooManyLevels => "maximum recursion depth exceeded"
  | tooDeep => "maximum recursion depth exceeded while getting the repr of an object"
  | timestamp fault => fault.message

end Fault

namespace Scalar

/-! ## Numbers -/

/-- The characters without the underscores. -/
def withoutUnderscores (s : String) : List Char :=
  s.toList.filter (· ≠ '_')

/-- Whether a number is negative, and its characters without the sign. -/
def splitSign : List Char → Bool × List Char
  | '-' :: cs => (true, cs)
  | '+' :: cs => (false, cs)
  | cs => (false, cs)

/-- The integer that digits in a base stand for. -/
def digitsOf (base : Nat) (cs : List Char) : Except Fault Int :=
  match IntegerLiteral.readIn? base cs with
  | none => .error (.notInteger base (String.ofList cs))
  | some i =>
    let count := (cs.filter fun c => (IntegerLiteral.digit? c).isSome).length
    if base = 10 ∧ Numeral.maxDigits < count then .error (.tooManyDigits count) else .ok i

/-- The integer that a text without a sign stands for. Digits between colons are in base sixty. -/
def magnitudeOf (cs : List Char) : Except Fault Int :=
  match cs with
  | [] => .error .noCharacters
  | ['0'] => .ok 0
  | '0' :: 'b' :: digits => digitsOf 2 digits
  | '0' :: 'x' :: digits => digitsOf 16 digits
  | '0' :: _ => digitsOf 8 cs
  | _ =>
    match cs.splitOn ':' with
    | [digits] => digitsOf 10 digits
    | parts => do
      return (← parts.mapM (digitsOf 10)).foldl (fun acc digit => acc * 60 + digit) 0

/-- The integer that a text stands for. -/
def integerOf (s : String) : Except Fault Int := do
  let cs := withoutUnderscores s
  if cs = [] then throw .noCharacters
  let (negative, body) := splitSign cs
  let i ← magnitudeOf body
  return if negative then -i else i

/-- The digits at the start, as a number, with their count and what follows them. -/
def digitRun (cs : List Char) : Nat × Nat × List Char :=
  let digits := cs.takeWhile fun c => (Digit.value? c).isSome
  (digits.foldl (fun n c => n * 10 + (Digit.value? c).getD 0) 0, digits.length,
    cs.drop digits.length)

/-- The exponent at the end of a number. -/
def exponentOf? (cs : List Char) : Option Int :=
  match cs with
  | [] => some 0
  | e :: rest =>
    if e = 'e' then
      let (negative, digits) := splitSign rest
      let (n, count, rest) := digitRun digits
      if 0 < count ∧ rest = [] then some (if negative then -(n : Int) else n) else none
    else none

/-- The number that a text in base ten stands for, with small letters only. -/
def floatOf? (cs : List Char) : Option Binary64 :=
  let (negative, body) := splitSign (IntegerLiteral.trim cs)
  if body = "inf".toList ∨ body = "infinity".toList then some (.infinite negative)
  else if body = "nan".toList then some .notANumber
  else
    let (whole, wholeCount, rest) := digitRun body
    let (part, partCount, rest) := match rest with
      | '.' :: rest => digitRun rest
      | _ => (0, 0, rest)
    if wholeCount + partCount = 0 then none
    else (exponentOf? rest).map fun exponent =>
      .ofDecimal negative (whole * Nat.pow 10 partCount + part) (exponent - partCount)

/-- The number that a text in base ten stands for, or the fault. -/
def decimalOf (cs : List Char) : Except Fault Binary64 :=
  match floatOf? cs with
  | some x => .ok x
  | none => .error (.notFloat (String.ofList cs))

/-- The sum of digits in base sixty, the last one first, the first of which counts `unit`. -/
def sixtieths (sum : Binary64) (unit : Nat) : List Binary64 → Except Fault Binary64
  | [] => .ok sum
  | digit :: rest =>
    match Binary64.ofNat? unit with
    | some factor => sixtieths (sum.add (digit.mul factor)) (unit * 60) rest
    | none => .error .wideSixtieth

/-- The number that a text without a sign stands for. Digits between colons are in base sixty, and
are added up from the last ones on. -/
def floatMagnitudeOf (cs : List Char) : Except Fault Binary64 :=
  if cs = ".inf".toList then .ok (.infinite false)
  else
    match cs.splitOn ':' with
    | [digits] => decimalOf digits
    | parts => do sixtieths (.ofDecimal false 0 0) 1 (← parts.mapM decimalOf).reverse

/-- The number with a fraction that a text stands for. -/
def floatOf (s : String) : Except Fault Atom := do
  let cs := (Lowercase.ofText (String.ofList (withoutUnderscores s))).toList
  if cs = [] then throw .noCharacters
  let (negative, body) := splitSign cs
  if body = ".nan".toList then return .nan
  let x ← floatMagnitudeOf body
  return .float (if negative then x.neg else x)

/-! ## All scalars -/

/-- The truth value that a text stands for, in letters of any case. -/
def boolOf (s : String) : Except Fault Bool :=
  let lower := Lowercase.ofText s
  match Tag.truths.lookup lower with
  | some b => .ok b
  | none => .error (.notBool lower)

/-- The date or time that a text stands for. -/
def timestampOf (s : String) : Except Fault Timestamp :=
  match Timestamp.parts? s.toList with
  | some p => (Timestamp.ofParts p).mapError .timestamp
  | none => .error .notTimestamp

/-- The bytes that a text stands for. -/
def binaryOf (s : String) : Except Fault (List UInt8) :=
  if s.toList.all fun c => c.toNat < 0x80 then
    match Base64.decode? s.toList with
    | some bytes => .ok bytes
    | none => .error .malformed
  else .error .malformed

/-- The value of a scalar. -/
def atom (tag : Tag) (s : String) : Except Fault Atom :=
  match tag with
  | .null => .ok .null
  | .bool => (boolOf s).map .bool
  | .integer => (integerOf s).map .integer
  | .float => floatOf s
  | .binary => (binaryOf s).map .binary
  | .timestamp => (timestampOf s).map .timestamp
  | .text => .ok (.text s)
  | .orderedMap | .pairs | .set | .list | .map | .merge | .whole | .unknown => .error .malformed

end Scalar

end NorFlash.Yaml
