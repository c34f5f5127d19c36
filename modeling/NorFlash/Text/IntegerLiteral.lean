import NorFlash.Text.Digit
import NorFlash.Text.Numeral

/-!
# Integer literals

The integers that a command line accepts: blanks around a sign and digits, with single underscores
between the digits. `IntegerLiteral.read?` takes the base from a leading `0x`, `0o` or `0b`, and
`IntegerLiteral.readDecimal?` reads base ten only.
-/

namespace NorFlash.IntegerLiteral

/-- The text without the blanks around it. -/
def trim (cs : List Char) : List Char :=
  ((cs.dropWhile Digit.isBlank).reverse.dropWhile Digit.isBlank).reverse

/-- The value of a digit, of any script up to nine and then a letter of either case. -/
def digit? (c : Char) : Option Nat :=
  (Digit.value? c).or (Numeral.digitValue? c)

/-- Whether a character is the digit zero of some script. -/
def isZero (c : Char) : Bool :=
  Digit.value? c == some 0

/-- Read digits in a base, of which `acc` was read before; `after` tells whether the last character
was a digit. Underscores stand between two digits. -/
def digitsFrom? (base : Nat) : Bool → Nat → List Char → Option Nat
  | after, acc, [] => if after then some acc else none
  | after, acc, c :: cs =>
    if c = '_' then
      if after then digitsFrom? base false acc cs else none
    else
      match digit? c with
      | some d => if d < base then digitsFrom? base true (acc * base + d) cs else none
      | none => none

/-- Read digits in a base. -/
def digits? (base : Nat) (cs : List Char) : Option Nat :=
  digitsFrom? base false 0 cs

/-- Read digits in base ten, not more than are allowed. -/
def decimalDigits? (cs : List Char) : Option Nat :=
  if Numeral.maxDigits < (cs.filter (· ≠ '_')).length then none else digits? 10 cs

/-- Read digits after a base mark, which one underscore may follow. -/
def marked? (base : Nat) (cs : List Char) : Option Nat :=
  match cs with
  | '_' :: rest => digits? base rest
  | _ => digits? base cs

/-- Read digits in the base that they name; without a mark only zero may start with a zero. -/
def magnitude? (cs : List Char) : Option Nat :=
  match cs with
  | zero :: mark :: rest =>
    if isZero zero then
      if mark = 'x' ∨ mark = 'X' then marked? 16 rest
      else if mark = 'o' ∨ mark = 'O' then marked? 8 rest
      else if mark = 'b' ∨ mark = 'B' then marked? 2 rest
      else (decimalDigits? cs).filter (· == 0)
    else decimalDigits? cs
  | _ => decimalDigits? cs

/-- Read a sign and a magnitude. -/
def signed? (magnitude : List Char → Option Nat) (cs : List Char) : Option Int :=
  match cs with
  | '-' :: rest => (magnitude rest).map fun n => -(n : Int)
  | '+' :: rest => (magnitude rest).map Int.ofNat
  | _ => (magnitude cs).map Int.ofNat

/-- The integer a literal stands for, in the base that it names. -/
def read? (s : String) : Option Int :=
  signed? magnitude? (trim s.toList)

/-- The integer a literal in base ten stands for. -/
def readDecimal? (s : String) : Option Int :=
  signed? decimalDigits? (trim s.toList)

/-! ## A given base -/

/-- The letter of a mark for a base. -/
def markOf? (base : Nat) : Option Char :=
  if base = 16 then some 'x' else if base = 8 then some 'o' else if base = 2 then some 'b' else none

/-- Read digits in a base, whose mark may stand in front of them. -/
def magnitudeIn? (base : Nat) (cs : List Char) : Option Nat :=
  match cs with
  | zero :: mark :: rest =>
    if isZero zero && (markOf? base).any (fun letter => mark == letter || mark == letter.toUpper) then
      marked? base rest
    else digits? base cs
  | _ => digits? base cs

/-- The integer a literal in a given base stands for, however long it is. -/
def readIn? (base : Nat) (cs : List Char) : Option Int :=
  signed? (magnitudeIn? base) (trim cs)

end NorFlash.IntegerLiteral
