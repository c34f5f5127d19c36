/-!
# Numerals

The written forms of integers that reports, messages and records use:

* `Numeral.decimal`, digits to base ten with a leading minus sign, of which there may not be more
  than `Numeral.maxDigits`;
* `Numeral.hex`, lower-case digits to base sixteen with a leading minus sign;
* `Numeral.hexPadded`, the same filled with zeros up to a width that counts the sign;
* `Numeral.upperByte`, the two upper-case digits of a byte.
-/

namespace NorFlash.Numeral

/-! ## Unsigned digits -/

/-- The lower-case hexadecimal digits of `n`, without leading zeros. -/
def hexDigits (n : Nat) : List Char :=
  Nat.toDigits 16 n

/-- `cs` filled with zeros on the left up to `width` characters. -/
def zeroFill (width : Nat) (cs : List Char) : List Char :=
  List.replicate (width - cs.length) '0' ++ cs

/-! ## Signed numerals -/

/-- The sign of a numeral: a minus sign below zero and nothing otherwise. -/
def sign (i : Int) : List Char :=
  if i < 0 then ['-'] else []

/-- The decimal form of `i`. -/
def decimal (i : Int) : String :=
  String.ofList (sign i ++ Nat.toDigits 10 i.natAbs)

/-- The most digits of a decimal form. -/
def maxDigits : Nat := 4300

/-- Whether an integer has a decimal form that is not too long. -/
def isWritable (i : Int) : Bool :=
  i.natAbs < Nat.pow 10 maxDigits

/-- What is said about an integer whose decimal form is too long. -/
def overlong : String :=
  "Exceeds the limit (" ++ decimal maxDigits ++ " digits) for integer string conversion"

/-- What is advised where a decimal form is too long. -/
def overlongAdvice : String :=
  "; use sys.set_int_max_str_digits() to increase the limit"

/-- The lower-case hexadecimal form of `i`. -/
def hex (i : Int) : String :=
  String.ofList (sign i ++ hexDigits i.natAbs)

/-- The hexadecimal form of `i` with zeros after the sign, at least `width` characters long in
all. -/
def hexPadded (width : Nat) (i : Int) : String :=
  String.ofList (sign i ++ zeroFill (width - (sign i).length) (hexDigits i.natAbs))

/-- An address as messages show it: eight hexadecimal characters or more after `0x`. -/
def address (i : Int) : String :=
  "0x" ++ hexPadded 8 i

/-! ## Bytes -/

/-- The upper-case hexadecimal digit of `d`, for `d < 16`. -/
def upperDigit (d : Nat) : Char :=
  if d < 10 then Char.ofNat (48 + d) else Char.ofNat (55 + d)

/-- The lower-case hexadecimal digit of `d`, for `d < 16`. -/
def lowerDigit (d : Nat) : Char :=
  if d < 10 then Char.ofNat (48 + d) else Char.ofNat (87 + d)

/-- The two lower-case hexadecimal digits of a byte. -/
def lowerByte (b : UInt8) : List Char :=
  [lowerDigit (b.toNat / 16), lowerDigit (b.toNat % 16)]

/-- The two upper-case hexadecimal digits of a byte. -/
def upperByte (b : UInt8) : List Char :=
  [upperDigit (b.toNat / 16), upperDigit (b.toNat % 16)]

/-- The value of a hexadecimal digit of either case. -/
def digitValue? (c : Char) : Option Nat :=
  if '0' ≤ c ∧ c ≤ '9' then some (c.toNat - 48)
  else if 'a' ≤ c ∧ c ≤ 'f' then some (c.toNat - 87)
  else if 'A' ≤ c ∧ c ≤ 'F' then some (c.toNat - 55)
  else none

/-- A hexadecimal digit is read back as what it was written for. -/
theorem digitValue?_upperDigit : ∀ d, d < 16 → digitValue? (upperDigit d) = some d := by
  decide

end NorFlash.Numeral
