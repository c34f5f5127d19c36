import NorFlash.Text.Numeral

/-!
# Binary floating point

A `Binary64` is a number of double precision: a mantissa of 53 bits times a power of two, an
infinity or no number. `Binary64.ofRatio` is the one nearest to a ratio, `add` and `mul` are exact
up to one such rounding, and `Binary64.render` writes the shortest decimal that reads back.
-/

namespace NorFlash

/-- A number of double precision. -/
inductive Binary64 where
  /-- A mantissa times a power of two. -/
  | finite (negative : Bool) (mantissa : Nat) (exponent : Int)
  /-- Beyond all finite numbers. -/
  | infinite (negative : Bool)
  /-- No number. -/
  | notANumber
  deriving DecidableEq, Repr

namespace Binary64

/-! ## Rounding -/

/-- The least exponent. -/
def minExponent : Int := -1074

/-- The greatest exponent. -/
def maxExponent : Int := 971

/-- The first number that is too large for a mantissa. -/
def mantissaBound : Nat := 0x20000000000000

/-- The ratio `num / den` in units of `2 ^ exponent`, as a ratio again. -/
def inUnits (num den : Nat) (exponent : Int) : Nat × Nat :=
  if 0 ≤ exponent then (num, den * Nat.pow 2 exponent.toNat)
  else (num * Nat.pow 2 (-exponent).toNat, den)

/-- The integer nearest to a ratio; of two the even one. -/
def nearest (num den : Nat) : Nat :=
  let q := num / den
  let twice := 2 * (num % den)
  if twice < den then q
  else if den < twice then q + 1
  else q + q % 2

/-- The least exponent for which the mantissa of `num / den` is not too large. -/
def exponentOf (num den : Nat) : Int :=
  let e := max ((num.log2 : Int) - den.log2 - 53) minExponent
  let (n, d) := inUnits num den e
  if n / d < mantissaBound then e else e + 1

/-- The number nearest to `num / den`. -/
def ofRatio (negative : Bool) (num den : Nat) : Binary64 :=
  let e := exponentOf num den
  let (n, d) := inUnits num den e
  let m := nearest n d
  let (m, e) := if m = mantissaBound then (m / 2, e + 1) else (m, e)
  if maxExponent < e then infinite negative else finite negative m e

/-- More decimal places than any finite number has before or after the point. -/
def decimalRange : Int := 400

/-- The number nearest to `digits * 10 ^ exponent`. -/
def ofDecimal (negative : Bool) (digits : Nat) (exponent : Int) : Binary64 :=
  let places := (Nat.toDigits 10 digits).length
  if digits = 0 then finite negative 0 minExponent
  else if decimalRange < places + exponent then infinite negative
  else if places + exponent < -decimalRange then finite negative 0 minExponent
  else if 0 ≤ exponent then ofRatio negative (digits * Nat.pow 10 exponent.toNat) 1
  else ofRatio negative digits (Nat.pow 10 (-exponent).toNat)

/-! ## Arithmetic -/

/-- The number with the other sign. -/
def neg : Binary64 → Binary64
  | finite negative m e => finite (!negative) m e
  | infinite negative => infinite (!negative)
  | notANumber => notANumber

/-- A finite number as a multiple of the least positive one. -/
def multiple (negative : Bool) (mantissa : Nat) (exponent : Int) : Int :=
  let n : Int := mantissa * Nat.pow 2 (exponent - minExponent).toNat
  if negative then -n else n

/-- The number nearest to a multiple of the least positive one. -/
def ofMultiple (n : Int) : Binary64 :=
  ofRatio (decide (n < 0)) n.natAbs (Nat.pow 2 (-minExponent).toNat)

/-- The number nearest to a sum. -/
def add : Binary64 → Binary64 → Binary64
  | notANumber, _ | _, notANumber => notANumber
  | infinite a, infinite b => if a = b then infinite a else notANumber
  | infinite a, _ | _, infinite a => infinite a
  | finite a m e, finite b n f => ofMultiple (multiple a m e + multiple b n f)

/-- The number nearest to a natural number, unless that is too large. -/
def ofNat? (n : Nat) : Option Binary64 :=
  match ofRatio false n 1 with
  | infinite _ => none
  | x => some x

/-- The number nearest to a product. -/
def mul : Binary64 → Binary64 → Binary64
  | notANumber, _ | _, notANumber => notANumber
  | infinite a, infinite b => infinite (a != b)
  | infinite a, finite b n _ | finite b n _, infinite a =>
    if n = 0 then notANumber else infinite (a != b)
  | finite a m e, finite b n f =>
    if m = 0 ∨ n = 0 then finite (a != b) 0 minExponent
    else if 0 ≤ e + f then ofRatio (a != b) (m * n * Nat.pow 2 (e + f).toNat) 1
    else ofRatio (a != b) (m * n) (Nat.pow 2 (-(e + f)).toNat)

/-- The greatest natural number that is not greater than a number which is finite and not
negative. -/
def floor : Binary64 → Nat
  | finite _ m e => if 0 ≤ e then m * Nat.pow 2 e.toNat else m / Nat.pow 2 (-e).toNat
  | _ => 0

/-- Whether a number is the integer `i`. -/
def isInteger (x : Binary64) (i : Int) : Bool :=
  match x with
  | finite negative m e => multiple negative m e == i * Nat.pow 2 (-minExponent).toNat
  | _ => false

/-- Whether two numbers are equal. Zero has two signs, and no number is equal to nothing. -/
def equals : Binary64 → Binary64 → Bool
  | finite a m e, finite b n f => multiple a m e == multiple b n f
  | infinite a, infinite b => a == b
  | _, _ => false

/-! ## Shortest decimals -/

/-- A decimal: digits and the place of the point, counted from before the first digit. -/
structure Decimal where
  /-- The digits as one number. -/
  digits : Nat
  /-- The power of ten of the last digit. -/
  exponent : Int
  deriving DecidableEq, Repr

/-- A ratio in units of `10 ^ exponent`, as a ratio again. -/
def inTens (num den : Nat) (exponent : Int) : Nat × Nat :=
  if 0 ≤ exponent then (num, den * Nat.pow 10 exponent.toNat)
  else (num * Nat.pow 10 (-exponent).toNat, den)

/-- The number of decimal places before the point of `num / den`, negative for zeros after it. -/
def placesOf (num den : Nat) : Int :=
  if den ≤ num then (Nat.toDigits 10 (num / den)).length
  else
    match (List.range decimalRange.toNat).find? fun k => den ≤ num * Nat.pow 10 (k + 1) with
    | some k => -(k : Int)
    | none => -decimalRange

/-- Whether `d` units of `10 ^ exponent` round to the number with mantissa `m` and exponent `e`:
whether they lie no farther than halfway to its neighbours. -/
def roundsTo (m : Nat) (e : Int) (d : Nat) (exponent : Int) : Bool :=
  let (n, q) :=
    if 0 ≤ exponent then (d * Nat.pow 10 exponent.toNat, 1)
    else (d, Nat.pow 10 (-exponent).toNat)
  ofRatio false n q == finite false m e

/-- The decimal with `count` digits that is nearest to a number and rounds to it. -/
def withDigits? (m : Nat) (e : Int) (count : Nat) : Option Decimal :=
  let (num, den) := if 0 ≤ e then (m * Nat.pow 2 e.toNat, 1) else (m, Nat.pow 2 (-e).toNat)
  let exponent := placesOf num den - count
  let (n, d) := inTens num den exponent
  let below := n / d
  let first := nearest n d
  let second := if first = below then below + 1 else below
  if roundsTo m e first exponent then some ⟨first, exponent⟩
  else if roundsTo m e second exponent then some ⟨second, exponent⟩
  else none

/-- The shortest decimal that rounds to a number which is not zero; of two the nearer one. -/
def shortest (m : Nat) (e : Int) : Decimal :=
  ((List.range 17).findSome? fun count => withDigits? m e (count + 1)).getD ⟨0, 0⟩

/-! ## Written form -/

/-- Zeros at the end of the digits are no digits of the shortest decimal. -/
def trimZeros (digits : List Char) : List Char :=
  (digits.reverse.dropWhile (· == '0')).reverse

/-- The least place of the point for which a number is written without an exponent. -/
def minPlaces : Int := -3

/-- The greatest place of the point for which a number is written without an exponent. -/
def maxPlaces : Int := 16

/-- The exponent as it is written: a sign and two digits or more. -/
def exponentText (e : Int) : List Char :=
  (if e < 0 then '-' else '+') :: Numeral.zeroFill 2 (Nat.toDigits 10 e.natAbs)

/-- Digits with a point after `places` of them, or with an exponent where they are far from it. -/
def renderDigits (digits : List Char) (places : Int) : List Char :=
  if minPlaces ≤ places ∧ places ≤ maxPlaces then
    if places ≤ 0 then
      '0' :: '.' :: List.replicate (-places).toNat '0' ++ digits
    else
      let whole := digits.take places.toNat
      let padding := List.replicate (places.toNat - digits.length) '0'
      let part := digits.drop places.toNat
      whole ++ padding ++ '.' :: (if part = [] then ['0'] else part)
  else
    let part := digits.tail
    digits.take 1 ++ (if part = [] then [] else '.' :: part) ++ 'e' :: exponentText (places - 1)

/-- The shortest decimal that reads back as the number. -/
def render : Binary64 → String
  | notANumber => "nan"
  | infinite negative => if negative then "-inf" else "inf"
  | finite negative m e =>
    let body :=
      if m = 0 then ['0', '.', '0']
      else
        let decimal := shortest m e
        let digits := Nat.toDigits 10 decimal.digits
        renderDigits (trimZeros digits) (digits.length + decimal.exponent)
    String.ofList (if negative then '-' :: body else body)

end Binary64

end NorFlash
