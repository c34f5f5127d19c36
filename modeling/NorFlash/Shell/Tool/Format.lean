import NorFlash.Shell.Tool.Echo
import NorFlash.Text.Numeral

/-!
# Formats

`Format.write` writes arguments in the form that a format asks for: characters as they are, escapes,
and conversions with flags, a width and a precision. The format is gone through again as long as it
uses arguments up and some are left.
-/

namespace NorFlash.Shell.Format

/-! ## Conversions -/

/-- How an argument is written. -/
structure Conversion where
  /-- The flags. -/
  flags : List Char
  /-- The least number of bytes. -/
  width : Nat
  /-- The most bytes of a text, or the least digits of a number. -/
  precision : Option Nat
  /-- What the argument is. -/
  letter : Char

/-- The bytes of an output and how it went. -/
structure Output where
  /-- The bytes. -/
  bytes : ByteArray
  /-- The status so far. -/
  status : Nat
  /-- Whether nothing is written any more. -/
  stopped : Bool

namespace Output

/-- The output with more bytes. -/
def add (o : Output) (bytes : ByteArray) : Output :=
  { o with bytes := o.bytes ++ bytes }

/-- The output that ends with a fault. -/
def refuse (o : Output) : Output :=
  { o with status := 2, stopped := true }

end Output

/-- The digits at the start of a text in the base that it names, as a number, and what follows. -/
def unsigned (cs : List Char) : Option Nat × List Char :=
  let digitsIn (base : Nat) (cs : List Char) : Option Nat × List Char :=
    let isDigit (c : Char) : Bool := (Numeral.digitValue? c).any (· < base)
    let digits := cs.takeWhile isDigit
    if digits = [] then (none, cs)
    else (some (digits.foldl (fun n c => n * base + (Numeral.digitValue? c).getD 0) 0),
      cs.drop digits.length)
  match cs with
  | '0' :: mark :: rest =>
    if mark = 'x' ∨ mark = 'X' then
      match digitsIn 16 rest with
      | (some n, after) => (some n, after)
      | (none, _) => (some 0, mark :: rest)
    else digitsIn 8 cs
  | _ => digitsIn 10 cs

/-- The number that an argument stands for between two limits, and whether it is faultless. -/
def number (low high : Int) (arg : String) : Int × Bool :=
  match arg.toList with
  | [] => (0, true)
  | '\'' :: c :: _ | '"' :: c :: _ =>
    (((String.singleton c).toUTF8.toList.head?.map UInt8.toNat).getD 0, true)
  | cs =>
    let cs := cs.dropWhile fun c => c = ' ' ∨ ('\t' ≤ c ∧ c ≤ '\r')
    let (negative, cs) := match cs with
      | '-' :: rest => (true, rest)
      | '+' :: rest => (false, rest)
      | _ => (false, cs)
    match unsigned cs with
    | (none, _) => (0, false)
    | (some n, rest) =>
      let value : Int := if negative then -n else n
      if value < low then (low, false)
      else if high < value then (high, false)
      else (value, rest.isEmpty)

/-- A text filled with blanks up to a width. -/
def pad (c : Conversion) (bytes : ByteArray) : ByteArray :=
  let blanks : ByteArray := ⟨(List.replicate (c.width - bytes.size) 0x20).toArray⟩
  if c.flags.contains '-' then bytes ++ blanks else blanks ++ bytes

/-- Digits with a sign in front of them, filled up to a width. -/
def padNumber (c : Conversion) (sign : String) (digits : List Char) : ByteArray :=
  let digits := Numeral.zeroFill (c.precision.getD 1) digits
  let digits := if c.precision = some 0 ∧ digits = ['0'] then [] else digits
  let digits :=
    if c.flags.contains '0' ∧ !c.flags.contains '-' ∧ c.precision = none then
      Numeral.zeroFill (c.width - sign.length) digits
    else digits
  pad c (sign ++ String.ofList digits).toUTF8

/-- An argument in the form that a conversion asks for. -/
def convert (c : Conversion) (arg : String) (o : Output) : Output :=
  let cut (bytes : ByteArray) : ByteArray :=
    match c.precision with
    | some n => bytes.extract 0 n
    | none => bytes
  let noted (faultless : Bool) (o : Output) : Output :=
    if faultless then o else { o with status := 1 }
  if c.letter = 's' then o.add (pad c (cut arg.toUTF8))
  else if c.letter = 'b' then
    let (bytes, more) := Tool.unescape (arg.length + 1) arg.toList ByteArray.empty
    { o.add (pad c (cut bytes)) with stopped := !more }
  else if c.letter = 'c' then
    o.add (pad c (if arg = "" then ⟨#[0]⟩ else arg.toUTF8.extract 0 1))
  else if c.letter = 'd' ∨ c.letter = 'i' then
    let (n, faultless) := number (-0x8000000000000000) 0x7fffffffffffffff arg
    let sign := if n < 0 then "-" else if c.flags.contains '+' then "+"
      else if c.flags.contains ' ' then " " else ""
    noted faultless (o.add (padNumber c sign (Nat.toDigits 10 n.natAbs)))
  else if "uxXo".toList.contains c.letter then
    let (n, faultless) := number (-0xffffffffffffffff) 0xffffffffffffffff arg
    let n := (n % 0x10000000000000000).toNat
    let marked := c.flags.contains '#' ∧ n ≠ 0
    let text :=
      if c.letter = 'u' then padNumber c "" (Nat.toDigits 10 n)
      else if c.letter = 'o' then
        padNumber c "" (if marked then '0' :: Nat.toDigits 8 n else Nat.toDigits 8 n)
      else if c.letter = 'x' then padNumber c (if marked then "0x" else "") (Nat.toDigits 16 n)
      else padNumber c (if marked then "0X" else "") ((Nat.toDigits 16 n).map Char.toUpper)
    noted faultless (o.add text)
  else o.refuse

/-! ## Formats -/

/-- A number in a conversion, which a star takes from the arguments, and what is left of both. -/
def size (cs : List Char) (args : List String) : Int × List Char × List String :=
  match cs with
  | '*' :: rest => ((number (-0x80000000) 0x7fffffff (args.head?.getD "")).1, rest, args.tail)
  | _ =>
    let digits := cs.takeWhile Char.isDigit
    (((String.ofList digits).toNat?.getD 0 : Nat), cs.drop digits.length, args)

/-- The conversion after a percent sign, and what is left of the format and of the arguments. -/
def conversion? (cs : List Char) (args : List String) :
    Option (Conversion × List Char × List String) :=
  let flags := cs.takeWhile "-+ #0".toList.contains
  let (width, cs, args) := size (cs.drop flags.length) args
  let flags := if width < 0 then '-' :: flags else flags
  let (precision, cs, args) : Option Int × List Char × List String :=
    match cs with
    | '.' :: rest =>
      let (n, rest, args) := size rest args
      (some n, rest, args)
    | _ => (none, cs, args)
  match cs with
  | letter :: rest =>
    some (⟨flags, width.natAbs, (precision.filter (0 ≤ ·)).map Int.toNat, letter⟩, rest, args)
  | [] => none

/-- Go once through a format. The answer is the output and the arguments that are left. -/
def once : Nat → List Char → List String → Output → Output × List String
  | 0, _, args, o => (o, args)
  | _, [], args, o => (o, args)
  | fuel + 1, '\\' :: c :: cs, args, o =>
    if '0' ≤ c ∧ c ≤ '7' then
      let (value, rest) := Tool.octal 3 0 (c :: cs)
      once fuel rest args (o.add ⟨#[UInt8.ofNat value]⟩)
    else
      match Tool.escaped? c with
      | some byte => once fuel cs args (o.add ⟨#[byte]⟩)
      | none => once fuel cs args (o.add (Tool.bytesOf ['\\', c]))
  | fuel + 1, '%' :: '%' :: cs, args, o => once fuel cs args (o.add (Tool.bytesOf ['%']))
  | fuel + 1, '%' :: cs, args, o =>
    match conversion? cs args with
    | some (c, rest, args) =>
      let o := convert c (args.head?.getD "") o
      if o.stopped then (o, args) else once fuel rest args.tail o
    | none => (o.refuse, args)
  | fuel + 1, c :: cs, args, o => once fuel cs args (o.add (Tool.bytesOf [c]))

/-- Go through a format until no arguments are left. -/
def rounds (format : List Char) : Nat → List String → Output → Output
  | 0, _, o => o
  | fuel + 1, args, o =>
    let (o, rest) := once (format.length + 1) format args o
    if !o.stopped ∧ rest ≠ [] ∧ rest.length < args.length then rounds format fuel rest o else o

/-- Write arguments in the form that a format asks for. There are no options. -/
def write : Tool := fun p args =>
  let isOption := args.head?.any fun arg => arg.startsWith "-" && arg ≠ "-" && arg ≠ "--"
  match if args.head? = some "--" then args.tail else if isOption then [] else args with
  | format :: rest =>
    let o := rounds format.toList (rest.length + 1) rest ⟨ByteArray.empty, 0, false⟩
    (o.status, p.write o.bytes)
  | [] => (2, p)

end NorFlash.Shell.Format
