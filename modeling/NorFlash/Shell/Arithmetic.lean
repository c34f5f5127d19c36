import NorFlash.Shell.Process
import NorFlash.Shell.Token
import NorFlash.Text.Numeral

/-!
# Arithmetic expressions

`Arithmetic.evaluate` computes the value of an expression between double brackets: integers of 64
bits, variables, assignments, and operators with the ranks that they have in C.
-/

namespace NorFlash.Shell

/-- An expression over integers. -/
inductive Arithmetic where
  /-- An integer. -/
  | number (n : Int)
  /-- The value of a variable. -/
  | parameter (name : String)
  /-- An operator in front of an expression. -/
  | unary (sign : String) (body : Arithmetic)
  /-- An operator between two expressions. -/
  | binary (sign : String) (left right : Arithmetic)
  /-- One of two expressions by the value of a third one. -/
  | choice (condition yes no : Arithmetic)
  /-- A variable is given a value, which an operator may make of the one it has. -/
  | assign (name sign : String) (body : Arithmetic)
  deriving Repr

namespace Arithmetic

/-! ## Reading -/

/-- A part of an expression. -/
inductive Lexeme where
  /-- An integer. -/
  | number (n : Int)
  /-- The name of a variable. -/
  | name (text : String)
  /-- An operator or a bracket. -/
  | sign (text : String)
  deriving DecidableEq, Repr

/-- The integer that a text stands for: digits in base ten, in base sixteen after `0x`, or in base
eight after a zero. -/
def integer? (text : String) : Option Int :=
  let signless := if text.startsWith "-" ∨ text.startsWith "+" then text.toList.tail else text.toList
  let inBase (base : Nat) (digits : List Char) : Option Int :=
    if digits = [] then none
    else digits.foldlM (fun (n : Int) c => do
      let d ← Numeral.digitValue? c
      if d < base then some (n * base + d) else none) 0
  let value := match signless with
    | '0' :: 'x' :: digits | '0' :: 'X' :: digits => inBase 16 digits
    | '0' :: digit :: digits => inBase 8 (digit :: digits)
    | digits => inBase 10 digits
  value.map fun n => if text.startsWith "-" then -n else n

/-- The operators of more than one character, the longest ones first. -/
def longSigns : List String :=
  ["<<=", ">>=", "<<", ">>", "<=", ">=", "==", "!=", "&&", "||", "+=", "-=", "*=", "/=", "%=", "&=",
    "|=", "^="]

/-- The parts of an expression. -/
def lexemes? : Nat → List Char → Option (List Lexeme)
  | 0, _ => none
  | _, [] => some []
  | fuel + 1, c :: cs =>
    if c = ' ' ∨ c = '\t' ∨ c = '\n' then lexemes? fuel cs
    else if c.isDigit then do
      let text := c :: cs.takeWhile Char.isAlphanum
      let n ← integer? (String.ofList text)
      return .number n :: (← lexemes? fuel (cs.dropWhile Char.isAlphanum))
    else if Token.isNameStart c then do
      let text := c :: cs.takeWhile Token.isNameChar
      return .name (String.ofList text) :: (← lexemes? fuel (cs.dropWhile Token.isNameChar))
    else do
      let text := (longSigns.find? fun s => s.toList.isPrefixOf (c :: cs)).getD (String.singleton c)
      return .sign text :: (← lexemes? fuel (cs.drop (text.length - 1)))

/-- The operators between two expressions by their rank, the weakest ones first. -/
def ranks : List (List String) :=
  [["||"], ["&&"], ["|"], ["^"], ["&"], ["==", "!="], ["<", ">", "<=", ">="], ["<<", ">>"],
    ["+", "-"], ["*", "/", "%"]]

/-- The operators that assign. -/
def assignments : List String :=
  ["=", "+=", "-=", "*=", "/=", "%=", "&=", "|=", "^=", "<<=", ">>="]

/-- An expression and the parts after it. -/
abbrev Parsed := Option (Arithmetic × List Lexeme)

mutual

/-- Read an assignment, or a choice. -/
def whole : Nat → List Lexeme → Parsed
  | 0, _ => none
  | fuel + 1, parts =>
    let choice := do
      let (condition, rest) ← ranked fuel ranks parts
      match rest with
      | .sign "?" :: rest => do
        let (yes, rest) ← whole fuel rest
        match rest with
        | .sign ":" :: rest => do
          let (no, rest) ← whole fuel rest
          some (.choice condition yes no, rest)
        | _ => none
      | _ => some (condition, rest)
    match parts with
    | .name name :: .sign sign :: rest =>
      if assignments.contains sign then do
        let (body, rest) ← whole fuel rest
        some (.assign name (sign.dropEnd 1).toString body, rest)
      else choice
    | _ => choice

/-- Read expressions joined by operators of some ranks. -/
def ranked : Nat → List (List String) → List Lexeme → Parsed
  | 0, _, _ => none
  | fuel + 1, [], parts => single fuel parts
  | fuel + 1, signs :: ranks, parts => do
    let (first, rest) ← ranked fuel ranks parts
    joined fuel signs ranks first rest

/-- Read the expressions after the first one. -/
def joined : Nat → List String → List (List String) → Arithmetic → List Lexeme → Parsed
  | 0, _, _, _, _ => none
  | fuel + 1, signs, ranks, first, .sign sign :: rest =>
    if signs.contains sign then do
      let (second, rest) ← ranked fuel ranks rest
      joined fuel signs ranks (.binary sign first second) rest
    else some (first, .sign sign :: rest)
  | _, _, _, first, rest => some (first, rest)

/-- Read an expression without an operator behind it. -/
def single : Nat → List Lexeme → Parsed
  | 0, _ => none
  | _ + 1, .number n :: rest => some (.number n, rest)
  | _ + 1, .name name :: rest => some (.parameter name, rest)
  | fuel + 1, .sign "(" :: rest => do
    let (body, rest) ← whole fuel rest
    match rest with
    | .sign ")" :: rest => some (body, rest)
    | _ => none
  | fuel + 1, .sign sign :: rest =>
    if ["-", "+", "!", "~"].contains sign then do
      let (body, rest) ← single fuel rest
      some (.unary sign body, rest)
    else none
  | _, _ => none

end

/-- The expression that a text is. -/
def parse? (text : List Char) : Option Arithmetic := do
  let parts ← lexemes? (text.length + 1) text
  match whole (16 * parts.length + 32) parts with
  | some (body, []) => some body
  | _ => none

/-! ## Values -/

/-- How many integers there are of 64 bits. -/
def wordCount : Nat := 0x10000000000000000

/-- An integer in 64 bits. -/
def wrap (n : Int) : Int :=
  n.bmod wordCount

/-- A truth value as an integer. -/
def truth (b : Bool) : Int :=
  if b then 1 else 0

/-- What an operator makes of two integers. Nothing is divided by zero. -/
def combine? (sign : String) (m n : Int) : Option Int :=
  let bits (f : Nat → Nat → Nat) : Int := f (m % wordCount).toNat (n % wordCount).toNat
  match sign with
  | "+" => some (m + n)
  | "-" => some (m - n)
  | "*" => some (m * n)
  | "/" => if n = 0 then none else some (m.tdiv n)
  | "%" => if n = 0 then none else some (m.tmod n)
  | "<<" => some (m * Nat.pow 2 (n % 64).toNat)
  | ">>" => some (m / Nat.pow 2 (n % 64).toNat)
  | "&" => some (bits (· &&& ·))
  | "|" => some (bits (· ||| ·))
  | "^" => some (bits (· ^^^ ·))
  | "==" => some (truth (m = n))
  | "!=" => some (truth (m ≠ n))
  | "<" => some (truth (m < n))
  | ">" => some (truth (m > n))
  | "<=" => some (truth (m ≤ n))
  | ">=" => some (truth (m ≥ n))
  | _ => none

/-- What an operator makes of one integer. -/
def combineOne (sign : String) (n : Int) : Int :=
  match sign with
  | "-" => -n
  | "!" => truth (n = 0)
  | "~" => -n - 1
  | _ => n

/-- The value of a variable, which is zero where there is none. -/
def valueOf (name : String) : Run Int := do
  match (← get).valueOf? name with
  | none | some "" => return 0
  | some text =>
    match integer? text with
    | some n => return wrap n
    | none => Run.fault

/-- The value of an expression. -/
def value : Arithmetic → Run Int
  | number n => return wrap n
  | parameter name => valueOf name
  | unary sign body => return wrap (combineOne sign (← value body))
  | binary "&&" left right => do
    if (← value left) = 0 then return 0
    return truth ((← value right) ≠ 0)
  | binary "||" left right => do
    if (← value left) ≠ 0 then return 1
    return truth ((← value right) ≠ 0)
  | binary sign left right => do
    let m ← value left
    let n ← value right
    match combine? sign m n with
    | some result => return wrap result
    | none => Run.fault
  | choice condition yes no => do
    if (← value condition) ≠ 0 then value yes else value no
  | assign name sign body => do
    let n ← value body
    let result ← if sign = "" then pure (some n) else do
      let m ← valueOf name
      pure (combine? sign m n)
    match result with
    | some result =>
      modify (·.assign name (Numeral.decimal (wrap result)))
      return wrap result
    | none => Run.fault

/-- The value of the expression that a text is. -/
def evaluate (text : List Char) : Run Int :=
  match parse? text with
  | some body => value body
  | none => Run.fault

end Arithmetic

end NorFlash.Shell
