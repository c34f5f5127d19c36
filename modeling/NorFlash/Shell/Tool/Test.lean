import NorFlash.Shell.Tool.Options

/-!
# Tests

The program that looks at files, texts and numbers and succeeds where what its arguments say of them
is so.
-/

namespace NorFlash.Shell

namespace Tool

/-- Whether the entry at a path passes a test. -/
def entryIs (p : Process) (path : String) (f : Node → Bool) : Bool :=
  (p.tree.test p.directory path f).toOption = some true

/-- Whether the entry at a path, which may be a link, passes a test. -/
def entryItselfIs (p : Process) (path : String) (f : Node → Bool) : Bool :=
  match p.tree.find p.directory false path with
  | .ok loc => (p.tree.get? loc).any f
  | .error _ => false

/-- The operators with one operand. -/
def unaryOperators : List String :=
  ["-n", "-z", "-e", "-f", "-d", "-r", "-w", "-x", "-s", "-h", "-L", "-b", "-c", "-p", "-S", "-g",
    "-u", "-k", "-O", "-G", "-t"]

/-- The operators between two operands. -/
def binaryOperators : List String :=
  ["=", "!=", "<", ">", "-eq", "-ne", "-lt", "-le", "-gt", "-ge", "-nt", "-ot", "-ef"]

/-- A test with one operand. -/
def unaryTest (p : Process) (operator operand : String) : Bool :=
  let hasBit (bit : Nat) := entryIs p operand fun node => node.mode &&& bit ≠ 0
  match operator with
  | "-n" => operand ≠ ""
  | "-z" => operand = ""
  | "-e" | "-r" | "-w" | "-O" | "-G" => entryIs p operand fun _ => true
  | "-f" => entryIs p operand Node.isFile
  | "-d" => entryIs p operand Node.isDirectory
  | "-x" => entryIs p operand fun node => node.isDirectory || node.mode &&& 0o111 ≠ 0
  | "-s" => entryIs p operand fun
      | .file _ content => content.size ≠ 0
      | _ => true
  | "-h" | "-L" => entryItselfIs p operand fun
      | .link _ => true
      | _ => false
  | "-u" => hasBit 0o4000
  | "-g" => hasBit 0o2000
  | "-k" => hasBit 0o1000
  | _ => false

/-- The number that a text stands for. -/
def integer? (text : String) : Option Int :=
  let isBlank (c : Char) : Bool := c = ' ' ∨ ('\t' ≤ c ∧ c ≤ '\r')
  let cs := ((text.toList.dropWhile isBlank).reverse.dropWhile isBlank).reverse
  let (negative, digits) := match cs with
    | '-' :: digits => (true, digits)
    | '+' :: digits => (false, digits)
    | digits => (false, digits)
  (String.ofList digits).toNat?.bind fun n =>
    if digits.all Char.isDigit then some (if negative then -n else n) else none

/-- A test between two operands; none where they are no numbers and have to be. -/
def binaryTest (p : Process) (left operator right : String) : Option Bool :=
  let numbers (f : Int → Int → Bool) : Option Bool := do
    return f (← integer? left) (← integer? right)
  match operator with
  | "=" => some (left = right)
  | "!=" => some (left ≠ right)
  | "<" => some (left < right)
  | ">" => some (right < left)
  | "-eq" => numbers fun m n => m = n
  | "-ne" => numbers fun m n => m ≠ n
  | "-lt" => numbers fun m n => m < n
  | "-le" => numbers fun m n => m ≤ n
  | "-gt" => numbers fun m n => m > n
  | "-ge" => numbers fun m n => m ≥ n
  | _ =>
    let found (path : String) := (p.tree.find p.directory true path).toOption
    some (operator = "-ef" && (found left).isSome && found left = found right)

/-- Whether a word that looks like an operator with one operand is an operand itself. -/
def isOperand (rest : List String) : Bool :=
  match rest with
  | [] => true
  | [_] => false
  | next :: _ => binaryOperators.contains next

/-- The value of a test and the words after it; none where the words are no test. -/
abbrev Tested := Option (Bool × List String)

mutual

/-- A test, or one of some tests. -/
def anyTest (p : Process) : Nat → List String → Tested
  | 0, _ => none
  | fuel + 1, args => do
    let (first, rest) ← allTests p fuel args
    match rest with
    | "-o" :: rest => do
      let (second, rest) ← anyTest p fuel rest
      some (first || second, rest)
    | _ => some (first, rest)

/-- A test, or all of some tests. -/
def allTests (p : Process) : Nat → List String → Tested
  | 0, _ => none
  | fuel + 1, args => do
    let (first, rest) ← oneTest p fuel args
    match rest with
    | "-a" :: rest => do
      let (second, rest) ← allTests p fuel rest
      some (first && second, rest)
    | _ => some (first, rest)

/-- A single test. -/
def oneTest (p : Process) : Nat → List String → Tested
  | 0, _ => none
  | _, [] => some (false, [])
  | fuel + 1, word :: rest =>
    if word = "!" ∧ !isOperand rest then do
      let (value, rest) ← oneTest p fuel rest
      some (!value, rest)
    else if word = "(" ∧ rest ≠ [] then
      if rest.head? = some ")" then some (false, rest.tail)
      else do
        let (value, rest) ← anyTest p fuel rest
        if rest.head? = some ")" then some (value, rest.tail) else none
    else if unaryOperators.contains word ∧ !isOperand rest then
      match rest with
      | operand :: rest => some (unaryTest p word operand, rest)
      | [] => none
    else
      match rest with
      | operator :: others =>
        if binaryOperators.contains operator then
          match others with
          | right :: others => (binaryTest p word operator right).map (·, others)
          | [] => none
        else some (word ≠ "", rest)
      | [] => some (word ≠ "", [])

end

/-- Whether a test succeeds; none where its arguments are no test. Three or four words are looked at
as a whole first. -/
def evaluate? (p : Process) : Nat → List String → Option Bool
  | 0, _ => none
  | _, [] => some false
  | fuel + 1, [left, operator, right] =>
    if binaryOperators.contains operator then binaryTest p left operator right
    else if left = "(" ∧ right = ")" then some (operator ≠ "")
    else if left = "!" then (evaluate? p fuel [operator, right]).map (! ·)
    else parsed [left, operator, right]
  | fuel + 1, [first, second, third, fourth] =>
    if first = "(" ∧ fourth = ")" then parsed [second, third]
    else if first = "!" then (evaluate? p fuel [second, third, fourth]).map (! ·)
    else parsed [first, second, third, fourth]
  | _ + 1, args => parsed args
where
  /-- The value of words that are a test up to their end. -/
  parsed (args : List String) : Option Bool :=
    match anyTest p (4 * args.length + 4) args with
    | some (value, []) => some value
    | _ => none

/-- Succeed if a test does. -/
def test : Tool := fun p args =>
  match evaluate? p 3 args with
  | some true => (0, p)
  | some false => (1, p)
  | none => (2, p)

/-- Succeed if a test between brackets does. -/
def bracket : Tool := fun p args =>
  match args.reverse with
  | "]" :: rest => test p rest.reverse
  | _ => (2, p)

end Tool

end NorFlash.Shell
