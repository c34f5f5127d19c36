import NorFlash.FileTree.Lookup
import NorFlash.Shell.Arithmetic
import NorFlash.Shell.Pattern
import NorFlash.Text.Utf8

/-!
# Expanding words

A word is expanded to `Fields`: the values of parameters, of scripts and of expressions are put in
their places, values that are not quoted are split at separators, and what then looks like a pattern
stands for the entries of the file tree that match. `Expansion.words` does all of it, and
`Expansion.text` makes one text of a word.
-/

namespace NorFlash.Shell

/-- The words that are being put together. -/
structure Fields where
  /-- The words that are complete. -/
  done : List (List Glyph)
  /-- The word that is begun. -/
  current : Option (List Glyph)
  /-- Whether a blank ended the last word. -/
  spaced : Bool

namespace Fields

/-- No words. -/
def empty : Fields := ⟨[], none, false⟩

/-- The fields with more of the word that is begun. -/
def add (f : Fields) (glyphs : List Glyph) : Fields :=
  { f with current := some (f.current.getD [] ++ glyphs) }

/-- The fields with the word that is begun complete. -/
def close (f : Fields) : Fields :=
  match f.current with
  | some glyphs => ⟨f.done ++ [glyphs], none, false⟩
  | none => f

/-- Whether a separator is a blank, of which several ones count as one. -/
def isBlank (c : Char) : Bool :=
  c = ' ' ∨ c = '\t' ∨ c = '\n'

/-- The fields with the characters of a value, which separators divide. -/
def split (separators : List Char) (f : Fields) (value : List Char) : Fields :=
  value.foldl (fun f c =>
    if !separators.contains c then f.add [⟨c, false⟩]
    else if isBlank c then
      if f.current.isSome then { f.close with spaced := true } else f
    else if f.current.isSome then f.close
    else if f.spaced then { f with spaced := false }
    else { f with done := f.done ++ [[]] }) f

/-- The fields with some words, each of which is one. -/
def addEach (f : Fields) (words : List (List Glyph)) : Fields :=
  match words with
  | [] => f
  | first :: rest => rest.foldl (fun f word => f.close.add word) (f.add first)

/-- All words. -/
def toList (f : Fields) : List (List Glyph) :=
  f.close.done

end Fields

/-- What of a word is split. -/
inductive Splitting where
  /-- Nothing: the word stands for one text. -/
  | never
  /-- The values in it. -/
  | values
  /-- Its own characters too. -/
  | all
  deriving DecidableEq, Repr

namespace Expansion

/-! ## Parameters -/

/-- The value of a parameter. -/
def valueOf? (p : Process) (name : String) : Option String :=
  match name with
  | "#" => some (toString p.arguments.length)
  | "?" => some (toString p.status)
  | "$" => some (toString p.number)
  | "-" => some (String.ofList p.options)
  | "!" => p.jobs.head?.map fun job => toString job.1
  | _ =>
    match name.toNat? with
    | some 0 => some p.name
    | some n => p.arguments[n - 1]?
    | none => p.valueOf? name

/-- Whether a name stands for all arguments. -/
def isArguments (name : String) : Bool :=
  name = "@" ∨ name = "*"

/-- The characters that divide values. -/
def separators (p : Process) : List Char :=
  ((p.valueOf? "IFS").getD " \t\n").toList

/-- The arguments in one text. -/
def joinedArguments (p : Process) (name : String) : String :=
  let between := if name = "*" then String.ofList ((separators p).take 1) else " "
  between.intercalate p.arguments

/-- The value of a parameter, or all arguments; none where there is no value. -/
def present? (p : Process) (orEmpty : Bool) (name : String) : Option String :=
  let value := if isArguments name then
      if p.arguments = [] then none else some (joinedArguments p name)
    else valueOf? p name
  value.filter fun text => !orEmpty || text ≠ ""

/-- The text of some bytes, each given as the character of its number. -/
def ofOctets (bytes : List Char) : String :=
  String.ofList (Utf8.read ⟨(bytes.map fun c => UInt8.ofNat c.toNat).toArray⟩).chars

/-- The value of a parameter; that there is none may be a fault. -/
def required (name : String) : Run String := do
  let p ← get
  match present? p false name with
  | some text => return text
  | none => if p.options.contains 'u' ∧ !isArguments name then Run.fault else return ""

/-! ## Pieces -/

/-- The fields with a value. -/
def put (splitting : Splitting) (quoted : Bool) (f : Fields) (value : String) : Run Fields := do
  if quoted ∨ splitting = .never then return f.add (Glyph.ofChars quoted value.toList)
  else return f.split (separators (← get)) value.toList

/-- The fields with all arguments. -/
def putArguments (splitting : Splitting) (name : String) (quoted : Bool) (f : Fields) :
    Run Fields := do
  let p ← get
  if splitting = .never ∨ (quoted ∧ name = "*") then
    put splitting quoted f (joinedArguments p name)
  else if quoted then return f.addEach (p.arguments.map fun a => Glyph.ofChars true a.toList)
  else
    match p.arguments with
    | [] => return f
    | first :: rest =>
      rest.foldlM (fun f argument => put splitting quoted f.close argument)
        (← put splitting quoted f first)

/-- The fields with the pieces of a word. `substitute` answers what a script writes. -/
def pieces (substitute : List Char → Run (List Char)) :
    Nat → Splitting → Word → Fields → Run Fields
  | 0, _, _, _ => Run.fault
  | fuel + 1, splitting, word, f => word.foldlM (fun f piece => do
      match piece with
      | .refused => Run.fault
      | .text chars quoted =>
        if quoted ∨ splitting ≠ .all then return f.add (Glyph.ofChars quoted chars)
        else return f.split (separators (← get)) chars
      | .substitution script quoted => put splitting quoted f (String.ofList (← substitute script))
      | .arithmetic expression quoted => do
        let some inner := Token.wholeWord? .document expression | Run.fault
        let text := (← pieces substitute fuel .never inner .empty).current.getD []
        put splitting quoted f (Numeral.decimal (← Arithmetic.evaluate (text.map (·.char))))
      | .parameter name operation operand quoted => do
        let p ← get
        let inside (f : Fields) : Run Fields := do
          let some inner := Token.wholeWord? (.operand quoted) operand | Run.fault
          let f := if quoted then f.add [] else f
          pieces substitute fuel (if splitting = .never then .never else .all) inner f
        let operandText (place : Token.Place) : Run (List Glyph) := do
          let some inner := Token.wholeWord? place operand | Run.fault
          return (← pieces substitute fuel .never inner .empty).current.getD []
        let whole (f : Fields) : Run Fields := do
          if isArguments name then putArguments splitting name quoted f
          else put splitting quoted f (← required name)
        match operation with
        | .value => whole f
        | .length =>
          if isArguments name then put splitting quoted f (toString p.arguments.length)
          else put splitting quoted f (toString (← required name).utf8ByteSize)
        | .fallback orEmpty => if (present? p orEmpty name).isSome then whole f else inside f
        | .assign orEmpty =>
          if (present? p orEmpty name).isSome then whole f
          else if !name.toList.head?.any Token.isNameStart then Run.fault
          else
            let value := Glyph.text (← operandText (.operand quoted))
            Run.assign name value
            put splitting quoted f value
        | .refuse orEmpty => if (present? p orEmpty name).isSome then whole f else Run.fault
        | .replace orEmpty =>
          if (present? p orEmpty name).isSome then inside f
          else return if quoted then f.add [] else f
        | .dropStart longest => do
          let value := Glyph.octets (← required name)
          let pattern := Pattern.ofText (← operandText (.operand false))
          let count := (Pattern.startLength? longest pattern value).getD 0
          put splitting quoted f (ofOctets (value.drop count))
        | .dropEnd longest => do
          let value := Glyph.octets (← required name)
          let pattern := Pattern.ofText (← operandText (.operand false))
          let count := (Pattern.endLength? longest pattern value).getD 0
          put splitting quoted f (ofOctets (value.take (value.length - count)))) f

/-- How deep operands may stand within each other. -/
def depth : Nat := 100

/-- A word with the home directory in the place of a tilde at its start. -/
def withHome (p : Process) (word : Word) : Word :=
  match word with
  | .text ('~' :: cs) false :: rest =>
    if cs.head?.all (· = '/') ∧ (cs ≠ [] ∨ rest = []) then
      .text ((p.valueOf? "HOME").getD "").toList true :: .text cs false :: rest
    else word
  | _ => word

/-- The glyphs of the one text that a word stands for. -/
def glyphs (substitute : List Char → Run (List Char)) (word : Word) : Run (List Glyph) := do
  return (← pieces substitute depth .never (withHome (← get) word) .empty).current.getD []

/-- The one text that a word stands for. -/
def text (substitute : List Char → Run (List Char)) (word : Word) : Run String :=
  Glyph.text <$> glyphs substitute word

/-! ## Entries -/

/-- The paths of entries after a start whose components look as patterns say. -/
def paths (p : Process) (start : String) : List (List Glyph) → List String
  | [] => []
  | component :: rest =>
    let pattern := Pattern.ofText component
    let names :=
      if pattern.isSpecial then
        match p.tree.find p.directory true (if start = "" then "." else start) with
        | .ok loc => (Pattern.namesIn p.tree loc).filter pattern.acceptsName
        | .error _ => []
      else [Glyph.text component]
    names.flatMap fun name =>
      let path := start ++ name
      if rest = [] then
        if (p.tree.find p.directory false path).toOption.isSome then [path] else []
      else paths p (path ++ "/") rest

/-- The entries that a word stands for, or its text if it is no pattern or matches none. -/
def entries (p : Process) (word : List Glyph) : List String :=
  if p.options.contains 'f' ∨ !(Pattern.ofText word).isSpecial then [Glyph.text word]
  else
    match paths p "" (Glyph.components word) with
    | [] => [Glyph.text word]
    | found => found

/-- The words that words stand for. -/
def words (substitute : List Char → Run (List Char)) (ws : List Word) : Run (List String) := do
  let expanded ← ws.mapM fun word => do
    let fields ← pieces substitute depth .values (withHome (← get) word) .empty
    return fields.toList.flatMap (entries (← get))
  return expanded.flatten

end Expansion

end NorFlash.Shell
