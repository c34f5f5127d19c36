import NorFlash.Shell.Process

/-!
# Options of scripts

A script reads the options that it was given one by one. `OptionStep.next` finds the next one among
some words: a letter behind a dash, of which one dash may have several, and the value of a letter
that takes one, which is the rest of its word or the word after it. Two dashes, or a word that does
not start with a dash, end the options.
-/

namespace NorFlash.Shell

/-- What reading one option finds. -/
structure OptionStep where
  /-- The letter, or a sign for a fault or the end. -/
  letter : Char
  /-- The value, or the letter that is at fault. -/
  value : Option String
  /-- The number of the next word, from one on. -/
  index : Nat
  /-- How many characters of the word before it were looked at, if it may hold more letters. -/
  offset : Option Nat
  /-- Whether there are no more options. -/
  isEnd : Bool
  deriving Repr

namespace OptionStep

/-- Whether a letter takes a value, as a list of letters says; none if it is not in the list. A colon
marks the letters that do. -/
def takesValue? (letter : Char) : List Char → Option Bool
  | [] => none
  | c :: ':' :: rest => if c = letter then some true else takesValue? letter rest
  | c :: rest => if c = letter then some false else takesValue? letter rest

/-- The step for a letter with the characters after it in its word; `index` is the number of the
word after that. A list that starts with a colon asks for the letter at fault. -/
def ofLetter (known : List Char) (words : List String) (index : Nat) (letter : Char)
    (rest : List Char) : OptionStep :=
  let isQuiet := known.head? = some ':'
  let fault : Option String := if isQuiet then some (String.singleton letter) else none
  let offset := (words.getD (index - 2) "").length - rest.length
  match takesValue? letter (if isQuiet then known.tail else known) with
  | none => ⟨'?', fault, index, some offset, false⟩
  | some false => ⟨letter, some "", index, some offset, false⟩
  | some true =>
    if rest ≠ [] then ⟨letter, some (String.ofList rest), index, none, false⟩
    else
      match words[index - 1]? with
      | some word => ⟨letter, some word, index + 1, none, false⟩
      | none => ⟨if isQuiet then ':' else '?', fault, index, none, false⟩

/-- The next option among some words, after `offset` characters of the word before the one with
number `index`. -/
def next (known : List Char) (words : List String) (index : Nat) (offset : Option Nat) :
    OptionStep :=
  let left := match offset with
    | some n => if index ≤ 1 then [] else (words.getD (index - 2) "").toList.drop n
    | none => []
  match left, (words[index - 1]?).map String.toList with
  | letter :: rest, _ => ofLetter known words index letter rest
  | [], some ['-', '-'] => ⟨'?', none, index + 1, none, true⟩
  | [], some ('-' :: letter :: rest) => ofLetter known words (index + 1) letter rest
  | [], _ => ⟨'?', none, index, none, true⟩

end OptionStep

end NorFlash.Shell
