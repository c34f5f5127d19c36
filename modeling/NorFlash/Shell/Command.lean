/-!
# Shell commands

The commands that scripts are made of. A word is a sequence of pieces that are put together when the
command is run; what is quoted is neither split nor special. Scripts and operands within a word are
kept as they are written, because they are read only when they are needed.
-/

namespace NorFlash.Shell

/-- What is done with the value of a parameter. A flag `orEmpty` tells that an empty value counts as
none. -/
inductive Operation where
  /-- The value is taken. -/
  | value
  /-- Its length is taken. -/
  | length
  /-- A word is taken where there is none. -/
  | fallback (orEmpty : Bool)
  /-- A word is taken and kept where there is none. -/
  | assign (orEmpty : Bool)
  /-- The shell ends where there is none. -/
  | refuse (orEmpty : Bool)
  /-- A word is taken where there is one, and nothing otherwise. -/
  | replace (orEmpty : Bool)
  /-- What matches a pattern at the start is left out, as much or as little as possible. -/
  | dropStart (longest : Bool)
  /-- What matches a pattern at the end is left out, as much or as little as possible. -/
  | dropEnd (longest : Bool)
  deriving DecidableEq, Repr

/-- A part of a word. -/
inductive Piece where
  /-- Characters as they are. -/
  | text (chars : List Char) (quoted : Bool)
  /-- What is made of the value of a parameter. -/
  | parameter (name : String) (operation : Operation) (operand : List Char) (quoted : Bool)
  /-- What a script writes. -/
  | substitution (script : List Char) (quoted : Bool)
  /-- The value of an expression. -/
  | arithmetic (expression : List Char) (quoted : Bool)
  /-- A parameter that is written wrongly. -/
  | refused
  deriving DecidableEq, Repr

/-- A word of a command. -/
abbrev Word := List Piece

namespace Piece

/-- Whether the piece was quoted. -/
def isQuoted : Piece → Bool
  | text _ quoted | parameter _ _ _ quoted | substitution _ quoted | arithmetic _ quoted => quoted
  | refused => false

end Piece

/-- The characters of a word that is written without quotes and parameters. -/
def plain? : Word → Option String
  | [.text chars false] => some (String.ofList chars)
  | _ => none

/-- How a file is opened for writing. -/
inductive WriteMode where
  /-- It is emptied, which an option may forbid. -/
  | replace
  /-- It is emptied in any case. -/
  | overwrite
  /-- It is written after what it holds. -/
  | append
  deriving DecidableEq, Repr

/-- Where a stream of a command goes or comes from. -/
inductive Redirection where
  /-- A stream is written to a file. -/
  | output (stream : Nat) (mode : WriteMode) (target : Word)
  /-- A stream is read from a file. -/
  | input (stream : Nat) (source : Word)
  /-- A stream is read from and written to a file, which is made if it is missing. -/
  | both (stream : Nat) (target : Word)
  /-- The input is a text of the script. -/
  | document (body : Word)
  /-- A stream goes where another one goes, or nowhere. -/
  | duplicate (stream : Nat) (other : Word)
  deriving DecidableEq, Repr

/-- A command. -/
inductive Command where
  /-- Assignments, then the words of a program and its arguments. -/
  | simple (assignments : List (String × Word)) (words : List Word)
      (redirections : List Redirection)
  /-- A command whose streams are redirected. -/
  | redirected (body : Command) (redirections : List Redirection)
  /-- A command in a shell of its own. -/
  | subshell (body : Command)
  /-- A command that is not waited for. -/
  | background (body : Command)
  /-- Two commands in turn. -/
  | sequence (first second : Command)
  /-- The second command only after success of the first one. -/
  | andThen (first second : Command)
  /-- The second command only after failure of the first one. -/
  | orElse (first second : Command)
  /-- The second command reads what the first one writes. -/
  | pipe (first second : Command)
  /-- Success and failure exchanged. -/
  | negated (body : Command)
  /-- One of two commands by the success of a third one. -/
  | conditional (condition body otherwise : Command)
  /-- A command again and again while a condition succeeds, or until it does. -/
  | loop (condition body : Command) (untilSuccess : Bool)
  /-- A command once for each of some words, or of the arguments. -/
  | forEach (name : String) (items : Option (List Word)) (body : Command)
  /-- The command of the first branch with a pattern that a word matches. -/
  | choice (subject : Word) (branches : List (List Word × Command))
  /-- A command that is given a name. -/
  | function (name : String) (body : Command)
  deriving Repr

/-- The command that does nothing. -/
def Command.nothing : Command :=
  .simple [] [] []

end NorFlash.Shell
