/-!
# Log records

What the steps of a run note, each record with a level that says how much detail it is.
-/

namespace NorFlash

/-- How much detail a record is. -/
inductive LogLevel where
  /-- A step within the work. -/
  | debug
  /-- A result on the way. -/
  | info
  /-- The reason of a failure. -/
  | error
  deriving DecidableEq, Repr

namespace LogLevel

/-- The rank of a level; a higher one is more urgent. -/
def rank : LogLevel → Nat
  | debug => 0
  | info => 1
  | error => 3

/-- The name of a level. -/
def label : LogLevel → String
  | debug => "DEBUG"
  | info => "INFO"
  | error => "ERROR"

/-- The least rank that is shown when more detail was asked for `count` times. -/
def threshold (count : Nat) : Nat :=
  2 - min count 2

end LogLevel

/-- A note with its level. -/
structure LogRecord where
  /-- How much detail it is. -/
  level : LogLevel
  /-- What it says. -/
  message : String
  deriving DecidableEq, Repr

end NorFlash
