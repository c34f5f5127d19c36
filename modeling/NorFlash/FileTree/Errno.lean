import NorFlash.Text.Numeral
import NorFlash.Text.Quoted

/-!
# System errors

The errors that operations on a file tree end with, each with its number and its words, and a
`FileFault`, which names the paths at fault.
-/

namespace NorFlash

/-- Why the system refuses an operation. -/
inductive Errno where
  /-- An entry on the path is missing. -/
  | noEntry
  /-- The words for a program are too long. -/
  | argumentsTooLong
  /-- The file is in no format that can be run. -/
  | notExecutable
  /-- The file may not be run. -/
  | permission
  /-- The path ends in no name of its own. -/
  | busy
  /-- There is an entry already. -/
  | alreadyExists
  /-- An entry on the path is no directory. -/
  | notDirectory
  /-- The entry is a directory. -/
  | isDirectory
  /-- A name or the path is too long. -/
  | nameTooLong
  /-- The directory is not empty. -/
  | notEmpty
  /-- There are too many links on the path. -/
  | tooManyLinks
  deriving DecidableEq, Repr

namespace Errno

/-- The number of an error. -/
def number : Errno → Nat
  | noEntry => 2
  | argumentsTooLong => 7
  | notExecutable => 8
  | permission => 13
  | busy => 16
  | alreadyExists => 17
  | notDirectory => 20
  | isDirectory => 21
  | nameTooLong => 36
  | notEmpty => 39
  | tooManyLinks => 40

/-- An error in words. -/
def text : Errno → String
  | noEntry => "No such file or directory"
  | argumentsTooLong => "Argument list too long"
  | notExecutable => "Exec format error"
  | permission => "Permission denied"
  | busy => "Device or resource busy"
  | alreadyExists => "File exists"
  | notDirectory => "Not a directory"
  | isDirectory => "Is a directory"
  | nameTooLong => "File name too long"
  | notEmpty => "Directory not empty"
  | tooManyLinks => "Too many levels of symbolic links"

/-- Whether an error only tells that there is nothing at a path. -/
def meansAbsent : Errno → Bool
  | noEntry | notDirectory | tooManyLinks => true
  | _ => false

end Errno

/-- A failed operation and the names at fault, as messages show them. -/
structure FileFault where
  /-- The error. -/
  errno : Errno
  /-- The path that the operation was for. -/
  subject : String
  /-- The path that it was to lead to, if there are two. -/
  target : Option String := none
  deriving DecidableEq, Repr

namespace FileFault

/-- The fault of an operation on one path. -/
def of (errno : Errno) (path : String) : FileFault :=
  { errno, subject := Quoted.render path }

/-- The fault of an operation that was to lead from one path to another. -/
def between (errno : Errno) (source target : String) : FileFault :=
  { errno, subject := Quoted.render source, target := some (Quoted.render target) }

/-- The fault in words. -/
def message (f : FileFault) : String :=
  let start := "[Errno " ++ Numeral.decimal f.errno.number ++ "] " ++ f.errno.text ++ ": "
  match f.target with
  | none => start ++ f.subject
  | some target => start ++ f.subject ++ " -> " ++ target

end FileFault

end NorFlash
