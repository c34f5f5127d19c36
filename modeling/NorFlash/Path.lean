/-!
# Paths

A `Path` is a sequence of names with a root. `Path.ofString` reads the text of a path: repeated
separators count once and the name `.` is dropped, but `..` is kept because what it leads to is
known to the file tree alone. `Path.render` writes the text back.

`name`, `parent` and `suffix` look at the last name only.
-/

namespace NorFlash

/-- Where a path starts. -/
inductive PathRoot where
  /-- At the working directory. -/
  | relative
  /-- At the root of the tree. -/
  | root
  /-- At the root of the tree, written with two separators. -/
  | doubleRoot
  deriving DecidableEq, Repr

namespace PathRoot

/-- The root as it is written in front of the names. -/
def text : PathRoot → String
  | relative => ""
  | root => "/"
  | doubleRoot => "//"

end PathRoot

/-- A path in a file tree. -/
structure Path where
  /-- Where it starts. -/
  root : PathRoot
  /-- The names that lead from there, none of them empty or `.`. -/
  names : List String
  deriving DecidableEq, Repr

namespace Path

/-! ## Reading and writing -/

/-- Whether a component of the text is a name of the path. -/
def isName (component : List Char) : Bool :=
  component ≠ [] && component ≠ ['.']

/-- The root that the separators at the start of a text stand for. -/
def rootOf (cs : List Char) : PathRoot :=
  match (cs.takeWhile (· == '/')).length with
  | 0 => .relative
  | 2 => .doubleRoot
  | _ => .root

/-- The path that a text stands for. -/
def ofString (s : String) : Path where
  root := rootOf s.toList
  names := ((s.toList.splitOn '/').filter isName).map String.ofList

/-- The text of a path; the path without names is written `.`. -/
def render (p : Path) : String :=
  match p.root, p.names with
  | .relative, [] => "."
  | start, names => start.text ++ "/".intercalate names

/-! ## The last name -/

/-- The last name, empty if there is none. -/
def name (p : Path) : String :=
  p.names.getLast?.getD ""

/-- The path without its last name. -/
def parent (p : Path) : Path :=
  { p with names := p.names.dropLast }

/-- The characters of a name from its last dot on, if characters stand on both sides of it. -/
def suffixChars (cs : List Char) : List Char :=
  let after := (cs.reverse.takeWhile (· ≠ '.')).reverse
  let before := cs.length - after.length
  if after ≠ [] ∧ 1 < before then '.' :: after else []

/-- The last name from its last dot on. -/
def suffix (p : Path) : String :=
  String.ofList (suffixChars p.name.toList)

/-- Whether the path names a file of Intel HEX records. -/
def isHex (p : Path) : Bool :=
  p.suffix == ".hex"

end Path

end NorFlash
