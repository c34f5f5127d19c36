import NorFlash.Action

/-!
# Putting a file in place

`persist` writes data to a path so that the path holds either what it held before or all of the
data: missing directories are made, the data is written to a temporary file beside the output, the
temporary file is moved onto the output, and the directory it was moved to is opened. Where a step
before the move fails the temporary file is removed.
-/

namespace NorFlash

/-! ## Directories -/

namespace Action

/-- Make a directory at a path. -/
def makeDirectory (s : Setting) (path : Path) : Action (Except Errno Unit) := do
  if hasNull path.render then throw (.file .nullCharacter)
  match (← tree).makeDirectory s.directory path.render with
  | .ok t => setTree t; return .ok ()
  | .error errno => return .error errno

/-- Accept that a directory could not be made if there is one. -/
def acceptDirectory (s : Setting) (path : Path) (errno : Errno) : Action Unit := do
  if ! (← testEntry s path Node.isDirectory) then refuse errno path.render

/-- Make a directory where its parent is there. -/
def ensureDirectory (s : Setting) (path : Path) : Action Unit := do
  match ← makeDirectory s path with
  | .ok () => return
  | .error .noEntry => refuse .noEntry path.render
  | .error errno => acceptDirectory s path errno

/-- Make the directory that the first names of a path lead to, and those on the way; the names are
given with the last one first. -/
def ensureNames (s : Setting) (start : PathRoot) : List String → Action Unit
  | [] => do
    match ← makeDirectory s ⟨start, []⟩ with
    | .ok () => return
    | .error .noEntry => refuse .noEntry (Path.render ⟨start, []⟩)
    | .error errno => acceptDirectory s ⟨start, []⟩ errno
  | name :: names => do
    let path : Path := ⟨start, (name :: names).reverse⟩
    match ← makeDirectory s path with
    | .ok () => return
    | .error .noEntry =>
      ensureNames s start names
      ensureDirectory s path
    | .error errno => acceptDirectory s path errno

/-- Make the directory at a path and those on the way. -/
def ensureDirectories (s : Setting) (path : Path) : Action Unit :=
  ensureNames s path.root path.names.reverse

end Action

/-! ## Temporary files -/

namespace Path

/-- Follow a name in a location by its text alone: two dots lead to the parent. -/
def pushName (loc : Location) (name : String) : Location :=
  if name = ".." then loc.dropLast else loc ++ [name]

/-- The location that the text of a path names, seen from a directory, as if there were no links. -/
def lexicalLocation (directory : Location) (p : Path) : Location :=
  p.names.foldl pushName (if p.root = .relative then directory else [])

/-- The text of that location. -/
def absoluteText (directory : Location) (p : Path) : String :=
  let body := "/".intercalate (lexicalLocation directory p)
  if p.root = .doubleRoot then "//" ++ body else "/" ++ body

end Path

/-- The names that temporary files may take, the first ones being the most likely. -/
def temporaryMark (n : Nat) : String :=
  if n = 0 then "XXXXXXXX" else String.ofList (Numeral.zeroFill 8 (Nat.toDigits 10 n))

/-- The path of a temporary file beside an output. -/
def temporaryPath (s : Setting) (output : Path) (n : Nat) : String :=
  let directory := output.parent.absoluteText s.directory
  let separator := if directory.toList.getLast? = some '/' then "" else "/"
  directory ++ separator ++ "." ++ output.name ++ "." ++ temporaryMark n ++ ".tmp"

/-- The permission bits of a temporary file. -/
def temporaryMode : Nat := 0o600

/-- The permission bits of an output. -/
def outputMode : Nat := 0o644

namespace Action

/-- Make an empty temporary file with the first of `tries` marks, from mark `n` on, that is not in
use. The answer is its path and its location. -/
def makeTemporary (s : Setting) (output : Path) : Nat → Nat → Action (String × Location)
  | 0, n => refuse .alreadyExists (temporaryPath s output n)
  | tries + 1, n => do
    let path := temporaryPath s output n
    if hasNull path then throw (.file .nullCharacter)
    match (← tree).locate s.directory false path with
    | .ok (.vacant parent name) =>
      setTree ((← tree).insert (parent ++ [name]) (.file temporaryMode ByteArray.empty))
      return (path, parent ++ [name])
    | .ok (.entry _) => makeTemporary s output tries (n + 1)
    | .error errno => refuse errno path

end Action

/-! ## Moving into place -/

namespace FileTree

/-- The place that a file is moved to: the path must end in a name, and no directory may have it. -/
def renameTarget (t : FileTree) (directory : Location) (text : String) :
    Except Errno Location :=
  let names := components text
  match t.walk true maxLinks (startOf text directory) names.dropLast with
  | .error e => .error e
  | .ok _ =>
    if names.getLast? = none ∨ names.getLast? = some "." ∨ names.getLast? = some ".." then
      .error .busy
    else
      match t.locate directory false text with
      | .error e => .error e
      | .ok (.vacant parent name) => .ok (parent ++ [name])
      | .ok (.entry loc) =>
        match t.get? loc with
        | some (.directory _) => .error .isDirectory
        | _ => .ok loc

end FileTree

namespace Action

/-- Move a file onto a path, or remove it where that fails. -/
def moveOnto (s : Setting) (source : String) (loc : Location) (node : Node) (output : Path) :
    Action Unit := do
  let t ← tree
  match t.renameTarget s.directory output.render with
  | .ok target => setTree ((t.erase loc).insert target node)
  | .error errno =>
    setTree (t.erase loc)
    throw (.file (.file (.between errno source output.render)))

/-- Open the entry that a path leads to, as the system asks for before a move is made durable. -/
def openEntry (s : Setting) (path : Path) : Action Unit := do
  match (← tree).status s.directory path.render with
  | .ok _ => return
  | .error errno => refuse errno path.render

end Action

/-- Put data in place at a path. -/
def persist (s : Setting) (data : ByteArray) (output : Path) : Action Unit := do
  Action.ensureDirectories s output.parent
  let (source, loc) ← Action.makeTemporary s output ((← Action.tree).entries.length + 1) 0
  Action.moveOnto s source loc (.file outputMode data) output
  Action.openEntry s output.parent
  Action.debug ("replaced " ++ output.render ++ " with " ++ Numeral.decimal data.size ++ " bytes")

end NorFlash
