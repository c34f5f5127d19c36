import NorFlash.FileTree.Basic
import NorFlash.FileTree.Errno

/-!
# Following paths

`FileTree.walk` follows the names of a path through a tree, through links and `..`, and answers the
`Place` the path leads to, or the error that stops it. The number of links that are followed is
limited. `FileTree.locate` does so for the text of a path.
-/

namespace NorFlash

/-- Where a path leads. -/
inductive Place where
  /-- To an entry. -/
  | entry (loc : Location)
  /-- To a name that is free in a directory. -/
  | vacant (parent : Location) (name : String)
  deriving DecidableEq, Repr

namespace Place

/-- The location of an entry that is there or would be made. -/
def location : Place → Location
  | entry loc => loc
  | vacant parent name => parent ++ [name]

end Place

namespace FileTree

/-! ## Components -/

/-- The components to follow for a text. A separator at the end asks for a directory, as a dot
does. -/
def components (text : String) : List String :=
  let parts := (text.toList.splitOn '/').map String.ofList
  let names := parts.filter (· ≠ "")
  if names ≠ [] ∧ parts.getLast? = some "" then names ++ ["."] else names

/-- Where a text starts, seen from a directory. -/
def startOf (text : String) (directory : Location) : Location :=
  if text.toList.head? = some '/' then [] else directory

/-! ## Walking -/

/-- The most bytes in a name. -/
def maxName : Nat := 255

/-- The most bytes in the text of a path. -/
def maxPath : Nat := 4095

/-- The most links that are followed on the way. -/
def maxLinks : Nat := 40

/-- Follow components from a location, at most `links` links among them. A link in the last place
is followed only if `follow` says so. -/
def walk (t : FileTree) (follow : Bool) (links : Nat) (loc : Location) (names : List String) :
    Except Errno Place :=
  match names with
  | [] => .ok (.entry loc)
  | name :: rest =>
    match t.get? loc with
    | some (.directory _) =>
      if name = "." then walk t follow links loc rest
      else if name = ".." then walk t follow links loc.dropLast rest
      else if maxName < name.utf8ByteSize then .error .nameTooLong
      else
        match t.get? (loc ++ [name]) with
        | none => if rest = [] then .ok (.vacant loc name) else .error .noEntry
        | some (.link target) =>
          if rest = [] ∧ follow = false then .ok (.entry (loc ++ [name]))
          else
            match links with
            | 0 => .error .tooManyLinks
            | links + 1 =>
              if target = "" then .error .noEntry
              else walk t follow links (startOf target loc) (components target ++ rest)
        | some _ => walk t follow links (loc ++ [name]) rest
    | _ => .error .notDirectory
termination_by (links, names.length)

/-- The place that the text of a path leads to, seen from a directory. -/
def locate (t : FileTree) (directory : Location) (follow : Bool) (text : String) :
    Except Errno Place :=
  if text = "" then .error .noEntry
  else if maxPath < text.utf8ByteSize then .error .nameTooLong
  else walk t follow maxLinks (startOf text directory) (components text)

/-! ## Looking -/

/-- The location of the entry that a path leads to. -/
def find (t : FileTree) (directory : Location) (follow : Bool) (text : String) :
    Except Errno Location :=
  match t.locate directory follow text with
  | .ok (.entry loc) => .ok loc
  | .ok (.vacant _ _) => .error .noEntry
  | .error e => .error e

/-- The entry that a path leads to through links. -/
def status (t : FileTree) (directory : Location) (text : String) : Except Errno Node :=
  match t.find directory true text with
  | .ok loc =>
    match t.get? loc with
    | some node => .ok node
    | none => .error .noEntry
  | .error e => .error e

/-- Whether the entry that a path leads to passes a test. Errors that mean more than that there is
no entry remain errors. -/
def test (t : FileTree) (directory : Location) (text : String) (p : Node → Bool) :
    Except Errno Bool :=
  match t.status directory text with
  | .ok node => .ok (p node)
  | .error e => if e.meansAbsent then .ok false else .error e

/-- The content of the file that a path leads to. -/
def read (t : FileTree) (directory : Location) (text : String) : Except Errno ByteArray :=
  match t.status directory text with
  | .ok (.file _ content) => .ok content
  | .ok _ => .error .isDirectory
  | .error e => .error e

/-! ## Making directories -/

/-- Make a directory at the end of a path. -/
def makeDirectory (t : FileTree) (directory : Location) (text : String) :
    Except Errno FileTree :=
  match t.locate directory false text with
  | .ok (.vacant parent name) => .ok (t.insert (parent ++ [name]) (.directory directoryMode))
  | .ok (.entry _) => .error .alreadyExists
  | .error e => .error e

end FileTree

end NorFlash
