import NorFlash.Yaml.Node.Basic
import NorFlash.Yaml.Scalar
import NorFlash.Yaml.Slot

/-!
# Objects

What a document says is a table of `Object`s, each of which has the number of the node that it was
made from: an atom, or a collection of other objects, which may contain itself.

`Document.display` writes a part of a document for a message, and `Document.entry?` looks up a text key of a
mapping.
-/

namespace NorFlash.Yaml

/-- The number of an object in its document. -/
abbrev ObjectId := NodeId

/-- What a node of a document stands for. -/
inductive Object where
  /-- A value without parts. -/
  | atom (a : Atom)
  /-- A list. -/
  | list (items : List ObjectId)
  /-- A list of keys with their values. -/
  | pairs (items : List (ObjectId × ObjectId))
  /-- A set. -/
  | set (items : List ObjectId)
  /-- A mapping, in the order in which its keys were first given. -/
  | map (entries : List (ObjectId × ObjectId))
  deriving DecidableEq, Repr

/-- What stands at a place of a document. -/
inductive Part where
  /-- An object. -/
  | object (id : ObjectId)
  /-- A key with its value, in a list of such. -/
  | pair (key value : ObjectId)
  deriving DecidableEq, Repr

/-- The objects of a document. -/
structure Document where
  /-- The objects, each at the place of its number. -/
  objects : Array Object
  /-- The number of the object that holds all others. -/
  root : ObjectId

namespace Document

/-! ## Looking up -/

/-- The object with a number. -/
def object (d : Document) (id : ObjectId) : Object :=
  d.objects.getD id (.atom .null)

/-- The atom with a number. -/
def atom? (d : Document) (id : ObjectId) : Option Atom :=
  match d.object id with
  | .atom a => some a
  | _ => none

/-- Whether an object is a text. -/
def isText (d : Document) (s : String) (id : ObjectId) : Bool :=
  d.object id == .atom (.text s)

/-- Whether an object is nothing. -/
def isNull (d : Document) (id : ObjectId) : Bool :=
  d.object id == .atom .null

/-- The value of a text key in a mapping. -/
def entry? (d : Document) (name : String) (id : ObjectId) : Option ObjectId :=
  match d.object id with
  | .map entries => (entries.find? fun entry => d.isText name entry.1).map (·.2)
  | _ => none

/-! ## Parts -/

/-- The object that stands as a part of a collection; a key with its value is none. -/
def partObject? (d : Document) : Part → Option Object
  | .object id => some (d.object id)
  | .pair _ _ => none

/-! ## Text -/

/-- How deep collections may stand within each other to be shown. -/
def maxDepth : Nat := 985

/-- Texts between two marks. -/
def enclose (start stop : String) (texts : List String) : String :=
  start ++ ", ".intercalate texts ++ stop

/-- A part as it is written as an item of a collection, within the parts `within`. A part within
itself is written as dots. -/
def itemText (d : Document) : Nat → List Part → Part → Except Fault String
  | 0, _, _ => .error .tooDeep
  | depth + 1, within, part =>
    let seen := within.contains part
    let inner := itemText d depth (part :: within)
    let item (id : ObjectId) : Except Fault String := inner (.object id)
    match part with
    | .pair key value =>
      if seen then .ok "(...)" else return enclose "(" ")" [← item key, ← item value]
    | .object id =>
      match d.object id with
      | .atom a => a.itemText?.elim (.error .longInteger) .ok
      | .list items => if seen then .ok "[...]" else return enclose "[" "]" (← items.mapM item)
      | .pairs items =>
        if seen then .ok "[...]"
        else return enclose "[" "]" (← items.mapM fun p => inner (.pair p.1 p.2))
      | .set [] => .ok "set()"
      | .set items =>
        let members := items.map fun id => (id, (d.atom? id).getD .null)
        return enclose "\x7b" "\x7d" (← (Slot.arrange members).mapM item)
      | .map entries =>
        if seen then .ok "\x7b...\x7d"
        else return enclose "\x7b" "\x7d" (← entries.mapM fun e => do
          return (← item e.1) ++ ": " ++ (← item e.2))

/-- A part as a message shows it. -/
def display (d : Document) (part : Part) : Except Fault String :=
  match d.partObject? part with
  | some (.atom a) => a.text?.elim (.error .longInteger) .ok
  | _ => d.itemText maxDepth [] part

end Document

end NorFlash.Yaml
