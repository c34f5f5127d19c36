import NorFlash.Yaml.Object

/-!
# Schemas

A `Schema` says which objects of a document are allowed: texts, integers from a least one on, lists,
and mappings whose keys are all named. `Schema.violations` lists all that is wrong with an object, in
the order of the object, and what is missing in a mapping before that.
-/

namespace NorFlash

open Yaml (Document Fault ObjectId Part)

/-- The name of a key in a mapping. -/
structure FieldName where
  /-- The key. -/
  text : String
  /-- Whether it has to be there, with a value. -/
  required : Bool
  deriving DecidableEq, Repr

/-- Which objects are allowed. -/
inductive Schema where
  /-- Any text, and any bytes. -/
  | text
  /-- The integers from `least` on. -/
  | integer (least : Int)
  /-- Lists of such items. -/
  | list (item : Schema)
  /-- Mappings with such keys and no others. -/
  | map (fields : List (FieldName × Schema))

/-- What is wrong with an object. -/
inductive ViolationKind where
  /-- A value is required. -/
  | noValue
  /-- It is no mapping. -/
  | notMap (value : Part)
  /-- It is no list. -/
  | notList (value : Part)
  /-- It is no text. -/
  | notText (value : Part)
  /-- It is no integer. -/
  | notInteger (value : Part)
  /-- It is less than the least integer. -/
  | tooSmall (value : Part) (least : Int)
  /-- A key is missing. -/
  | missingKey (name : String)
  /-- A key has no meaning. -/
  | undefinedKey (key : ObjectId)
  deriving DecidableEq, Repr

/-- What is wrong with an object, and where the object stands. -/
structure Violation where
  /-- What is wrong. -/
  kind : ViolationKind
  /-- The keys and positions that lead to the object, each after a slash. -/
  path : String
  deriving DecidableEq, Repr

namespace Violation

/-- The path in quotes. -/
def quotedPath (v : Violation) : String :=
  "'" ++ v.path ++ "'"

/-- A part that is no list, as it is shown: a text is shown as bytes. -/
def displayNoList (d : Document) (part : Part) : Except Fault String :=
  match d.partObject? part with
  | some (.atom (.text s)) => .ok (Quoted.renderBytes s)
  | _ => d.display part

/-- The violation in words, which fails where an object cannot be shown. -/
def message (d : Document) (v : Violation) : Except Fault String :=
  match v.kind with
  | .noValue => return "required.novalue : " ++ v.quotedPath
  | .notMap value =>
    return "Value '" ++ (← d.display value) ++ "' is not a dict. Value path: " ++ v.quotedPath
  | .notList value =>
    return "Value '" ++ (← displayNoList d value) ++ "' is not a list. Value path: " ++ v.quotedPath
  | .notText value =>
    return "Value '" ++ (← d.display value) ++ "' is not of type 'str'. Path: " ++ v.quotedPath
  | .notInteger value =>
    return "Value '" ++ (← d.display value) ++ "' is not of type 'int'. Path: " ++ v.quotedPath
  | .tooSmall value least =>
    return "Type 'scalar' has size of '" ++ (← d.display value) ++ "', less than min limit '"
      ++ Numeral.decimal least ++ "'. Path: " ++ v.quotedPath
  | .missingKey name => return "Cannot find required key '" ++ name ++ "'. Path: " ++ v.quotedPath
  | .undefinedKey key =>
    return "Key '" ++ (← d.display (.object key)) ++ "' was not defined. Path: " ++ v.quotedPath

end Violation

namespace Schema

/-- The required keys that a mapping does not have. -/
def missingKeys (d : Document) (path : String) (entries : List (ObjectId × ObjectId))
    (fields : List (FieldName × Schema)) : List Violation :=
  (fields.filter fun f => f.1.required && !entries.any (d.isText f.1.text ·.1)).map
    fun f => ⟨.missingKey f.1.text, path⟩

mutual

/-- All that is wrong with a part at a path. Nothing is wrong with a scalar that has no value. -/
def violationsAt (d : Document) (path : String) (part : Part) : Schema → List Violation
  | .text =>
    match d.partObject? part with
    | some (.atom (.text _)) | some (.atom (.binary _)) | some (.atom .null) => []
    | _ => [⟨.notText part, path⟩]
  | .integer least =>
    match d.partObject? part with
    | some (.atom .null) => []
    | some (.atom (.integer i)) => if i < least then [⟨.tooSmall part least, path⟩] else []
    | _ => [⟨.notInteger part, path⟩]
  | .list item =>
    let itemsAt (parts : List Part) : List Violation :=
      parts.zipIdx.flatMap fun entry =>
        violationsAt d (path ++ "/" ++ Numeral.decimal entry.2) entry.1 item
    match d.partObject? part with
    | some (.list items) => itemsAt (items.map .object)
    | some (.pairs items) => itemsAt (items.map fun p => .pair p.1 p.2)
    | _ => [⟨.notList part, path⟩]
  | .map fields =>
    match d.partObject? part with
    | some (.map entries) =>
      missingKeys d path entries fields
        ++ entries.flatMap fun entry => entryViolations d path entry.1 entry.2 fields
    | _ => [⟨.notMap part, path⟩]

/-- All that is wrong with an entry of a mapping at a path. -/
def entryViolations (d : Document) (path : String) (key value : ObjectId) :
    List (FieldName × Schema) → List Violation
  | [] => [⟨.undefinedKey key, path⟩]
  | (name, schema) :: rest =>
    if d.isText name.text key then
      if name.required && d.isNull value then [⟨.noValue, path ++ "/" ++ name.text⟩]
      else violationsAt d (path ++ "/" ++ name.text) (.object value) schema
    else entryViolations d path key value rest

end

/-- All that is wrong with a document. -/
def violations (schema : Schema) (d : Document) : List Violation :=
  violationsAt d "" (.object d.root) schema

end Schema

end NorFlash
