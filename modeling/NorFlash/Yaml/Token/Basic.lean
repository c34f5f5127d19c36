/-!
# Tokens

The tokens that a document's text is made of. The indentation of a text shows in the tokens that
start and end its blocks.
-/

namespace NorFlash.Yaml

/-- A piece of a document's text. -/
inductive Token where
  /-- The version that a document is written in. -/
  | version (major minor : Nat)
  /-- A handle and the start of the tags that are written with it. -/
  | tagHandle (handle start : String)
  /-- The mark that starts a document. -/
  | documentStart
  /-- The mark that ends a document. -/
  | documentEnd
  /-- The start of a sequence that is indented. -/
  | blockSequence
  /-- The start of a mapping that is indented. -/
  | blockMapping
  /-- The end of an indented collection. -/
  | blockEnd
  /-- An opening bracket. -/
  | flowSequence
  /-- A closing bracket. -/
  | flowSequenceEnd
  /-- An opening brace. -/
  | flowMapping
  /-- A closing brace. -/
  | flowMappingEnd
  /-- The dash in front of an item. -/
  | item
  /-- The comma between entries. -/
  | comma
  /-- The start of a key. -/
  | key
  /-- The start of a value. -/
  | value
  /-- The name of a node that stands elsewhere. -/
  | reference (name : String)
  /-- The name of the node that follows. -/
  | anchor (name : String)
  /-- The tag of the node that follows. -/
  | tag (handle suffix : String)
  /-- Text, written with quotes or as a block unless it is plain. -/
  | scalar (plain : Bool) (text : String)
  deriving DecidableEq, Repr

end NorFlash.Yaml
