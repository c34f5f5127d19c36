import NorFlash.Yaml.Tag

/-!
# Nodes

The nodes of a document are kept in a `NodeTable`, and a collection names the nodes that it is made
of by their numbers. A node may stand in several places, and within itself.
-/

namespace NorFlash.Yaml

/-- The number of a node in its document. -/
abbrev NodeId := Nat

/-- What a node is made of. -/
inductive NodeContent where
  /-- A text. -/
  | scalar (text : String)
  /-- A row of nodes. -/
  | sequence (items : List NodeId)
  /-- A row of keys and values. -/
  | mapping (entries : List (NodeId × NodeId))
  deriving DecidableEq, Repr

/-- A node of a document. -/
structure Node where
  /-- The kind of value that the node stands for. -/
  tag : Tag
  /-- What it is made of. -/
  content : NodeContent
  deriving DecidableEq, Repr

/-- The node of a scalar that is not written. -/
def Node.absent : Node := ⟨.null, .scalar ""⟩

/-- The nodes of a document, each at the place of its number. -/
abbrev NodeTable := Array Node

namespace NodeTable

/-- The node with a number. -/
def node (t : NodeTable) (id : NodeId) : Node :=
  t.getD id .absent

/-- The table with another node in the place of one. -/
def replace (t : NodeTable) (id : NodeId) (n : Node) : NodeTable :=
  t.setIfInBounds id n

/-- The keys and values of a mapping; other nodes have none. -/
def entries (t : NodeTable) (id : NodeId) : List (NodeId × NodeId) :=
  match (t.node id).content with
  | .mapping entries => entries
  | _ => []

/-- The table with other keys and values for a mapping. -/
def setEntries (t : NodeTable) (id : NodeId) (entries : List (NodeId × NodeId)) : NodeTable :=
  t.replace id { t.node id with content := .mapping entries }

/-- The table with another tag for a node. -/
def setTag (t : NodeTable) (id : NodeId) (tag : Tag) : NodeTable :=
  t.replace id { t.node id with tag := tag }

/-- The number of keys in all mappings together. -/
def entryCount (t : NodeTable) : Nat :=
  t.foldl (fun n node => n + match node.content with | .mapping entries => entries.length | _ => 0) 0

end NodeTable

/-- The nodes of a document and the one that holds all others. -/
structure NodeGraph where
  /-- The nodes. -/
  nodes : NodeTable
  /-- The number of the node that holds all others. -/
  root : NodeId

end NorFlash.Yaml
