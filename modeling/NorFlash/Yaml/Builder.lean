import NorFlash.Yaml.Object

/-!
# From nodes to objects

`Document.ofGraph` makes the objects that the nodes of a document stand for. A collection is made
empty and filled later, after the collections that were made before it, so that it may contain
itself, and of several faults the one nearest to the root is reported.

A key of the merge kind brings the entries of another mapping, or of several ones, into its mapping;
the entries of the mapping itself, and of mappings named earlier, win. The entries are brought into
the node itself, where all places that refer to it find them. Likewise a key for the whole of a
mapping becomes a text once the mapping is looked at.
-/

namespace NorFlash.Yaml

/-- The state of the builder. -/
structure Builder where
  /-- The nodes. -/
  nodes : NodeTable
  /-- The objects made so far, each at the place of its node. -/
  objects : Array (Option Object)
  /-- The collections that are to be filled, the last one first. -/
  waiting : List ObjectId

/-- Making objects, which may end with a fault. -/
abbrev Build := StateT Builder (Except Fault)

namespace Build

/-! ## Nodes -/

/-- The node with a number. -/
def node (id : NodeId) : Build Node := do
  return (← get).nodes.node id

/-- The keys and values of a mapping. -/
def entries (id : NodeId) : Build (List (NodeId × NodeId)) := do
  return (← get).nodes.entries id

/-- Change the nodes. -/
def modifyNodes (f : NodeTable → NodeTable) : Build Unit :=
  modify fun b => { b with nodes := f b.nodes }

/-- Make the keys for the whole among some entries into texts. -/
def settleKeys (entries : List (NodeId × NodeId)) : Build Unit :=
  entries.forM fun entry => do
    if (← node entry.1).tag = .whole then modifyNodes (·.setTag entry.1 .text)

/-- The entries at the start without a key of the merge kind, and those from such a key on. -/
def spanMerge (entries : List (NodeId × NodeId)) :
    Build (List (NodeId × NodeId) × List (NodeId × NodeId)) := do
  let nodes := (← get).nodes
  return entries.span fun entry => (nodes.node entry.1).tag ≠ .merge

/-- Whether a node is a mapping. -/
def isMapping (id : NodeId) : Build Bool := do
  match (← node id).content with
  | .mapping _ => return true
  | _ => return false

/-- Bring into a mapping what its keys of the merge kind name, from the entry at `index` on; `merged`
is what the keys before it named. Each key is taken out of its mapping before what it names is
looked at, so that there are at most as many steps within each other as there are keys; `depth`
bounds how often one mapping leads to another. -/
def flatten : Nat → Nat → NodeId → Nat → List (NodeId × NodeId) → Build Unit
  | depth, fuel, id, index, merged => do
    if depth = 0 then throw .tooManyLevels
    let all ← entries id
    let (before, rest) ← spanMerge (all.drop index)
    settleKeys before
    match fuel, rest with
    | _, [] => if merged ≠ [] then modifyNodes (·.setEntries id (merged ++ all))
    | 0, _ => throw .malformed
    | fuel + 1, (_, source) :: after => do
      modifyNodes (·.setEntries id (all.take index ++ before ++ after))
      let brought ←
        match (← node source).content with
        | .mapping _ => do
          flatten (depth - 1) fuel source 0 []
          entries source
        | .sequence items => do
          let parts ← items.mapM fun item => do
            if ! (← isMapping item) then throw .malformed
            flatten (depth - 1) fuel item 0 []
            entries item
          pure parts.reverse.flatten
        | .scalar _ => throw .malformed
      flatten depth fuel id (index + before.length) (merged ++ brought)

/-! ## Atoms -/

/-- The text of a node that stands for a text. A mapping may name a key for the whole, whose value
has the text; `depth` bounds how often. -/
def scalarText : Nat → NodeId → Build String
  | 0, _ => throw .tooManyLevels
  | depth + 1, id => do
    match (← node id).content with
    | .scalar text => return text
    | .sequence _ => throw .malformed
    | .mapping entries =>
      let nodes := (← get).nodes
      match entries.find? fun entry => (nodes.node entry.1).tag = .whole with
      | some (_, value) => scalarText depth value
      | none => throw .malformed

/-- The atom that a node stands for. -/
def atomOf (id : NodeId) : Build Atom := do
  let text ← scalarText Document.maxDepth id
  match ← node id with
  | ⟨.timestamp, .mapping _⟩ => throw .compoundTimestamp
  | n =>
    match Scalar.atom n.tag text with
    | .ok a => return a
    | .error fault => throw fault

/-! ## Objects -/

/-- Put an object in its place. -/
def place (id : ObjectId) (o : Object) : Build Unit :=
  modify fun b => { b with objects := b.objects.setIfInBounds id (some o) }

/-- Put an empty collection in its place, which is to be filled. -/
def begin (id : ObjectId) (o : Object) : Build Unit := do
  place id o
  modify fun b => { b with waiting := id :: b.waiting }

/-- The object that was made from a node. -/
def made? (id : NodeId) : Build (Option Object) := do
  return ((← get).objects.getD id none)

/-- Make the object of a node, unless it is made. -/
def make (id : NodeId) : Build Unit := do
  if (← made? id).isSome then return
  match (← node id).tag with
  | .list => begin id (.list [])
  | .orderedMap | .pairs => begin id (.pairs [])
  | .set => begin id (.set [])
  | .map => begin id (.map [])
  | .merge | .whole | .unknown => throw .malformed
  | _ => place id (.atom (← atomOf id))

/-- Whether two atoms, each with its number, are the same key: one object is always the same as
itself. -/
def sameKey (x y : ObjectId × Atom) : Bool :=
  x.1 == y.1 || x.2.same y.2

/-- The entries of a mapping with a value for a key. A key that is given again keeps its place. -/
def put (key : ObjectId × Atom) (value : ObjectId) (entries : List ((ObjectId × Atom) × ObjectId)) :
    List ((ObjectId × Atom) × ObjectId) :=
  if entries.any (sameKey ·.1 key) then
    entries.map fun entry => if sameKey entry.1 key then (entry.1, value) else entry
  else entries ++ [(key, value)]

/-- Make the keys and values of a mapping. A key must be an atom. -/
def makeEntries (id : NodeId) : Build (List (ObjectId × ObjectId)) := do
  if ! (← isMapping id) then throw .malformed
  flatten Document.maxDepth (← get).nodes.entryCount id 0 []
  let made ← (← entries id).foldlM (fun acc entry => do
    make entry.1
    let some (.atom key) ← made? entry.1 | throw Fault.malformed
    make entry.2
    return put (entry.1, key) entry.2 acc) []
  return made.map fun entry => (entry.1.1, entry.2)

/-- Make the key and the value of a mapping that has no others. -/
def makePair (id : NodeId) : Build (ObjectId × ObjectId) := do
  match (← node id).content with
  | .mapping [(key, value)] =>
    make key
    make value
    return (key, value)
  | _ => throw .malformed

/-- Fill the collection of a node. -/
def fill (id : NodeId) : Build Unit := do
  let n ← node id
  match n.tag, n.content with
  | .list, .sequence items =>
    items.forM make
    place id (.list items)
  | .orderedMap, .sequence items | .pairs, .sequence items =>
    place id (.pairs (← items.mapM makePair))
  | .set, _ => place id (.set ((← makeEntries id).map (·.1)))
  | .map, _ => place id (.map (← makeEntries id))
  | _, _ => throw .malformed

/-- Fill the collections that wait, in the order in which they were made, and those made meanwhile
after them. No collection waits twice, so that there are at most as many as nodes. -/
def fillAll : Nat → List ObjectId → Build Unit
  | 0, _ => return
  | fuel + 1, id :: rest => do
    fill id
    fillAll fuel rest
  | fuel + 1, [] => do
    let waiting := (← get).waiting
    if waiting ≠ [] then
      modify fun b => { b with waiting := [] }
      fillAll fuel waiting.reverse

end Build

/-- The document that nodes describe. -/
def Document.ofGraph (g : NodeGraph) : Except Fault Document := do
  let start : Builder := ⟨g.nodes, Array.replicate g.nodes.size none, []⟩
  let work : Build Unit := do
    Build.make g.root
    Build.fillAll (2 * g.nodes.size + 1) []
  let ((), b) ← work.run start
  return ⟨b.objects.map (·.getD (.atom .null)), g.root⟩

end NorFlash.Yaml
