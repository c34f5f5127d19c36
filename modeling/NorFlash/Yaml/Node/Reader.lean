import NorFlash.Yaml.Node.Basic
import NorFlash.Yaml.Token.Lexer

/-!
# From tokens to nodes

`NodeGraph.ofTokens` reads the one node that the tokens of a document describe. A collection is a
block or stands in brackets, a node may carry a name and a tag, and a reference stands for the node
that it names. The tokens may be only the first ones of a document: then reading halts where it
needs more of them.
-/

namespace NorFlash.Yaml

/-! ## State -/

/-- The state of the reader. -/
structure Reader where
  /-- The tokens that are not yet read. -/
  rest : List Token
  /-- Whether no tokens follow them. -/
  complete : Bool
  /-- The handles of tags and the starts of the tags they stand for. -/
  handles : List (String × String)
  /-- The names given so far. -/
  anchors : List (String × NodeId)
  /-- The nodes read so far. -/
  nodes : NodeTable

/-- Reading tokens, which may halt. -/
abbrev Read := StateT Reader (Except Halt)

namespace Read

/-- Halt because the tokens describe no document. -/
def refuse : Read α :=
  throw .malformed

/-- The next token; there is none at the end. -/
def peek : Read (Option Token) := do
  let r ← get
  match r.rest with
  | token :: _ => return some token
  | [] => if r.complete then return none else throw .unread

/-- Go on to the next token. -/
def skip : Read Unit :=
  modify fun r => { r with rest := r.rest.tail }

/-- Whether the next token is one of some. -/
def sees (tokens : List Token) : Read Bool := do
  return (← peek).any tokens.contains

/-- Read a token if it is the next one. -/
def accept (token : Token) : Read Bool := do
  let found ← sees [token]
  if found then skip
  return found

/-- Read a token, which must be the next one. -/
def expect (token : Token) : Read Unit := do
  if ! (← accept token) then refuse

/-! ## Names and tags -/

/-- The name that is written here. -/
def anchor? : Read (Option String) := do
  match ← peek with
  | some (.anchor name) => skip; return some name
  | _ => return none

/-- The tag that is written here: its handle and the rest of it. -/
def tag? : Read (Option (String × String)) := do
  match ← peek with
  | some (.tag handle suffix) => skip; return some (handle, suffix)
  | _ => return none

/-- The whole text of a tag. -/
def tagName (tag : Option (String × String)) : Read (Option String) := do
  match tag with
  | none => return none
  | some (handle, suffix) =>
    if handle.isEmpty then return some suffix
    match (← get).handles.lookup handle with
    | some start => return some (start ++ suffix)
    | none => refuse

/-- The name and the tag that are written here, in any order, and the token after them. -/
def properties : Read (Option String × Option String × Option Token) := do
  let (anchor, tag) ←
    match ← anchor? with
    | some name => pure (some name, ← tag?)
    | none =>
      match ← tag? with
      | some tag => pure (← anchor?, some tag)
      | none => pure (none, none)
  let next ← peek
  return (anchor, ← tagName tag, next)

/-- The tag of a collection. A lone exclamation mark says nothing about it. -/
def collectionTag (tag : Option String) (plain : Tag) : Tag :=
  match tag with
  | none => plain
  | some "!" => plain
  | some name => .ofName name

/-- The tag of a scalar. A lone exclamation mark makes it a plain one. -/
def scalarTag (tag : Option String) (plain : Bool) (text : String) : Tag :=
  match tag with
  | none => if plain then .ofPlain text else .text
  | some "!" => .ofPlain text
  | some name => .ofName name

/-- The tag of a scalar that is not written but has a name or a tag. -/
def absentTag (tag : Option String) : Tag :=
  match tag with
  | none => .null
  | some "!" => .text
  | some name => .ofName name

/-- The node that a name stands for. -/
def resolve (name : String) : Read NodeId := do
  match (← get).anchors.lookup name with
  | some id => return id
  | none => refuse

/-- Add a node. -/
def add (node : Node) : Read NodeId := do
  let id := (← get).nodes.size
  modify fun r => { r with nodes := r.nodes.push node }
  return id

/-- Add a node under its name, which must be new. -/
def define (anchor : Option String) (node : Node) : Read NodeId := do
  match anchor with
  | none => add node
  | some name =>
    if ((← get).anchors.lookup name).isSome then refuse
    let id ← add node
    modify fun r => { r with anchors := (name, id) :: r.anchors }
    return id

/-- Add the node of a scalar that is not written. -/
def absent : Read NodeId :=
  add .absent

/-- Add a collection, which has its name before its parts are read. -/
def collection (anchor : Option String) (tag : Tag) (read : Read NodeContent) : Read NodeId := do
  let id ← define anchor ⟨tag, .sequence []⟩
  let content ← read
  modify fun r => { r with nodes := r.nodes.replace id ⟨tag, content⟩ }
  return id

/-! ## Nodes -/

mutual

/-- Read a node. It may be a block where `block` says so, and the items of a sequence may stand as
far left as the key before them where `indentless` says so. -/
def node (block indentless : Bool) : Nat → Read NodeId
  | 0 => refuse
  | fuel + 1 => do
    if let some (.reference name) ← peek then
      skip
      return ← resolve name
    let (anchor, tag, next) ← properties
    let list := collection anchor (collectionTag tag .list)
    let map := collection anchor (collectionTag tag .map)
    match next with
    | some (.scalar plain text) => skip; define anchor ⟨scalarTag tag plain text, .scalar text⟩
    | some .flowSequence => list do skip; return .sequence (← flowItems true fuel)
    | some .flowMapping => map do skip; return .mapping (← flowEntries true fuel)
    | _ =>
      if indentless && next == some .item then list do return .sequence (← looseItems fuel)
      else if block && next == some .blockSequence then
        list do skip; return .sequence (← blockItems fuel)
      else if block && next == some .blockMapping then
        map do skip; return .mapping (← blockEntries fuel)
      else if anchor.isSome || tag.isSome then define anchor ⟨absentTag tag, .scalar ""⟩
      else refuse

/-- Read a node unless one of the tokens that may follow it is next. -/
def nodeUnless (stops : List Token) (block indentless : Bool) : Nat → Read NodeId
  | 0 => refuse
  | fuel + 1 => do
    if ← sees stops then absent else node block indentless fuel

/-- Read the items of a sequence that is indented. -/
def blockItems : Nat → Read (List NodeId)
  | 0 => refuse
  | fuel + 1 => do
    if ← accept .blockEnd then return []
    expect .item
    let first ← nodeUnless [.item, .blockEnd] true false fuel
    return first :: (← blockItems fuel)

/-- Read the items of a sequence that is not indented. -/
def looseItems : Nat → Read (List NodeId)
  | 0 => refuse
  | fuel + 1 => do
    if ← accept .item then
      let first ← nodeUnless [.item, .key, .value, .blockEnd] true false fuel
      return first :: (← looseItems fuel)
    else return []

/-- Read the entries of a mapping that is indented. -/
def blockEntries : Nat → Read (List (NodeId × NodeId))
  | 0 => refuse
  | fuel + 1 => do
    if ← accept .blockEnd then return []
    expect .key
    let stops := [Token.key, .value, .blockEnd]
    let key ← nodeUnless stops true true fuel
    let value ← if ← accept .value then nodeUnless stops true true fuel else absent
    return (key, value) :: (← blockEntries fuel)

/-- Read the items of a sequence in brackets. An item with a key is a mapping of one entry. -/
def flowItems (first : Bool) : Nat → Read (List NodeId)
  | 0 => refuse
  | fuel + 1 => do
    if ← accept .flowSequenceEnd then return []
    if !first then expect .comma
    if ← accept .flowSequenceEnd then return []
    let item ←
      if ← accept .key then collection none .map (return .mapping (← flowPair fuel))
      else node false false fuel
    return item :: (← flowItems false fuel)

/-- Read the only entry of a mapping without braces. The token after a key that is not written is
not looked at. -/
def flowPair : Nat → Read (List (NodeId × NodeId))
  | 0 => refuse
  | fuel + 1 => do
    let key ← if ← sees [.value, .comma, .flowSequenceEnd] then do skip; absent
      else node false false fuel
    let value ← if ← accept .value then nodeUnless [.comma, .flowSequenceEnd] false false fuel
      else absent
    return [(key, value)]

/-- Read the entries of a mapping in braces. An entry without a colon has no value. -/
def flowEntries (first : Bool) : Nat → Read (List (NodeId × NodeId))
  | 0 => refuse
  | fuel + 1 => do
    if ← accept .flowMappingEnd then return []
    if !first then expect .comma
    if ← accept .flowMappingEnd then return []
    let entry ←
      if ← accept .key then
        let key ← nodeUnless [.value, .comma, .flowMappingEnd] false false fuel
        let value ← if ← accept .value then nodeUnless [.comma, .flowMappingEnd] false false fuel
          else absent
        pure (key, value)
      else
        pure (← node false false fuel, ← absent)
    return entry :: (← flowEntries false fuel)

end

/-! ## Documents -/

/-- The handles that every document has. -/
def commonHandles : List (String × String) :=
  [("!", "!"), ("!!", Tag.commonStart)]

/-- Read the directives in front of a document: one version at most, which must be known, and
handles, each of which is given once. The answer tells whether there are any. -/
def directives (versioned : Bool) (given : List String) : Nat → Read Bool
  | 0 => refuse
  | fuel + 1 => do
    match ← peek with
    | some (.version major minor) =>
      if versioned || major ≠ 1 || (minor ≠ 1 && minor ≠ 2) then refuse
      skip
      let _ ← directives true given fuel
      return true
    | some (.tagHandle handle start) =>
      if given.contains handle then refuse
      skip
      modify fun r => { r with handles := (handle, start) :: r.handles }
      let _ ← directives versioned (handle :: given) fuel
      return true
    | _ => return false

/-- Skip the marks that end a document. -/
def documentEnds : Nat → Read Unit
  | 0 => refuse
  | fuel + 1 => do
    if ← accept .documentEnd then documentEnds fuel

/-- Read a document. A mark must start it after directives. -/
def document (fuel : Nat) : Read NodeId := do
  let directed ← directives false [] fuel
  if ← accept .documentStart then
    if (← peek).isNone then return ← absent
    nodeUnless [.documentStart, .documentEnd] true false fuel
  else if directed then refuse
  else node true false fuel

/-- Read all tokens: nothing at all, or one document. -/
def stream (fuel : Nat) : Read NodeId := do
  if (← peek).isNone then return ← absent
  let root ← document fuel
  documentEnds fuel
  if (← peek).isSome then refuse
  return root

end Read

/-- The nodes that the tokens of a text describe; `complete` tells whether these are all its tokens.
Two calls of the reader need a token at least, so that the fuel lasts. -/
def NodeGraph.ofTokens (complete : Bool) (tokens : List Token) : Except Halt NodeGraph := do
  let start : Reader := ⟨tokens, complete, Read.commonHandles, [], #[]⟩
  let (root, r) ← (Read.stream (2 * tokens.length + 4)).run start
  return ⟨r.nodes, root⟩

end NorFlash.Yaml
