import SchemaPages.Pairs
import SchemaPages.Yaml.Merge
import SchemaPages.Yaml.Node.Reader
import SchemaPages.Yaml.Scalar

/-!
# Values

The value of a document: scalars, sequences, mappings with scalar keys, and sets. The nodes of the
document are evaluated one after the other: scalars where they are met, and what is inside of a
collection once the collections met before it are done. The first fault counts.

A collection may be in itself, so the value as a tree has no end. `Value.ofParts` shows it down to a
depth.
-/

namespace SchemaPages.Yaml

/-- A value. -/
inductive Value where
  | scalar (value : Scalar)
  | sequence (items : List Value)
  | mapping (entries : List (Scalar × Value))
  | set (members : List Scalar)

/-- What a node stands for; collections name what they hold by its number. -/
inductive Part where
  | scalar (value : Scalar)
  | sequence (items : List NodeId)
  /-- A sequence of pairs. -/
  | pairs (entries : List Entry)
  | mapping (entries : List (Scalar × NodeId))
  | set (members : List Scalar)

/-- What the nodes of a document stand for, as far as they have been evaluated. -/
abbrev Parts := Array (Option Part)

/-! ### Evaluation -/

/-- A document that is partly evaluated. -/
structure Evaluation where
  nodes : Nodes
  /-- The number of entries of all mappings at the start. -/
  entryCount : Nat
  parts : Parts
  /-- The collections that have been met, in this order. -/
  collections : Array NodeId

namespace Evaluation

/-- A step of evaluation. -/
abbrev Evaluating := StateT Evaluation (Except Fault)

/-- A document of which nothing has been evaluated. -/
def start (document : Document) : Evaluation :=
  { nodes := document.nodes
    entryCount := document.nodes.entryCount
    parts := document.nodes.map fun _ => none
    collections := #[] }

/-- The node with a number. -/
def node (id : NodeId) : Evaluating Node :=
  return (← get).nodes.node id

/-- The text of a node that is read as a scalar: its own text, or that of its default value. More
steps than there are nodes lead back to a node that was met before. -/
def textOf (nodes : Nodes) : Nat → NodeId → Except Fault String
  | 0, _ => .error .endless
  | fuel + 1, id =>
    match (nodes.node id).content with
    | .scalar text => .ok text
    | .sequence _ => malformed
    | .mapping entries =>
      match entries.find? fun (key, _) => nodes.tag key = .value with
      | some (_, value) => textOf nodes fuel value
      | none => malformed

/-- The scalar that a node stands for. Only a timestamp has to be a text itself. -/
def scalarOf (nodes : Nodes) (id : NodeId) : Except Fault Scalar := do
  let text ← textOf nodes (nodes.size + 1) id
  match nodes.tag id, (nodes.node id).content with
  | .timestamp, .mapping _ => .error Scalar.mappedTimestampFault
  | tag, _ => Scalar.ofText tag text

/-- The collection with a tag, before anything is in it. -/
def emptyPart? : Tag → Option Part
  | .sequence => some (.sequence [])
  | .mapping => some (.mapping [])
  | .set => some (.set [])
  | .orderedMap | .pairs => some (.pairs [])
  | _ => none

/-- Sets what a node stands for. -/
def setPart (id : NodeId) (part : Part) : Evaluating Unit :=
  modify fun s => { s with parts := s.parts.setIfInBounds id (some part) }

/-- What a node stands for. It is evaluated if it is met for the first time; a collection is empty
then. -/
def meet (id : NodeId) : Evaluating Part := do
  let s ← get
  match s.parts[id]?.join with
  | some part => return part
  | none =>
    match emptyPart? (s.nodes.tag id) with
    | some part =>
      setPart id part
      modify fun s => { s with collections := s.collections.push id }
      return part
    | none =>
      let part := .scalar (← scalarOf s.nodes id)
      setPart id part
      return part

/-- The scalar that a key stands for. -/
def meetKey (id : NodeId) : Evaluating Scalar := do
  match ← meet id with
  | .scalar value => return value
  | _ => throw .malformed

/-- Meets the items of a sequence. -/
def meetItems (id : NodeId) : Evaluating (List NodeId) := do
  match (← node id).content with
  | .sequence items =>
    items.forM fun item => discard (meet item)
    return items
  | _ => throw .malformed

/-- Meets the keys and values of a mapping, which is flattened first. Of several values of a key the
last one counts. -/
def meetEntries (id : NodeId) : Evaluating (List (Scalar × NodeId)) := do
  let s ← get
  let (entries, nodes) ← Merging.flatten s.entryCount id s.nodes
  set { s with nodes }
  let found ← entries.mapM fun (key, value) => do
    let name ← meetKey key
    discard (meet value)
    return (name, value)
  return Pairs.ofList found

/-- Meets the key and the value of a mapping that is a pair. -/
def meetPair (id : NodeId) : Evaluating Entry := do
  match (← node id).content with
  | .mapping [(key, value)] =>
    discard (meet key)
    discard (meet value)
    return (key, value)
  | _ => throw .malformed

/-- Meets the pairs in a sequence. -/
def meetPairs (id : NodeId) : Evaluating (List Entry) := do
  match (← node id).content with
  | .sequence items => items.mapM meetPair
  | _ => throw .malformed

/-- Puts into a collection what is inside of it. -/
def fill (id : NodeId) : Evaluating Unit := do
  match emptyPart? (← node id).tag with
  | some (.sequence _) => setPart id (.sequence (← meetItems id))
  | some (.pairs _) => setPart id (.pairs (← meetPairs id))
  | some (.mapping _) => setPart id (.mapping (← meetEntries id))
  | some (.set _) => setPart id (.set ((← meetEntries id).map Prod.fst))
  | _ => return

/-- Fills the collections from one of them on. The first argument bounds their number. -/
def fillFrom : Nat → Nat → Evaluating Unit
  | 0, _ => return
  | fuel + 1, next => do
    match (← get).collections[next]? with
    | none => return
    | some id =>
      fill id
      fillFrom fuel (next + 1)

/-- Evaluates all nodes that are met from the root on. -/
def evaluate (document : Document) : Except Fault Parts := do
  let steps : Evaluating Unit := do
    discard (meet document.root)
    fillFrom document.nodes.size 0
  let ((), s) ← steps.run (start document)
  return s.parts

end Evaluation

/-! ### The value as a tree -/

namespace Value

/-- The value of a node down to a depth, where collections are shown empty. -/
def ofParts (parts : Parts) : Nat → NodeId → Value
  | 0, id =>
    match parts[id]?.join with
    | some (.scalar value) => .scalar value
    | some (.mapping _) => .mapping []
    | some (.set _) => .set []
    | _ => .sequence []
  | depth + 1, id =>
    match parts[id]?.join with
    | some (.scalar value) => .scalar value
    | some (.sequence items) => .sequence (items.map (ofParts parts depth))
    | some (.pairs entries) =>
      .sequence (entries.map fun (key, value) =>
        .sequence [ofParts parts depth key, ofParts parts depth value])
    | some (.mapping entries) =>
      .mapping (entries.map fun (key, value) => (key, ofParts parts depth value))
    | some (.set members) => .set members
    | none => .sequence []

/-- The value under a key that is a text. -/
def entry? (name : String) (entries : List (Scalar × Value)) : Option Value :=
  (entries.find? fun (key, _) => key == .text name).map Prod.snd

end Value

/-- The value of a document down to a depth. -/
def Document.value (depth : Nat) (document : Document) : Except Fault Value :=
  return Value.ofParts (← Evaluation.evaluate document) depth document.root

/-- The value of the document in a text, down to a depth; a text without a document has the missing
value. Collections may lie in each other as deep as they like: a reader that has room for some depth
only gives up on deeper documents. -/
def load (depth : Nat) (text : String) : Except Fault Value := do
  match ← Document.ofTokens (Tokens.ofText text.toList) with
  | none => return .scalar .null
  | some document => document.value depth

end SchemaPages.Yaml
