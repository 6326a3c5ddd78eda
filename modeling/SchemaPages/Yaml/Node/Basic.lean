import SchemaPages.Yaml.Tag

/-!
# Nodes

A document is a table of nodes in which collections name what they hold by its number. A node may
stand in several places, and a collection may hold itself, so the document is a graph and not a
tree.
-/

namespace SchemaPages.Yaml

/-- The number of a node in its document. -/
abbrev NodeId := Nat

/-- An entry of a mapping: a key and its value. -/
abbrev Entry := NodeId × NodeId

/-- What a node holds. -/
inductive Content where
  | scalar (text : String)
  | sequence (items : List NodeId)
  | mapping (entries : List Entry)
  deriving DecidableEq, Repr

/-- A node. -/
structure Node where
  tag : Tag
  content : Content
  deriving DecidableEq, Repr

/-- The nodes of a document by their numbers. -/
abbrev Nodes := Array Node

/-- A document. -/
structure Document where
  nodes : Nodes
  root : NodeId
  deriving DecidableEq, Repr

namespace Node

/-- A scalar that is left out. -/
def absent : Node :=
  ⟨.null, .scalar ""⟩

/-- The entries of a mapping; another node has none. -/
def entries (node : Node) : List Entry :=
  match node.content with
  | .mapping entries => entries
  | _ => []

end Node

namespace Nodes

/-- The node with a number. -/
def node (nodes : Nodes) (id : NodeId) : Node :=
  nodes[id]?.getD .absent

/-- The tag of the node with a number. -/
def tag (nodes : Nodes) (id : NodeId) : Tag :=
  (nodes.node id).tag

/-- The number of entries of all mappings. -/
def entryCount (nodes : Nodes) : Nat :=
  nodes.foldl (fun count node => count + node.entries.length) 0

end Nodes

end SchemaPages.Yaml
