import SchemaPages.Yaml.Node.Basic
import SchemaPages.Yaml.Token.Basic

/-!
# Merging

An entry under the merge key takes over the entries of other mappings. `flatten` replaces such
entries of a mapping by what they take over, which is put in front, where the own entries prevail
over it; of the mappings in a sequence the first one prevails and so comes last.

The mappings that are taken over are flattened first, in the document itself. So one that is met
while it is being flattened, because it takes over itself, gives what it has left at that time.
-/

namespace SchemaPages.Yaml

/-- A step that changes the nodes of a document. -/
abbrev Merging := StateT Nodes (Except Fault)

namespace Merging

/-- The node with a number. -/
def node (id : NodeId) : Merging Node :=
  return (← get).node id

/-- Gives a mapping other entries. -/
def setEntries (id : NodeId) (entries : List Entry) : Merging Unit :=
  modify fun nodes => nodes.modify id fun node => { node with content := .mapping entries }

/-- Makes the key of the default value an ordinary key. -/
def makeOrdinary (key : NodeId) : Merging Unit :=
  modify fun nodes => nodes.modify key fun node =>
    if node.tag = .value then { node with tag := .text } else node

/-- Removes the first entry under the merge key, and returns its value. -/
def removeFirst (id : NodeId) : Merging (Option NodeId) := do
  let nodes ← get
  let entries := (nodes.node id).entries
  match entries.find? fun (key, _) => nodes.tag key = .merge with
  | none => return none
  | some found =>
    setEntries id (entries.erase found)
    return some found.2

/-- Flattens a mapping and returns its entries, where `takeOver` removes the entries under the merge
key and returns what they take over. -/
def flattenBy (takeOver : NodeId → Merging (List Entry)) (id : NodeId) : Merging (List Entry) := do
  match (← node id).content with
  | .mapping _ =>
    let found ← takeOver id
    let own := (← node id).entries
    own.forM fun (key, _) => makeOrdinary key
    setEntries id (found ++ own)
    return found ++ own
  | _ => throw .malformed

/-- Removes the entries under the merge key of a mapping, and returns what they take over. The first
argument is greater than the number of entries under merge keys in the document. -/
def takeOver : Nat → NodeId → Merging (List Entry)
  | 0, _ => throw .malformed
  | fuel + 1, id => do
    match ← removeFirst id with
    | none => return []
    | some value =>
      let found ← match (← node value).content with
        | .sequence items => do
          let lists ← items.mapM (flattenBy (takeOver fuel))
          pure lists.reverse.flatten
        | _ => flattenBy (takeOver fuel) value
      return found ++ (← takeOver fuel id)

/-- Flattens a mapping and returns its entries. The first argument is the number of all entries of
the document, or more. -/
def flatten (entryCount : Nat) (id : NodeId) : Merging (List Entry) :=
  flattenBy (takeOver (entryCount + 1)) id

end Merging

end SchemaPages.Yaml
