import SchemaPages.Yaml.Node.Basic
import SchemaPages.Yaml.Token.Lexer

/-!
# Reading nodes

`Document.ofTokens` reads a document out of the tokens of a text, which must hold one document at
most. A node may be given a name, which must be new, and be referred to by its name from there on,
even from inside of it.

A fault behind the tokens counts only if the tokens are read to their end: whatever is wrong in
front of it is found first.
-/

namespace SchemaPages.Yaml

namespace Node

/-! ### The grammar of tokens -/

/-- Tokens that are partly read, with the nodes that have been found. -/
structure Reader where
  tokens : List Token
  /-- The fault behind the tokens. -/
  fault : Option Fault
  /-- What the handles of tags stand for. -/
  handles : List (String × String)
  /-- The names that have been given. -/
  names : List (String × NodeId)
  nodes : Nodes

/-- A step of reading. -/
abbrev Reading := StateT Reader (Except Fault)

/-- The next token. There is none at the end of the text. -/
def peek : Reading (Option Token) := do
  let s ← get
  match s.tokens, s.fault with
  | token :: _, _ => return some token
  | [], none => return none
  | [], some fault => throw fault

/-- Passes a token. -/
def pass : Reading Unit :=
  modify fun s => { s with tokens := s.tokens.tail }

/-- The text breaks the rules. -/
def refuse {α : Type} : Reading α :=
  throw .malformed

/-- Whether the next token is one of these. -/
def nextIs (tokens : List Token) : Reading Bool :=
  return (← peek).any tokens.contains

/-! ### Properties -/

/-- The properties in front of a node: its name and its tag. -/
structure Properties where
  name : Option String
  tag : Option String

/-- Whether a node has properties. -/
def Properties.areGiven (properties : Properties) : Bool :=
  properties.name.isSome || properties.tag.isSome

/-- Reads a tag with its handle, if one follows. -/
def readTag : Reading (Option (Option String × String)) := do
  match ← peek with
  | some (.tag handle suffix) =>
    pass
    return some (handle, suffix)
  | _ => return none

/-- Reads a name, if one follows. -/
def readName : Reading (Option String) := do
  match ← peek with
  | some (.anchor name) =>
    pass
    return some name
  | _ => return none

/-- The name of a tag that is written with a handle or without. -/
def tagName : Option String × String → Reading String
  | (none, suffix) => return suffix
  | (some handle, suffix) => do
    match (← get).handles.lookup handle with
    | some expansion => return expansion ++ suffix
    | none => refuse

/-- Reads the properties, in either order. -/
def readProperties : Reading Properties := do
  let before ← readName
  let tag ← readTag
  let name ← if before.isNone && tag.isSome then readName else pure before
  return ⟨name, ← tag.mapM tagName⟩

/-- The tag that leaves it to the notation what a node stands for. -/
def openTag : String := "!"

/-- The tag of a scalar. -/
def scalarTag (properties : Properties) (text : String) (isPlain : Bool) : Tag :=
  match properties.tag with
  | none => if isPlain then Tag.ofPlain text else .text
  | some name => if name = openTag then Tag.ofPlain text else Tag.ofName name

/-- The tag of a sequence or a mapping. -/
def collectionTag (properties : Properties) (default : Tag) : Tag :=
  match properties.tag with
  | none => default
  | some name => if name = openTag then default else Tag.ofName name

/-! ### Nodes -/

/-- Adds a node. -/
def add (node : Node) : Reading NodeId := do
  let id := (← get).nodes.size
  modify fun s => { s with nodes := s.nodes.push node }
  return id

/-- Gives a node its name, which must be new. -/
def declare (properties : Properties) (id : NodeId) : Reading Unit := do
  match properties.name with
  | none => return
  | some name =>
    if ((← get).names.lookup name).isSome then refuse
    else modify fun s => { s with names := (name, id) :: s.names }

/-- Adds a scalar. -/
def addScalar (properties : Properties) (text : String) (isPlain : Bool) : Reading NodeId := do
  let id ← add ⟨scalarTag properties text isPlain, .scalar text⟩
  declare properties id
  return id

/-- Adds a sequence. It has its number before its items are read. -/
def addSequence (properties : Properties) (items : Reading (List NodeId)) : Reading NodeId := do
  let tag := collectionTag properties .sequence
  let id ← add ⟨tag, .sequence []⟩
  declare properties id
  let found ← items
  modify fun s => { s with nodes := s.nodes.setIfInBounds id ⟨tag, .sequence found⟩ }
  return id

/-- Adds a mapping. It has its number before its entries are read. -/
def addMapping (properties : Properties) (entries : Reading (List Entry)) : Reading NodeId := do
  let tag := collectionTag properties .mapping
  let id ← add ⟨tag, .mapping []⟩
  declare properties id
  let found ← entries
  modify fun s => { s with nodes := s.nodes.setIfInBounds id ⟨tag, .mapping found⟩ }
  return id

/-- Where a node stands: in brackets, in a block, or as the value or key of a block mapping, where a
sequence may be written without indentation. -/
inductive Setting where
  | flow
  | block
  | member
  deriving DecidableEq

mutual

/-- Reads a node. The last argument bounds the steps. -/
def read (setting : Setting) : Nat → Reading NodeId
  | 0 => refuse
  | fuel + 1 => do
    match ← peek with
    | some (.alias name) =>
      pass
      match (← get).names.lookup name with
      | some id => return id
      | none => refuse
    | _ =>
      let properties ← readProperties
      match ← peek with
      | some (.scalar text isPlain) =>
        pass
        addScalar properties text isPlain
      | some .flowSequenceStart =>
        pass
        addSequence properties (readFlowItems true fuel)
      | some .flowMappingStart =>
        pass
        addMapping properties (readFlowEntries true fuel)
      | token =>
        if setting = .member && token = some .blockEntry then
          addSequence properties (readLooseItems fuel)
        else if setting ≠ .flow && token = some .blockSequenceStart then
          pass
          addSequence properties (readBlockItems fuel)
        else if setting ≠ .flow && token = some .blockMappingStart then
          pass
          addMapping properties (readBlockEntries fuel)
        else if properties.areGiven then addScalar properties "" true
        else refuse

/-- Reads a node, or leaves it out in front of one of these tokens. -/
def readUnless (ends : List Token) (setting : Setting) : Nat → Reading NodeId
  | 0 => refuse
  | fuel + 1 => do
    if ← nextIs ends then add absent else read setting fuel

/-- Reads the items of a block sequence and its end. -/
def readBlockItems : Nat → Reading (List NodeId)
  | 0 => refuse
  | fuel + 1 => do
    match ← peek with
    | some .blockEntry =>
      pass
      let item ← readUnless [.blockEntry, .blockEnd] .block fuel
      return item :: (← readBlockItems fuel)
    | some .blockEnd =>
      pass
      return []
    | _ => refuse

/-- Reads the items of a sequence that is not indented. -/
def readLooseItems : Nat → Reading (List NodeId)
  | 0 => refuse
  | fuel + 1 => do
    match ← peek with
    | some .blockEntry =>
      pass
      let item ← readUnless [.blockEntry, .key, .value, .blockEnd] .block fuel
      return item :: (← readLooseItems fuel)
    | _ => return []

/-- Reads the entries of a block mapping and its end. -/
def readBlockEntries : Nat → Reading (List Entry)
  | 0 => refuse
  | fuel + 1 => do
    match ← peek with
    | some .key =>
      pass
      let key ← readUnless [.key, .value, .blockEnd] .member fuel
      let value ← readValue [.key, .value, .blockEnd] .member fuel
      return (key, value) :: (← readBlockEntries fuel)
    | some .blockEnd =>
      pass
      return []
    | _ => refuse

/-- Reads the value of a key, if a colon follows. -/
def readValue (ends : List Token) (setting : Setting) : Nat → Reading NodeId
  | 0 => refuse
  | fuel + 1 => do
    match ← peek with
    | some .value =>
      pass
      readUnless ends setting fuel
    | _ => add absent

/-- Reads the items of a sequence in brackets and the closing bracket. A key among the items makes a
mapping with one entry. -/
def readFlowItems (first : Bool) : Nat → Reading (List NodeId)
  | 0 => refuse
  | fuel + 1 => do
    match ← peek with
    | some .flowSequenceEnd =>
      pass
      return []
    | token =>
      if !first then
        if token = some .flowEntry then pass else refuse
      match ← peek with
      | some .flowSequenceEnd =>
        pass
        return []
      | some .key =>
        pass
        let key ← readUnless [.value, .flowEntry, .flowSequenceEnd] .flow fuel
        let value ← readValue [.flowEntry, .flowSequenceEnd] .flow fuel
        let item ← addMapping ⟨none, none⟩ (return [(key, value)])
        return item :: (← readFlowItems false fuel)
      | _ =>
        let item ← read .flow fuel
        return item :: (← readFlowItems false fuel)

/-- Reads the entries of a mapping in braces and the closing brace. A node that is no key has no
value. -/
def readFlowEntries (first : Bool) : Nat → Reading (List Entry)
  | 0 => refuse
  | fuel + 1 => do
    match ← peek with
    | some .flowMappingEnd =>
      pass
      return []
    | token =>
      if !first then
        if token = some .flowEntry then pass else refuse
      match ← peek with
      | some .flowMappingEnd =>
        pass
        return []
      | some .key =>
        pass
        let key ← readUnless [.value, .flowEntry, .flowMappingEnd] .flow fuel
        let value ← readValue [.flowEntry, .flowMappingEnd] .flow fuel
        return (key, value) :: (← readFlowEntries false fuel)
      | _ =>
        let key ← read .flow fuel
        let value ← add absent
        return (key, value) :: (← readFlowEntries false fuel)

end

end Node

namespace Document

open Node

/-- The handles that need not be declared. -/
def defaultHandles : List (String × String) :=
  [("!", "!"), ("!!", standardPrefix)]

/-- Reads the directives in front of a document: the version at most once, and handles that are not
declared yet. -/
def readDirectives : Nat → Bool → List (String × String) → Reading (List (String × String))
  | 0, _, _ => refuse
  | fuel + 1, versioned, handles => do
    match ← peek with
    | some (.directive (.version major _)) =>
      pass
      if versioned || major ≠ 1 then refuse else readDirectives fuel true handles
    | some (.directive (.handle name expansion)) =>
      pass
      if (handles.lookup name).isSome then refuse
      else readDirectives fuel versioned ((name, expansion) :: handles)
    | some (.directive .unknown) =>
      pass
      readDirectives fuel versioned handles
    | _ => return handles

/-- Passes the ends of documents. -/
def passEnds : Nat → Reading Unit
  | 0 => refuse
  | fuel + 1 => do
    if ← nextIs [.documentEnd] then
      pass
      passEnds fuel

/-- Reads a document that begins with directives or a document start, if there is one. -/
def readExplicit (fuel : Nat) : Reading (Option NodeId) := do
  passEnds fuel
  match ← peek with
  | none => return none
  | some _ =>
    let handles ← readDirectives fuel false []
    if ← nextIs [.documentStart] then
      pass
      modify fun s => { s with handles := handles ++ defaultHandles }
      match ← peek with
      | none | some (.directive _) | some .documentStart | some .documentEnd =>
        return some (← add absent)
      | some _ => return some (← Node.read .block fuel)
    else refuse

/-- Reads the first document of a text. Its directives and its start may be left out. -/
def readFirst (fuel : Nat) : Reading (Option NodeId) := do
  match ← peek with
  | none | some (.directive _) | some .documentStart => readExplicit fuel
  | some _ => return some (← Node.read .block fuel)

/-- Reads the rest of a text behind a document. What stands in front of another document is read
before that is refused. -/
def readEnd (fuel : Nat) : Reading Unit := do
  passEnds fuel
  if (← peek).isSome then
    discard (readDirectives fuel false [])
    refuse

/-- Reads the only document of a text, if there is one. -/
def readOnly (fuel : Nat) : Reading (Option Document) := do
  match ← readFirst fuel with
  | none => return none
  | some root =>
    readEnd fuel
    return some ⟨(← get).nodes, root⟩

/-- The document in the tokens of a text, if there is one. -/
def ofTokens (tokens : Tokens) : Except Fault (Option Document) :=
  (readOnly (4 * tokens.list.length + 4)).run' ⟨tokens.list, tokens.fault, defaultHandles, [], #[]⟩

end Document

end SchemaPages.Yaml
