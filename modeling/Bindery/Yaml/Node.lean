import Bindery.Stack
import Bindery.Yaml.Schema
import Bindery.Yaml.Token

/-!
# The nodes of a YAML document

A document is one node: a scalar, a sequence or a mapping, each with its type. `Graph.ofTokens`
reads it. Every node that the text writes has a number, and collections give their parts by
these numbers; so an alias is the number of the node with its anchor, and a collection may be
among its own parts.
-/

namespace Bindery.Yaml

inductive Content where
  | scalar (text : Text)
  | sequence (items : List Nat)
  | mapping (entries : List (Nat × Nat))
  deriving Repr, Inhabited

structure Node where
  type : TypeTag
  content : Content
  deriving Repr, Inhabited

/-- The nodes of a document by their numbers; the first one is the document. -/
abbrev Graph := Array Node

/-- What is left of a text's tokens, with the handles and anchors known so far, and the nodes
read; how many collections are open around the place. -/
structure Parser where
  tokens : List Token
  handles : List (String × String) := [("!", "!"), ("!!", standardTag)]
  anchors : List (String × Nat) := []
  nodes : Graph := #[]
  depth : Nat := 0

namespace Parser

abbrev Parse := StateT Parser (Except ReadProblem)

def fail {α : Type} : Parse α := throw .malformed

/-- The next token, none at the end of the text. -/
def peek : Parse (Option Token) := do
  match (← get).tokens.head? with
  | some (.broken problem) => throw problem
  | t => return t

def drop : Parse Unit := modify fun s => { s with tokens := s.tokens.drop 1 }

/-- Takes the next token if it is the given one. -/
def accept (t : Token) : Parse Bool := do
  if (← peek) = some t then
    drop
    return true
  else return false

/-- Whether the next token is one of the given ones. -/
def isAt (ts : List Token) : Parse Bool := return (← peek).any ts.contains

/-- Takes a node in and gives it its number. -/
def add (node : Node) : Parse Nat :=
  modifyGet fun s => (s.nodes.size, { s with nodes := s.nodes.push node })

/-- The node of something left out. -/
def empty : Parse Nat := add ⟨.null, .scalar ""⟩

/-- What a node is marked with: an anchor and a full tag. -/
structure Marks where
  anchor : Option String := none
  tag : Option String := none

def anchorMark : Parse (Option String) := do
  match ← peek with
  | some (.anchor name) =>
    drop
    return some name
  | _ => return none

/-- A tag: its handle and its text. -/
def tagMark : Parse (Option (Option String × String)) := do
  match ← peek with
  | some (.tag handle suffix) =>
    drop
    return some (handle, suffix)
  | _ => return none

/-- A tag in full, its handle looked up. -/
def fullTag : Option String × String → Parse String
  | (none, suffix) => return suffix
  | (some handle, suffix) => do
    match (← get).handles.lookup handle with
    | some stands => return stands ++ suffix
    | none => fail

/-- An anchor and a tag, in either order. -/
def marks : Parse Marks := do
  let first ← anchorMark
  let tag ← tagMark
  let anchor ← if first.isNone && tag.isSome then anchorMark else pure first
  return { anchor, tag := ← tag.mapM fullTag }

/-- The type of a collection: its tag, unless that leaves the type open. -/
def Marks.collectionType (m : Marks) (default : TypeTag) : TypeTag :=
  match m.tag with
  | none => default
  | some tag => if tag = "!" then default else typeOfTag tag

/-- The type of a scalar: its tag, or the form of its text when it is plain or has the tag that
leaves the type open. -/
def Marks.scalarType (m : Marks) (isPlain : Bool) (text : Text) : TypeTag :=
  match m.tag with
  | none => if isPlain then resolve text else .str
  | some tag => if tag = "!" then resolve text else typeOfTag tag

/-- Makes a node known under its anchor; each anchor may be there once. -/
def introduce (m : Marks) (number : Nat) : Parse Unit := do
  match m.anchor with
  | none => return
  | some name =>
    if ((← get).anchors.lookup name).isSome then fail
    modify fun s => { s with anchors := (name, number) :: s.anchors }

/-- Takes a scalar in. -/
def scalar (m : Marks) (isPlain : Bool) (text : Text) : Parse Nat := do
  let number ← add ⟨m.scalarType isPlain text, .scalar text⟩
  introduce m number
  return number

/-- How many collections may stand inside one another. -/
def deepest [Stack] : Nat := Stack.yamlRead

/-- Takes a collection in; it is known under its anchor before its parts are read. -/
def collection (m : Marks) (default : TypeTag) (parts : Parse Content) : Parse Nat := do
  let number ← add ⟨m.collectionType default, .sequence []⟩
  introduce m number
  modify fun s => { s with depth := s.depth + 1 }
  let content ← parts
  modify fun s =>
    { s with
      depth := s.depth - 1
      nodes := s.nodes.modify number fun node => { node with content } }
  return number

/-- Refuses a node with too many collections around it. -/
def checkDepth [Stack] : Parse Unit := do
  if deepest < (← get).depth then throw (.fault .tooDeep)

/-- Nothing behind marks is an empty scalar; nothing at all is a problem. -/
def nothing (m : Marks) : Parse Nat :=
  if m.anchor.isSome || m.tag.isSome then scalar m true "" else fail

mutual

/-- A node. `inBlock` allows block collections, `atKey` a sequence that is not indented. `fuel`
bounds the depth of the calls; the number of tokens is enough for each of them. -/
def node [Stack] (inBlock atKey : Bool) : Nat → Parse Nat
  | 0 => fail
  | fuel + 1 => do
    checkDepth
    match ← peek with
    | some (.alias name) =>
      drop
      match (← get).anchors.lookup name with
      | some number => return number
      | none => fail
    | _ => content inBlock atKey (← marks) fuel

/-- A node behind its marks. -/
def content [Stack] (inBlock atKey : Bool) (m : Marks) : Nat → Parse Nat
  | 0 => fail
  | fuel + 1 => do
    match ← peek with
    | some (.scalar text isPlain) =>
      drop
      scalar m isPlain text
    | some .flowSequenceStart =>
      drop
      collection m .seq (.sequence <$> flowItems true fuel)
    | some .flowMappingStart =>
      drop
      collection m .map (.mapping <$> flowEntries true fuel)
    | some .blockEntry =>
      if atKey then collection m .seq (.sequence <$> looseItems fuel) else nothing m
    | some .blockSequenceStart =>
      if inBlock then
        drop
        collection m .seq (.sequence <$> blockItems fuel)
      else nothing m
    | some .blockMappingStart =>
      if inBlock then
        drop
        collection m .map (.mapping <$> blockEntries fuel)
      else nothing m
    | _ => nothing m

/-- The items of a block sequence. -/
def blockItems [Stack] : Nat → Parse (List Nat)
  | 0 => fail
  | fuel + 1 => do
    if ← accept .blockEntry then
      let item ← if ← isAt [.blockEntry, .blockEnd] then empty else node true false fuel
      return item :: (← blockItems fuel)
    else if ← accept .blockEnd then return []
    else fail

/-- The items of a sequence that is not indented below its key. -/
def looseItems [Stack] : Nat → Parse (List Nat)
  | 0 => fail
  | fuel + 1 => do
    if ← accept .blockEntry then
      let item ←
        if ← isAt [.blockEntry, .key, .value, .blockEnd] then empty else node true false fuel
      return item :: (← looseItems fuel)
    else return []

/-- The entries of a block mapping. -/
def blockEntries [Stack] : Nat → Parse (List (Nat × Nat))
  | 0 => fail
  | fuel + 1 => do
    if ← accept .key then
      let key ← if ← isAt [.key, .value, .blockEnd] then empty else node true true fuel
      let value ←
        if ← accept .value then
          if ← isAt [.key, .value, .blockEnd] then empty else node true true fuel
        else empty
      return (key, value) :: (← blockEntries fuel)
    else if ← accept .blockEnd then return []
    else fail

/-- The items of a sequence in brackets. A key makes an item a mapping of one entry. -/
def flowItems [Stack] (first : Bool) : Nat → Parse (List Nat)
  | 0 => fail
  | fuel + 1 => do
    if ← accept .flowSequenceEnd then return []
    if !first then
      if !(← accept .flowEntry) then fail
    if ← accept .key then
      let item ← collection {} .map ((fun entry => .mapping [entry]) <$> singleEntry fuel)
      return item :: (← flowItems false fuel)
    else if ← accept .flowSequenceEnd then return []
    else
      let item ← node false false fuel
      return item :: (← flowItems false fuel)

/-- The entry of a mapping that is an item in brackets, behind the mark of its key. -/
def singleEntry [Stack] : Nat → Parse (Nat × Nat)
  | 0 => fail
  | fuel + 1 => do
    let key ←
      if ← isAt [.value, .flowEntry, .flowSequenceEnd] then empty else node false false fuel
    let value ←
      if ← accept .value then
        if ← isAt [.flowEntry, .flowSequenceEnd] then empty else node false false fuel
      else empty
    return (key, value)

/-- The entries of a mapping in braces. -/
def flowEntries [Stack] (first : Bool) : Nat → Parse (List (Nat × Nat))
  | 0 => fail
  | fuel + 1 => do
    if ← accept .flowMappingEnd then return []
    if !first then
      if !(← accept .flowEntry) then fail
    if ← accept .key then
      let key ←
        if ← isAt [.value, .flowEntry, .flowMappingEnd] then empty else node false false fuel
      let value ←
        if ← accept .value then
          if ← isAt [.flowEntry, .flowMappingEnd] then empty else node false false fuel
        else empty
      return (key, value) :: (← flowEntries false fuel)
    else if ← accept .flowMappingEnd then return []
    else
      let key ← node false false fuel
      let value ← empty
      return (key, value) :: (← flowEntries false fuel)

end

/-- Takes a directive in: the version has to be the first, a handle may be given once. -/
def direct (given : List String) (versioned : Bool) : Directive → Parse (List String × Bool)
  | .version major => if versioned || major != 1 then fail else return (given, true)
  | .handle name stands => do
    if given.contains name then fail
    modify fun s => { s with handles := (name, stands) :: s.handles }
    return (name :: given, versioned)
  | .other => return (given, versioned)

/-- The directives before a document. -/
def directives : Nat → List String → Bool → Parse Unit
  | 0, _, _ => fail
  | fuel + 1, given, versioned => do
    match ← peek with
    | some (.directive d) =>
      drop
      let (given, versioned) ← direct given versioned d
      directives fuel given versioned
    | _ => return

/-- Skips the ends of documents. -/
def documentEnds : Nat → Parse Unit
  | 0 => fail
  | fuel + 1 => do
    if ← accept .documentEnd then documentEnds fuel else return

def isDirective : Token → Bool
  | .directive _ => true
  | _ => false

/-- The one document of a text, if it has one; a second one is refused, after a look at its
directives. -/
def document [Stack] (fuel : Nat) : Parse Unit := do
  match ← peek with
  | none => return
  | some t =>
    if isDirective t || t = .documentStart then
      directives fuel [] false
      if !(← accept .documentStart) then fail
      let next ← peek
      if next.isNone || next.any isDirective || (← isAt [.documentStart, .documentEnd]) then
        let _ ← empty
      else
        let _ ← node true false fuel
    else
      let _ ← node true false fuel
    documentEnds fuel
    if (← peek).isSome then
      directives fuel [] false
      fail

end Parser

/-- The nodes of the document that tokens write; none when they write none. -/
def Graph.ofTokens [Stack] (tokens : List Token) : Except ReadProblem Graph := do
  let (_, s) ← (Parser.document (5 * tokens.length + 10)).run { tokens }
  return s.nodes

end Bindery.Yaml
