import Bindery.Yaml.Node

/-!
# The parts of a YAML document

A node becomes a part of a document by its type (`Builder.make`): a scalar with its value, or a
collection that goes by the numbers of its own parts. Collections are begun empty and filled in
the order in which they were begun (`Builder.fill`), so of several problems the one on the
outermost level counts. Mappings merged under the key `<<` are put in front when the mapping they
belong to is filled (`Builder.flatten`), so that its own entries win; this changes the nodes, and
whatever is filled later sees the changed ones.

A node and the part made from it have one number. Pairs are made beyond the nodes.
-/

namespace Bindery.Yaml

namespace Graph

def node (g : Graph) (n : Nat) : Node := g[n]?.getD ⟨.unknown, .sequence []⟩

def typeOf (g : Graph) (n : Nat) : TypeTag := (g.node n).type

/-- The entries of a mapping, none of other nodes. -/
def entries (g : Graph) (n : Nat) : List (Nat × Nat) :=
  match (g.node n).content with
  | .mapping entries => entries
  | _ => []

def isMapping (g : Graph) (n : Nat) : Bool :=
  match (g.node n).content with
  | .mapping _ => true
  | _ => false

def setEntries (g : Graph) (n : Nat) (entries : List (Nat × Nat)) : Graph :=
  g.modify n fun node => { node with content := .mapping entries }

/-- The text of a node taken as a scalar: its own, or the one under the key `=`. `fuel` bounds
how many nodes are gone through; one more than there are means that they go round in a circle. -/
def scalarText (g : Graph) : Nat → Nat → Except ReadProblem Text
  | 0, _ => .error (.fault .tooDeep)
  | fuel + 1, n =>
    match (g.node n).content with
    | .scalar text => .ok text
    | .sequence _ => .error .malformed
    | .mapping entries =>
      match entries.find? fun e => g.typeOf e.1 = .value with
      | some e => scalarText g fuel e.2
      | none => .error .malformed

/-- How many entries wait to be merged. -/
def mergeCount (g : Graph) : Nat :=
  g.foldl (fun count node =>
    match node.content with
    | .mapping entries => count + (entries.filter fun e => g.typeOf e.1 = .merge).length
    | _ => count) 0

end Graph

/-- A part of a document. Collections go by the numbers of their parts; keys are values. -/
inductive Part where
  | scalar (v : Value)
  | list (items : List Nat)
  | table (entries : List (Value × Nat))
  | set (members : List Value)
  | pair (first second : Nat)
  deriving Inhabited

/-- The mark of the part with a number. -/
def markOf (n : Nat) : Nat := n + 1

/-- The nodes as merging has left them, the parts made so far by their numbers, and the
collections that are to be filled, the latest first. -/
structure Builder where
  nodes : Graph
  parts : Array (Option Part)
  waiting : List Nat := []

namespace Builder

abbrev Build := StateT Builder (Except ReadProblem)

def fail {α : Type} : Build α := throw .malformed

def setPart (n : Nat) (part : Part) : Build Unit :=
  modify fun s => { s with parts := s.parts.setIfInBounds n (some part) }

/-- Begins a collection; it is filled later. -/
def start (n : Nat) (part : Part) : Build Part := do
  setPart n part
  modify fun s => { s with waiting := n :: s.waiting }
  return part

/-- A moment has to be written as a scalar; a text under the key `=` will not do. -/
def checkMoment (type : TypeTag) (isMapping : Bool) : Build Unit :=
  if type = .timestamp && isMapping then throw (.fault .wrongKind) else return

/-- The part of a node, a collection as it is when it is begun. -/
def make (n : Nat) : Build Part := do
  let s ← get
  match s.parts[n]?.join with
  | some part => return part
  | none =>
    match s.nodes.typeOf n with
    | .map => start n (.table [])
    | .set => start n (.set [])
    | .seq | .omap | .pairs => start n (.list [])
    | .merge | .value | .unknown => fail
    | type =>
      let text ← s.nodes.scalarText (s.nodes.size + 1) n
      checkMoment type (s.nodes.isMapping n)
      let part := .scalar (← convert (markOf n) type text)
      setPart n part
      return part

/-- The keys `=` among the first entries of a node are texts. -/
def nameValueKeys (n count : Nat) : Build Unit :=
  modify fun s =>
    { s with
      nodes := ((s.nodes.entries n).take count).foldl (fun g e =>
        if g.typeOf e.1 = .value then g.modify e.1 fun node => { node with type := .str }
        else g) s.nodes }

/-- The place of the first entry to be merged, from a place on. -/
def nextMerge? (g : Graph) (entries : List (Nat × Nat)) (place : Nat) : Option Nat :=
  ((entries.drop place).findIdx? fun e => g.typeOf e.1 = .merge).map (place + ·)

/-- Merges other mappings into a node. `merged` are the entries found so far, `place` is how far
its own are gone through. Every merge takes one entry away, so `fuel` is what is left of them and
one. -/
def flattenFrom : Nat → Nat → Nat → List (Nat × Nat) → Build Unit
  | 0, _, _, _ => fail
  | fuel + 1, n, place, merged => do
    let s ← get
    let entries := s.nodes.entries n
    match nextMerge? s.nodes entries place with
    | none =>
      nameValueKeys n entries.length
      modify fun s => { s with nodes := s.nodes.setEntries n (merged ++ s.nodes.entries n) }
    | some place =>
      nameValueKeys n place
      let from_ := (entries[place]?.getD (n, n)).2
      modify fun s => { s with nodes := s.nodes.setEntries n (entries.eraseIdx place) }
      match (s.nodes.node from_).content with
      | .mapping _ =>
        flattenFrom fuel from_ 0 []
        let more := (← get).nodes.entries from_
        flattenFrom fuel n place (merged ++ more)
      | .sequence items =>
        let lists ← items.mapM fun item => do
          if !(← get).nodes.isMapping item then fail
          flattenFrom fuel item 0 []
          return (← get).nodes.entries item
        flattenFrom fuel n place (merged ++ lists.reverse.flatten)
      | .scalar _ => fail

/-- The entries of a mapping node, those merged into it in front. -/
def flatten (n : Nat) : Build (List (Nat × Nat)) := do
  let s ← get
  if !s.nodes.isMapping n then fail
  flattenFrom (s.nodes.mergeCount + 1) n 0 []
  return (← get).nodes.entries n

/-- The entries of a mapping: a key has to be a scalar, and comes before its value. -/
def makeEntries (n : Nat) : Build (List (Value × Nat)) := do
  let entries ← (← flatten n).mapM fun (k, v) => do
    match ← make k with
    | .scalar key =>
      let _ ← make v
      return (key, v)
    | _ => fail
  return Assoc.ofPairs entries

/-- The items of a sequence node. -/
def sequenceItems (n : Nat) : Build (List Nat) := do
  match ((← get).nodes.node n).content with
  | .sequence items => return items
  | _ => fail

/-- The pair that a mapping of one entry stands for. -/
def makePair (n : Nat) : Build Nat := do
  match (← get).nodes.entries n with
  | [(k, v)] =>
    let _ ← make k
    let _ ← make v
    modifyGet fun s => (s.parts.size, { s with parts := s.parts.push (some (.pair k v)) })
  | _ => fail

/-- Fills a collection that was begun. -/
def fill (n : Nat) : Build Unit := do
  match (← get).nodes.typeOf n with
  | .map => setPart n (.table (← makeEntries n))
  | .set => setPart n (.set ((← makeEntries n).map (·.1)))
  | .seq =>
    let items ← sequenceItems n
    for item in items do
      let _ ← make item
    setPart n (.list items)
  | _ => setPart n (.list (← (← sequenceItems n).mapM makePair))

/-- Fills all collections, round by round. A round fills at least one, so `fuel` is how many
there are and one. -/
def fillAll : Nat → Build Unit
  | 0 => return
  | fuel + 1 => do
    let round := (← get).waiting.reverse
    if round.isEmpty then return
    modify fun s => { s with waiting := [] }
    round.forM fill
    fillAll fuel

end Builder

/-- The parts that the nodes of a document make, by their numbers; nodes that were only merged
into others make none. -/
def partsOf (g : Graph) : Except ReadProblem (Array (Option Part)) := do
  let build : Builder.Build Unit := do
    let _ ← Builder.make 0
    Builder.fillAll (g.size + 1)
  let (_, s) ← build.run { nodes := g, parts := g.map fun _ => none }
  return s.parts

end Bindery.Yaml
