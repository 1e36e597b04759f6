import Bindery.Stack
import Bindery.Toml.Lexeme

/-!
# Reading TOML

A document is a series of statements: entries, headers that open a table, and headers that add
a table to a list. Which tables may still be opened or added to is kept in two sets of keys
beside the data (`Draft`): tables that have been opened, and values that are complete, with
all below them.
-/

namespace Bindery.Toml

abbrev KeyPath := List Text

/-- Changes the table at a key path, making the tables that miss on the way. Through a list the
way goes into its last table, when `throughLists` allows it. -/
def update (throughLists : Bool) (f : Table → Option Table) : KeyPath → Table → Option Table
  | [], t => f t
  | k :: ks, t =>
    match t.get? k with
    | none => (update throughLists f ks []).map fun u => t.put k (.table none u)
    | some (.table _ u) => (update throughLists f ks u).map fun u => t.put k (.table none u)
    | some (.list _ items) =>
      match throughLists, items.getLast? with
      | true, some (.table _ u) =>
        (update throughLists f ks u).map fun u =>
          t.put k (.list none (items.dropLast ++ [.table none u]))
      | _, _ => none
    | some _ => none

/-- Adds an entry under a new key. -/
def addEntry (k : Text) (v : Value) (t : Table) : Option Table :=
  if (t.get? k).isSome then none else some (t.put k v)

/-- Adds an empty table to the list under a key. -/
def addTable (k : Text) (t : Table) : Option Table :=
  match t.get? k with
  | none => some (t.put k (.list none [.table none []]))
  | some (.list _ items) => some (t.put k (.list none (items ++ [.table none []])))
  | some _ => none

/-- Whether a key or one above it is complete. -/
def isFrozen (frozen : List KeyPath) (k : KeyPath) : Bool := frozen.any fun f => f.isPrefixOf k

def isCollection : Value → Bool
  | .list _ _ | .table _ _ => true
  | _ => false

def orMalformed {α : Type} : Option α → Except ReadProblem α
  | some a => .ok a
  | none => malformed

/-- The value under the last part of a key, in an inline table. -/
def addInline (frozen : List KeyPath) (path : KeyPath) (v : Value) (t : Table) :
    Except ReadProblem Table :=
  if isFrozen frozen path then malformed
  else orMalformed (update false (addEntry (path.getLast?.getD "") v) path.dropLast t)

/-- The greatest weight of the lists and inline tables around a value. -/
def deepest [Stack] : Nat := Stack.tomlRead

/-- What a list adds to the weight around its items. -/
def listWeight : Nat := 2

/-- What an inline table adds to the weight around its values. -/
def tableWeight : Nat := 3

/-- Refuses a value with too much around it. -/
def checkDepth [Stack] (weight : Nat) : Except ReadProblem Unit :=
  if deepest < weight then .error (.fault .tooDeep) else .ok ()

mutual

/-- The value at the start, with a weight of lists and tables around it. `fuel` bounds the calls. -/
def value [Stack] (weight : Nat) : Nat → List Char → Except ReadProblem (Value × List Char)
  | 0, _ => malformed
  | fuel + 1, s =>
    match string? s with
    | some taken => taken.map fun (cs, rest) => (.text (Text.ofChars cs), rest)
    | none =>
      match s with
      | '[' :: rest => do
        checkDepth (weight + listWeight)
        let rest ← skipLines s.length rest
        match rest with
        | ']' :: rest => return (.list none [], rest)
        | _ =>
          let (items, rest) ← items (weight + listWeight) fuel rest
          return (.list none items, rest)
      | '\x7b' :: rest => do
        checkDepth (weight + tableWeight)
        match skipBlanks rest with
        | '\x7d' :: rest => return (.table none [], rest)
        | rest =>
          let (entries, rest) ← inlineEntries (weight + tableWeight) fuel [] [] rest
          return (.table none entries, rest)
      | _ => (plainScalar s).map fun (scalar, rest) => (.scalar scalar, rest)

/-- The items of a list up to its end, at least one. -/
def items [Stack] (weight : Nat) : Nat → List Char → Except ReadProblem (List Value × List Char)
  | 0, _ => malformed
  | fuel + 1, s => do
    let (v, rest) ← value weight fuel s
    match ← skipLines s.length rest with
    | ']' :: rest => return ([v], rest)
    | ',' :: rest =>
      match ← skipLines s.length rest with
      | ']' :: rest => return ([v], rest)
      | rest =>
        let (vs, rest) ← items weight fuel rest
        return (v :: vs, rest)
    | _ => malformed

/-- The entries of an inline table up to its end, at least one, added to `t`. -/
def inlineEntries [Stack] (weight : Nat) : Nat → List KeyPath → Table → List Char →
    Except ReadProblem (Table × List Char)
  | 0, _, _, _ => malformed
  | fuel + 1, frozen, t, s => do
    let (path, rest) ← key s
    match rest with
    | '=' :: rest =>
      let (v, rest) ← value weight fuel (skipBlanks rest)
      let t ← addInline frozen path v t
      match skipBlanks rest with
      | '\x7d' :: rest => return (t, rest)
      | ',' :: rest =>
        let frozen := if isCollection v then path :: frozen else frozen
        inlineEntries weight fuel frozen t (skipBlanks rest)
      | _ => malformed
    | _ => malformed

end

/-- Enough calls to read a value: an opening bracket takes two, an item or entry no more than its
characters. -/
def enoughCalls (s : List Char) : Nat := 2 * s.length + 2

/-- A document as far as it has been read: its data, the tables that may not be opened again,
those that will be so from the next header on, the complete values, and the open table. -/
structure Draft where
  data : Table := []
  opened : List KeyPath := []
  pending : List KeyPath := []
  frozen : List KeyPath := []
  header : KeyPath := []

namespace Draft

/-- A header begins: the tables of dotted keys are closed. -/
def settle (d : Draft) : Draft := { d with opened := d.opened ++ d.pending, pending := [] }

/-- Forgets what is known about a key and all below it. -/
def forget (d : Draft) (path : KeyPath) : Draft :=
  { d with
    opened := d.opened.filter fun k => !path.isPrefixOf k
    frozen := d.frozen.filter fun k => !path.isPrefixOf k }

/-- Opens the table of a header. -/
def openTable (d : Draft) (path : KeyPath) : Except ReadProblem Draft := do
  if d.opened.contains path || isFrozen d.frozen path then malformed
  else
    let data ← orMalformed (update true some path d.data)
    return { d with data, opened := path :: d.opened, header := path }

/-- Opens a new last table of the list of a header. -/
def openItem (d : Draft) (path : KeyPath) : Except ReadProblem Draft := do
  if isFrozen d.frozen path then malformed
  else
    let d := d.forget path
    let data ← orMalformed (update true (addTable (path.getLast?.getD "")) path.dropLast d.data)
    return { d with data, opened := path :: d.opened, header := path }

/-- The tables that a dotted key goes through, each with the header in front. -/
def between (header : KeyPath) (path : KeyPath) : List KeyPath :=
  (List.range (path.length - 1)).map fun n => header ++ path.take (n + 1)

/-- Adds an entry to the open table. -/
def add (d : Draft) (path : KeyPath) (v : Value) : Except ReadProblem Draft := do
  let through := between d.header path
  if through.any d.opened.contains then malformed
  else
    let parent := d.header ++ path.dropLast
    if isFrozen d.frozen parent then malformed
    else
      let data ← orMalformed (update true (addEntry (path.getLast?.getD "") v) parent d.data)
      return { d with
        data
        pending := d.pending ++ through
        frozen := if isCollection v then (d.header ++ path) :: d.frozen else d.frozen }

/-- The statement at the start, which is not blank. -/
def statement [Stack] (d : Draft) (s : List Char) : Except ReadProblem (Draft × List Char) := do
  match s with
  | '#' :: _ => return (d, s)
  | '[' :: '[' :: rest =>
    let (path, rest) ← key (skipBlanks rest)
    let d ← d.settle.openItem path
    match rest with
    | ']' :: ']' :: rest => return (d, rest)
    | _ => malformed
  | '[' :: rest =>
    let (path, rest) ← key (skipBlanks rest)
    let d ← d.settle.openTable path
    match rest with
    | ']' :: rest => return (d, rest)
    | _ => malformed
  | _ =>
    let (path, rest) ← key s
    match rest with
    | '=' :: rest =>
      let (v, rest) ← value 0 (enoughCalls s) (skipBlanks rest)
      return (← d.add path v, rest)
    | _ => malformed

/-- Reads statements to the end of the text; `fuel` bounds the lines. -/
def statements [Stack] : Nat → Draft → List Char → Except ReadProblem Draft
  | 0, _, _ => malformed
  | fuel + 1, d, s =>
    match skipBlanks s with
    | [] => .ok d
    | '\n' :: rest => statements fuel d rest
    | s => do
      let (d, rest) ← d.statement s
      match ← skipComment (skipBlanks rest) with
      | [] => return d
      | '\n' :: rest => statements fuel d rest
      | _ => malformed

end Draft

/-- The document that a text writes. -/
def read [Stack] (s : String) : Except ReadProblem Table := do
  let cs := s.toList
  return (← Draft.statements (cs.length + 1) {} cs).data

end Bindery.Toml
