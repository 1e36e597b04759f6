import Bindery.Fault
import Bindery.Value.Basic

/-!
# Combining what a document says with what is supplied

Lists are put one after another, tables are united with the first one's entries winning, and
of other values the first one that is there counts. A document may hold any value in these
places: what can be gone through item by item counts as a list, what consists of pairs counts
as a table, and everything else is a fault.
-/

namespace Bindery.Merge

/-- The items of a value taken as a list. -/
def asList (v : Value) : Except Fault (List Value) :=
  match v.items? with
  | some items => .ok items
  | none => .error .wrongKind

/-- The entry that a pair stands for; `index` is its place. -/
def asEntry (index : Nat) (v : Value) : Except Fault (Value × Value) := do
  match ← asList v with
  | [k, value] => if k.isKey then return (k, value) else throw .wrongKind
  | items => throw (.unconvertible (.pairLength index items.length))

def asEntries : Nat → List Value → Except Fault Table
  | _, [] => .ok []
  | index, v :: rest => do
    let entry ← asEntry index v
    return entry :: (← asEntries (index + 1) rest)

/-- The table that a value is or that its pairs make. -/
def asTable : Value → Except Fault Table
  | .table _ entries => .ok entries
  | v => do return Assoc.ofPairs (← asEntries 0 (← asList v))

/-- The items of the first list, then those of the second; none when neither is there. -/
def mergeList (base supplied : Option Value) : Except Fault (Option (List Value)) := do
  match base, supplied with
  | none, none => return none
  | none, some v => return some (← asList v)
  | some v, none => return some (← asList v)
  | some v, some w => return some ((← asList v) ++ (← asList w))

/-- The entries of the first table, then those of the second under other keys; none when
neither is there. -/
def mergeTable (base supplied : Option Value) : Except Fault (Option Table) := do
  match base, supplied with
  | none, none => return none
  | none, some v => return some (← asTable v)
  | some v, none => return some (← asTable v)
  | some v, some w =>
    let entries ← asTable v
    match w with
    | .table _ more => return some (Assoc.union entries more)
    | _ => throw .noOperation

end Bindery.Merge
