import Bindery.Value.Basic

/-!
# Marking the parts of a document

A document whose notation cannot name a part twice holds every part in one place only. Before
parts of it are put into another document as well, each gets a mark of its own
(`Table.marked`), so that the places it then stands in still tell that they hold one part.
-/

namespace Bindery.Value

mutual

/-- The value with a mark on each part that has none, and the next number for a mark. -/
def markedFrom (next : Nat) : Value → Value × Nat
  | .scalar s => if s.isPart then (.marked next s, next + 1) else (.scalar s, next)
  | .marked n s => (.marked n s, next)
  | .list m items =>
    let (items, after) := allMarkedFrom (next + 1) items
    (.list (m.or (some next)) items, after)
  | .table m entries =>
    let (entries, after) := entriesMarkedFrom (next + 1) entries
    (.table (m.or (some next)) entries, after)
  | .set m members =>
    let (members, after) := allMarkedFrom (next + 1) members
    (.set (m.or (some next)) members, after)
  | .pair m a b =>
    let (a, after) := markedFrom (next + 1) a
    let (b, after) := markedFrom after b
    (.pair (m.or (some next)) a b, after)

def allMarkedFrom (next : Nat) : List Value → List Value × Nat
  | [] => ([], next)
  | v :: rest =>
    let (v, next) := markedFrom next v
    let (rest, next) := allMarkedFrom next rest
    (v :: rest, next)

def entriesMarkedFrom (next : Nat) : List (Value × Value) → List (Value × Value) × Nat
  | [] => ([], next)
  | (k, v) :: rest =>
    let (k, next) := markedFrom next k
    let (v, next) := markedFrom next v
    let (rest, next) := entriesMarkedFrom next rest
    ((k, v) :: rest, next)

end

end Bindery.Value

namespace Bindery

/-- The table with a mark on each part that has none. -/
def Table.marked (t : Table) : Table := (Value.entriesMarkedFrom 1 t).1

end Bindery
