import Bindery.Assoc
import Bindery.Calendar
import Bindery.Number.Binary64

/-!
# Document values

What a configuration document or an interface description holds: scalars, lists, tables in
insertion order, sets, and pairs (the items of an ordered mapping). A document may hold one and
the same part in several places, and even inside itself; parts with one mark are one part, and a
part without a mark stands in a single place.

A key is a scalar or a pair of keys (`Value.isKey`). Two keys are the same when they are one
part, or equal as numbers, texts, moments or pairs (`Value.same`); a truth value counts as the
number one or zero there.
-/

namespace Bindery

/-- A value without parts. -/
inductive Scalar where
  | null
  | bool (b : Bool)
  | int (n : Int)
  | float (x : Binary64)
  | text (s : Text)
  | bytes (bs : List UInt8)
  | date (d : Date)
  | time (t : Time)
  | dateTime (t : DateTime)
  deriving DecidableEq, Repr, Inhabited

namespace Scalar

/-- The whole number that a truth value or an integer stands for. -/
def int? : Scalar → Option Int
  | .bool b => some (if b then 1 else 0)
  | .int n => some n
  | _ => none

/-- Whether two scalars are one key. -/
def same (a b : Scalar) : Bool :=
  match a.int?, b.int? with
  | some m, some n => m == n
  | some m, none => match b with | .float y => y.sameInt m | _ => false
  | none, some n => match a with | .float x => x.sameInt n | _ => false
  | none, none =>
    match a, b with
    | .float x, .float y => x.same y
    | .dateTime s, .dateTime t => s.same t
    | _, _ => decide (a = b)

end Scalar

/-- Whether a scalar is told apart from equal ones: dates, times, and what is not a number. -/
def Scalar.isPart : Scalar → Bool
  | .date _ | .time _ | .dateTime _ | .float .nan => true
  | _ => false

/-- What tells a part of a document from others with the same content. -/
abbrev Mark := Option Nat

/-- A document value. -/
inductive Value where
  | scalar (s : Scalar)
  /-- A scalar that is a part of its own. -/
  | marked (mark : Nat) (s : Scalar)
  | list (mark : Mark) (items : List Value)
  | table (mark : Mark) (entries : List (Value × Value))
  | set (mark : Mark) (members : List Value)
  | pair (mark : Mark) (first second : Value)
  deriving Repr, Inhabited

/-- A table's entries in insertion order. -/
abbrev Table := List (Value × Value)

/-- The kinds of value that messages tell apart. -/
inductive Kind where
  | null | text | bool | int | float | list | table | dateTime | date | time | bytes | set | pair
  deriving DecidableEq, Repr

namespace Kind

/-- The word for a kind in messages. -/
def name : Kind → String
  | .null => "NoneType"
  | .text => "str"
  | .bool => "bool"
  | .int => "int"
  | .float => "float"
  | .list => "list"
  | .table => "dict"
  | .dateTime => "datetime"
  | .date => "date"
  | .time => "time"
  | .bytes => "bytes"
  | .set => "set"
  | .pair => "tuple"

end Kind

def Scalar.kind : Scalar → Kind
  | .null => .null
  | .bool _ => .bool
  | .int _ => .int
  | .float _ => .float
  | .text _ => .text
  | .bytes _ => .bytes
  | .date _ => .date
  | .time _ => .time
  | .dateTime _ => .dateTime

/-- A scalar that counts as nothing: null, false, zero, or an empty text. -/
def Scalar.isVacuous : Scalar → Bool
  | .null => true
  | .bool b => !b
  | .int n => n == 0
  | .float x => x.isZero
  | .text s => s.isEmpty
  | .bytes bs => bs.isEmpty
  | .date _ | .time _ | .dateTime _ => false

namespace Value

@[match_pattern] abbrev null : Value := .scalar .null
@[match_pattern] abbrev bool (b : Bool) : Value := .scalar (.bool b)
@[match_pattern] abbrev int (n : Int) : Value := .scalar (.int n)
@[match_pattern] abbrev text (s : Text) : Value := .scalar (.text s)

/-- The scalar that a value is. -/
def scalar? : Value → Option Scalar
  | .scalar s | .marked _ s => some s
  | _ => none

/-- The mark that a value has. -/
def mark : Value → Mark
  | .scalar _ => none
  | .marked n _ => some n
  | .list m _ | .table m _ | .set m _ | .pair m _ _ => m

/-- A scalar, as a part with a mark where it is told apart. -/
def ofScalar (mark : Nat) (s : Scalar) : Value :=
  if s.isPart then .marked mark s else .scalar s

def kind : Value → Kind
  | .scalar s | .marked _ s => s.kind
  | .list _ _ => .list
  | .table _ _ => .table
  | .set _ _ => .set
  | .pair _ _ _ => .pair

/-- Whether a value can be a key: collections cannot. -/
def isKey : Value → Bool
  | .scalar _ | .marked _ _ => true
  | .pair _ a b => a.isKey && b.isKey
  | _ => false

/-- Whether two keys are one key. -/
def same : Value → Value → Bool
  | .pair _ a b, .pair _ c d => a.same c && b.same d
  | v, w =>
    match v.scalar?, w.scalar? with
    | some s, some t => (v.mark.isSome && v.mark == w.mark) || s.same t
    | _, _ => false

instance : Key Value := ⟨same⟩

/-- A value that counts as nothing: a vacuous scalar or an empty collection. -/
def isVacuous : Value → Bool
  | .scalar s | .marked _ s => s.isVacuous
  | .list _ items => items.isEmpty
  | .table _ entries => entries.isEmpty
  | .set _ members => members.isEmpty
  | .pair _ _ _ => false

def isNull : Value → Bool
  | .null => true
  | _ => false

def text? : Value → Option Text
  | .text s => some s
  | _ => none

def bool? : Value → Option Bool
  | .bool b => some b
  | _ => none

/-- The entries of a table. -/
def table? : Value → Option Table
  | .table _ entries => some entries
  | _ => none

/-- The items of a list, when all are texts. -/
def texts? : Value → Option (List Text)
  | .list _ items => items.mapM text?
  | _ => none

/-- What a value yields when it is gone through item by item: a list its items, a text its
characters, a table its keys, bytes their numbers. Other values yield nothing at all. -/
def items? : Value → Option (List Value)
  | .list _ items => some items
  | .table _ entries => some (entries.map Prod.fst)
  | .set _ members => some members
  | .pair _ a b => some [a, b]
  | .text s => some (s.map fun c => .text [c])
  | .scalar (.bytes bs) => some (bs.map fun b => .int b.toNat)
  | .scalar _ | .marked _ _ => none

end Value

namespace Table

/-- The value under a text key. -/
def get? (t : Table) (key : Text) : Option Value := Assoc.get? (Value.text key) t

/-- The value under a text key, when it is there and not null. -/
def given? (t : Table) (key : Text) : Option Value :=
  (t.get? key).filter fun v => !v.isNull

/-- Sets the value under a text key. -/
def put (t : Table) (key : Text) (v : Value) : Table := Assoc.put (Value.text key) v t

def erase (t : Table) (key : Text) : Table := Assoc.erase (Value.text key) t

end Table

end Bindery
