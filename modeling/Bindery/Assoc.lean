import Bindery.Text.Basic

/-!
# Associations in insertion order

A table is a list of key–value pairs in the order in which its keys were first put in. Keys
are compared by `Key.same`, which need not be equality: in a document the number one and the
truth value true are one key. Putting a key that is there keeps its place and its spelling.
-/

namespace Bindery

/-- A notion of sameness for keys. -/
class Key (κ : Type) where
  same : κ → κ → Bool

instance : Key Text := ⟨fun a b => a == b⟩

namespace Assoc

variable {κ α : Type} [Key κ]

/-- The value under a key. -/
def get? (k : κ) : List (κ × α) → Option α
  | [] => none
  | (k', v) :: rest => if Key.same k' k then some v else get? k rest

def has (k : κ) (entries : List (κ × α)) : Bool := (get? k entries).isSome

/-- Sets the value under a key: in place when the key is there, else at the end. -/
def put (k : κ) (v : α) : List (κ × α) → List (κ × α)
  | [] => [(k, v)]
  | (k', v') :: rest => if Key.same k' k then (k', v) :: rest else (k', v') :: put k v rest

/-- Adds an entry at the end unless the key is there. -/
def putNew (k : κ) (v : α) (entries : List (κ × α)) : List (κ × α) :=
  if has k entries then entries else entries ++ [(k, v)]

/-- The entries without those of a key. -/
def erase (k : κ) (entries : List (κ × α)) : List (κ × α) :=
  entries.filter fun e => !Key.same e.1 k

/-- All entries of `left`, then those of `right` under keys not there yet. -/
def union (left right : List (κ × α)) : List (κ × α) :=
  right.foldl (fun entries e => putNew e.1 e.2 entries) left

/-- The table built by putting the pairs in one after another: the last value of a key
stands at the key's first place. -/
def ofPairs (pairs : List (κ × α)) : List (κ × α) :=
  pairs.foldl (fun entries e => put e.1 e.2 entries) []

end Assoc

end Bindery
