import Bindery.Merge.Basic
import Bindery.Proofs.Assoc
import Bindery.Proofs.Config.Reading
import Bindery.Value.Marks

/-!
# Values over scalars of a kind

A value that is built of scalars of some kind, of lists and pairs, and of tables whose keys are
texts (`Value.Over`). What puts tables together keeps to that, and so do the marks of parts
(`Table.Over.marked`). How far such values go is told by the scalars in them (`Value.scalars`) and
by the collections around these (`Value.depth`).
-/

namespace Bindery

/-- A value of scalars that satisfy `P`, of lists and pairs, and of tables whose keys are texts. -/
inductive Value.Over (P : Scalar → Prop) : Value → Prop where
  | scalar {s : Scalar} (h : P s) : Over P (.scalar s)
  | marked {n : Nat} {s : Scalar} (h : P s) : Over P (.marked n s)
  | list {m : Mark} {items : List Value} (h : ∀ v ∈ items, Over P v) : Over P (.list m items)
  | table {m : Mark} {entries : Table} (keys : ∀ e ∈ entries, ∃ key, e.1 = .text key)
      (h : ∀ e ∈ entries, Over P e.2) : Over P (.table m entries)
  | pair {m : Mark} {a b : Value} (first : Over P a) (second : Over P b) : Over P (.pair m a b)

/-- A table of such values under texts. -/
structure Table.Over (P : Scalar → Prop) (t : Table) : Prop where
  keys : ∀ e ∈ t, ∃ key, e.1 = .text key
  values : ∀ e ∈ t, e.2.Over P

variable {P Q : Scalar → Prop} {t u : Table} {v : Value} {key : Text} {m : Mark}

namespace Value.Over

theorem of_list {items : List Value} (h : Value.Over P (.list m items)) :
    ∀ v ∈ items, v.Over P := by
  cases h with
  | list h => exact h

theorem of_table (h : Value.Over P (.table m t)) : t.Over P := by
  cases h with
  | table keys h => exact ⟨keys, h⟩

theorem of_table? (h : v.Over P) (ht : v.table? = some t) : t.Over P := by
  obtain ⟨mark, rfl⟩ := Value.table?_eq_some.1 ht
  exact h.of_table

theorem of_text? (texts : ∀ s, P (.text s)) (h : v.text?.isSome) : v.Over P := by
  obtain ⟨s, hs⟩ := Option.isSome_iff_exists.1 h
  obtain rfl := Value.text?_eq_some.1 hs
  exact .scalar (texts s)

theorem of_bool? (bools : ∀ b, P (.bool b)) (h : v.bool?.isSome) : v.Over P := by
  obtain ⟨b, hb⟩ := Option.isSome_iff_exists.1 h
  obtain rfl := Value.bool?_eq_some.1 hb
  exact .scalar (bools b)

theorem of_texts? (texts : ∀ s, P (.text s)) (h : v.texts?.isSome) : v.Over P := by
  obtain ⟨xs, hxs⟩ := Option.isSome_iff_exists.1 h
  obtain ⟨mark, rfl⟩ := Value.texts?_eq_some.1 hxs
  refine .list fun w hw => ?_
  obtain ⟨s, -, rfl⟩ := List.mem_map.1 hw
  exact .scalar (texts s)

end Value.Over

namespace Table.Over

theorem value (h : t.Over P) (m : Mark) : Value.Over P (.table m t) := .table h.keys h.values

theorem nil : Table.Over P [] := ⟨nofun, nofun⟩

theorem cons {e : Value × Value} (keyed : ∃ key, e.1 = .text key) (hv : e.2.Over P) (h : t.Over P) :
    Table.Over P (e :: t) :=
  ⟨List.forall_mem_cons.2 ⟨keyed, h.keys⟩, List.forall_mem_cons.2 ⟨hv, h.values⟩⟩

theorem of_cons {e : Value × Value} (h : Table.Over P (e :: t)) :
    (∃ key, e.1 = .text key) ∧ e.2.Over P ∧ t.Over P := by
  obtain ⟨keyed, keys⟩ := List.forall_mem_cons.1 h.keys
  obtain ⟨hv, values⟩ := List.forall_mem_cons.1 h.values
  exact ⟨keyed, hv, keys, values⟩

theorem get? (h : t.Over P) (there : t.get? key = some v) : v.Over P := by
  induction t with
  | nil => cases there
  | cons e t ih =>
    obtain ⟨-, hv, rest⟩ := h.of_cons
    rw [Table.get?, Assoc.get?] at there
    split at there
    · obtain rfl := Option.some.inj there
      exact hv
    · exact ih rest there

theorem put (h : t.Over P) (key : Text) (hv : v.Over P) : (t.put key v).Over P := by
  induction t with
  | nil => exact nil.cons ⟨key, rfl⟩ hv
  | cons e t ih =>
    obtain ⟨keyed, hw, rest⟩ := h.of_cons
    rw [Table.put, Assoc.put]
    split
    · exact rest.cons keyed hv
    · exact (ih rest).cons keyed hw

theorem given? (h : t.Over P) (there : t.given? key = some v) : v.Over P :=
  h.get? (Option.filter_eq_some_iff.1 there).1

theorem replace (h : t.Over P) (key : Text) {v : Option Value}
    (hv : ∀ w, v = some w → w.Over P) : (t.replace key v).Over P := by
  cases v with
  | none =>
    exact ⟨fun e he => h.keys e (List.mem_of_mem_filter he),
      fun e he => h.values e (List.mem_of_mem_filter he)⟩
  | some w => exact h.put key (hv w rfl)

theorem union (h : t.Over P) (h' : u.Over P) : Table.Over P (Assoc.union t u) :=
  ⟨Assoc.forall_union h.keys h'.keys, Assoc.forall_union h.values h'.values⟩

end Table.Over

/-! ## Marks -/

section Marks

open Value

mutual

theorem Value.Over.markedFrom {v : Value} (h : v.Over P) (next : Nat) :
    (v.markedFrom next).1.Over P := by
  cases h with
  | scalar h =>
    rw [Value.markedFrom]
    split
    · exact .marked h
    · exact .scalar h
  | marked h => exact .marked h
  | list h => exact .list (allMarkedFrom_over h _)
  | table keys h => exact (Table.Over.markedFrom ⟨keys, h⟩ _).value _
  | pair first second => exact .pair (first.markedFrom _) (second.markedFrom _)

theorem allMarkedFrom_over {items : List Value} (h : ∀ v ∈ items, v.Over P) (next : Nat) :
    ∀ v ∈ (allMarkedFrom next items).1, v.Over P := by
  cases items with
  | nil => exact h
  | cons v rest =>
    obtain ⟨hv, hrest⟩ := List.forall_mem_cons.1 h
    exact List.forall_mem_cons.2 ⟨hv.markedFrom next, allMarkedFrom_over hrest _⟩

theorem Table.Over.markedFrom {t : Table} (h : t.Over P) (next : Nat) :
    Table.Over P (entriesMarkedFrom next t).1 := by
  cases t with
  | nil => exact h
  | cons e t =>
    obtain ⟨⟨key, keyed⟩, hv, rest⟩ := h.of_cons
    obtain ⟨k, v⟩ := e
    obtain rfl : k = .text key := keyed
    exact (rest.markedFrom _).cons ⟨key, rfl⟩ (hv.markedFrom _)

end

theorem Table.Over.marked (h : t.Over P) : t.marked.Over P := h.markedFrom 1

end Marks

/-! ## How far values go -/

namespace Value

mutual

/-- The scalars in a value, those in keys included. -/
def scalars : Value → List Scalar
  | .scalar s | .marked _ s => [s]
  | .list _ items => allScalars items
  | .table _ entries => entryScalars entries
  | .set _ members => allScalars members
  | .pair _ a b => a.scalars ++ b.scalars

def allScalars : List Value → List Scalar
  | [] => []
  | v :: rest => v.scalars ++ allScalars rest

def entryScalars : List (Value × Value) → List Scalar
  | [] => []
  | (k, v) :: rest => k.scalars ++ v.scalars ++ entryScalars rest

end

mutual

/-- How many collections stand around one another in a value, around the innermost of its parts. -/
def depth : Value → Nat
  | .scalar _ | .marked _ _ => 0
  | .list _ items => allDepth items
  | .table _ entries => entryDepth entries
  | .set _ members => allDepth members
  | .pair _ a b => max a.depth b.depth + 1

def allDepth : List Value → Nat
  | [] => 0
  | v :: rest => max (v.depth + 1) (allDepth rest)

def entryDepth : List (Value × Value) → Nat
  | [] => 0
  | (k, v) :: rest => max (max k.depth v.depth + 1) (entryDepth rest)

end

theorem mem_allScalars {items : List Value} (hv : v ∈ items) {c : Scalar} (hc : c ∈ v.scalars) :
    c ∈ allScalars items := by
  induction hv with
  | head => exact List.mem_append_left _ hc
  | tail _ _ ih => exact List.mem_append_right _ ih

theorem mem_entryScalars {e : Value × Value} (he : e ∈ t) {c : Scalar} (hc : c ∈ e.2.scalars) :
    c ∈ entryScalars t := by
  induction he with
  | head => exact List.mem_append_left _ (List.mem_append_right _ hc)
  | tail _ _ ih => exact List.mem_append_right _ ih

/-- What holds of all scalars in a value can be asked of them as well. -/
theorem Over.and {v : Value} (h : v.Over P) (all : ∀ c ∈ v.scalars, Q c) :
    v.Over fun c => P c ∧ Q c := by
  induction h with
  | scalar h => exact .scalar ⟨h, all _ List.mem_cons_self⟩
  | marked h => exact .marked ⟨h, all _ List.mem_cons_self⟩
  | list _ ih => exact .list fun v hv => ih v hv fun c hc => all c (mem_allScalars hv hc)
  | table keys _ ih =>
    exact .table keys fun e he => ih e he fun c hc => all c (mem_entryScalars he hc)
  | pair _ _ first second =>
    exact .pair (first fun c hc => all c (List.mem_append_left _ hc))
      (second fun c hc => all c (List.mem_append_right _ hc))

end Value

end Bindery
