import Mathlib.Data.List.Forall2
import Mathlib.Data.List.Perm.Basic
import Bindery.Proofs.Config.Reading
import Bindery.Proofs.Value.Keys

/-!
# Documents that are equal

Two values are alike when they hold the same scalars in the same places (`Value.Alike`). How parts
are marked does not count, nor does the order in which a table has its entries, but that of the
items of a list does. Where the keys of a table are different texts (`Table.Named`), tables that are
alike hold alike values under each key (`Table.Alike.get?`).

Plain values are what both notations can write: texts, truth values and whole numbers, in lists and
in tables with texts for keys (`Value.Plain`).
-/

namespace Bindery

open Outcome

/-! ## Tables with texts for keys -/

/-- The keys of the table are different texts. -/
structure Table.Named (t : Table) : Prop where
  texts : ∀ k ∈ t.map Prod.fst, ∃ key, k = Value.text key
  nodup : (t.map Prod.fst).Nodup

namespace Table

variable {t u : Table} {key : Text} {v : Value}

theorem named_iff_distinct (texts : ∀ e ∈ t, ∃ key, e.1 = Value.text key) :
    t.Named ↔ Assoc.Distinct t := by
  have apart : ∀ e ∈ t, ∀ e' ∈ t, Key.same e.1 e'.1 = false ↔ e.1 ≠ e'.1 := by
    intro e he e' he'
    obtain ⟨key, hkey⟩ := texts e he
    obtain ⟨key', hkey'⟩ := texts e' he'
    rw [hkey, hkey', Value.same_text]
    simp [Key.same]
  have keys : ∀ k ∈ t.map Prod.fst, ∃ key, k = Value.text key := by
    intro k hk
    obtain ⟨e, he, rfl⟩ := List.mem_map.1 hk
    exact texts e he
  have nodup : (t.map Prod.fst).Nodup ↔ Assoc.Distinct t := by
    rw [List.Nodup, List.pairwise_map]
    exact List.Pairwise.iff_of_mem fun he he' => (apart _ he _ he').symm
  exact ⟨fun h => nodup.1 h.nodup, fun h => ⟨keys, nodup.2 h⟩⟩

namespace Named

theorem exists_text (h : t.Named) {e : Value × Value} (he : e ∈ t) :
    ∃ key, e.1 = Value.text key :=
  h.texts e.1 (List.mem_map_of_mem he)

theorem distinct (h : t.Named) : Assoc.Distinct t :=
  (named_iff_distinct fun _ => h.exists_text).1 h

theorem proper (h : t.Named) : t.Proper where
  distinct := h.distinct
  plain e he mark s := by
    obtain ⟨key, hkey⟩ := h.exists_text he
    simp [hkey]

/-- A table with the same keys, in whichever order, is named too. -/
theorem of_perm (h : t.Named) (keys : (t.map Prod.fst).Perm (u.map Prod.fst)) : u.Named :=
  ⟨fun k hk => h.texts k (keys.mem_iff.2 hk), keys.nodup_iff.1 h.nodup⟩

/-- An entry is there when its value is found under its key. -/
theorem mem_iff_get? (h : t.Named) : (Value.text key, v) ∈ t ↔ t.get? key = some v := by
  refine Assoc.mem_iff_get?_of_same (fun e he => ?_) h.nodup
  obtain ⟨name, hname⟩ := h.exists_text he
  rw [hname, Value.same_text]
  simp [Key.same]

end Named

end Table

/-! ## Plain values -/

/-- A value made of texts, truth values, whole numbers, lists, and tables with texts for keys. -/
inductive Value.Plain : Value → Prop where
  | text (s : Text) : Plain (.text s)
  | bool (b : Bool) : Plain (.bool b)
  | int (n : Int) : Plain (.int n)
  | list {mark : Mark} {items : List Value} (parts : ∀ v ∈ items, Plain v) :
      Plain (.list mark items)
  | table {mark : Mark} {t : Table} (named : t.Named) (parts : ∀ e ∈ t, Plain e.2) :
      Plain (.table mark t)

/-- A table of plain values. -/
structure Table.Plain (t : Table) : Prop where
  named : t.Named
  parts : ∀ e ∈ t, e.2.Plain

namespace Value.Plain

variable {v : Value}

theorem of_table {mark : Mark} {t : Table} (h : (Value.table mark t).Plain) : t.Plain := by
  cases h with
  | table named parts => exact ⟨named, parts⟩

theorem of_table? {t : Table} (h : v.Plain) (ht : v.table? = some t) : t.Plain := by
  cases h with
  | table named parts =>
    obtain rfl := Option.some.inj ht
    exact ⟨named, parts⟩
  | _ => cases ht

theorem of_text? (h : v.text?.isSome) : v.Plain := by
  obtain ⟨s, hs⟩ := Option.isSome_iff_exists.1 h
  rw [Value.text?_eq_some.1 hs]
  exact .text s

theorem of_bool? (h : v.bool?.isSome) : v.Plain := by
  obtain ⟨b, hb⟩ := Option.isSome_iff_exists.1 h
  rw [Value.bool?_eq_some.1 hb]
  exact .bool b

theorem list_text (mark : Mark) (xs : List Text) : (Value.list mark (xs.map Value.text)).Plain := by
  refine .list fun v hv => ?_
  obtain ⟨s, -, rfl⟩ := List.mem_map.1 hv
  exact .text s

end Value.Plain

namespace Table.Plain

variable {t u : Table} {key : Text} {v : Value}

theorem value (h : t.Plain) (mark : Mark) : (Value.table mark t).Plain :=
  .table h.named h.parts

theorem get? (h : t.Plain) (hv : t.get? key = some v) : v.Plain :=
  h.parts (.text key, v) (h.named.mem_iff_get?.2 hv)

theorem given? (h : t.Plain) (hv : t.given? key = some v) : v.Plain :=
  h.get? (Option.filter_eq_some_iff.1 hv).1

theorem erase (h : t.Plain) (key : Text) : (t.erase key).Plain where
  named := by
    have sub : ((t.erase key).map Prod.fst).Sublist (t.map Prod.fst) := List.filter_sublist.map _
    exact ⟨fun k hk => h.named.texts k (sub.mem hk), h.named.nodup.sublist sub⟩
  parts e he := h.parts e (List.mem_of_mem_filter he)

theorem put (h : t.Plain) (key : Text) (hv : v.Plain) : (t.put key v).Plain := by
  have perm := perm_put h.named.proper key v
  have mem : ∀ e ∈ t.put key v, e = (.text key, v) ∨ e ∈ t.erase key := fun e he =>
    List.mem_cons.1 (perm.mem_iff.1 he)
  constructor
  · refine (named_iff_distinct fun e he => ?_).2 (h.named.proper.put key v).distinct
    rcases mem e he with rfl | he
    · exact ⟨key, rfl⟩
    · exact (h.erase key).named.exists_text he
  · intro e he
    rcases mem e he with rfl | he
    · exact hv
    · exact (h.erase key).parts e he

theorem replace (h : t.Plain) (key : Text) {v : Option Value} (hv : ∀ w, v = some w → w.Plain) :
    (t.replace key v).Plain := by
  cases v with
  | none => exact h.erase key
  | some w => exact h.put key (hv w rfl)

theorem union (h : t.Plain) (h' : u.Plain) : Table.Plain (Assoc.union t u) where
  named := by
    refine (named_iff_distinct ?_).2 (Assoc.distinct_union h.named.distinct u)
    exact Assoc.forall_union (fun _ => h.named.exists_text) fun _ => h'.named.exists_text
  parts := Assoc.forall_union h.parts h'.parts

theorem nil : Table.Plain [] := ⟨⟨nofun, .nil⟩, nofun⟩

end Table.Plain

/-! ## Alike values -/

/-- Two values with the same scalars in the same places; the entries of a table may be in another
order. -/
inductive Value.Alike : Value → Value → Prop where
  | scalar (s : Scalar) : Alike (.scalar s) (.scalar s)
  | list {mark mark' : Mark} {items items' : List Value}
      (parts : List.Forall₂ Alike items items') : Alike (.list mark items) (.list mark' items')
  | table {mark mark' : Mark} {t order t' : Table} (perm : t.Perm order)
      (keys : order.map Prod.fst = t'.map Prod.fst)
      (parts : List.Forall₂ Alike (order.map Prod.snd) (t'.map Prod.snd)) :
      Alike (.table mark t) (.table mark' t')

/-- Two entries with one key and alike values. -/
def Value.AlikeEntry (e e' : Value × Value) : Prop := e.1 = e'.1 ∧ Value.Alike e.2 e'.2

/-- Two tables whose entries can be ordered so that they are alike one by one. -/
def Table.Alike (t t' : Table) : Prop :=
  ∃ order : Table, t.Perm order ∧ List.Forall₂ Value.AlikeEntry order t'

theorem forall₂_alikeEntry {t t' : Table} :
    List.Forall₂ Value.AlikeEntry t t' ↔ t.map Prod.fst = t'.map Prod.fst ∧
      List.Forall₂ Value.Alike (t.map Prod.snd) (t'.map Prod.snd) := by
  induction t generalizing t' with
  | nil => cases t' <;> simp
  | cons e t ih =>
    cases t' with
    | nil => simp
    | cons e' t' =>
      simp only [List.forall₂_cons, List.map_cons, List.cons.injEq, ih, Value.AlikeEntry]
      exact and_and_and_comm

namespace Value.Alike

variable {v w : Value}

theorem text?_eq (h : Value.Alike v w) : v.text? = w.text? := by
  cases h <;> rfl

theorem bool?_eq (h : Value.Alike v w) : v.bool? = w.bool? := by
  cases h <;> rfl

theorem isNull_eq (h : Value.Alike v w) : v.isNull = w.isNull := by
  cases h <;> rfl

theorem texts?_eq (h : Value.Alike v w) : v.texts? = w.texts? := by
  cases h with
  | list parts => exact mapM_eq_of_forall₂ (parts.imp fun _ _ => text?_eq)
  | _ => rfl

theorem of_entries {mark mark' : Mark} {t order t' : Table} (perm : t.Perm order)
    (parts : List.Forall₂ Value.AlikeEntry order t') :
    Value.Alike (.table mark t) (.table mark' t') :=
  .table perm (forall₂_alikeEntry.1 parts).1 (forall₂_alikeEntry.1 parts).2

theorem exists_table {mark : Mark} {t : Table} (h : Value.Alike (.table mark t) w) :
    ∃ mark' t', w = .table mark' t' ∧ t.Alike t' := by
  cases h with
  | table perm keys parts => exact ⟨_, _, rfl, _, perm, forall₂_alikeEntry.2 ⟨keys, parts⟩⟩

/-- Either both values are tables, which are alike, or neither is one. -/
theorem table?_rel (h : Value.Alike v w) : Option.Rel Table.Alike v.table? w.table? := by
  cases h with
  | table perm keys parts => exact .some ⟨_, perm, forall₂_alikeEntry.2 ⟨keys, parts⟩⟩
  | _ => exact .none

/-- What is alike a plain value is plain. -/
theorem plain (plain : v.Plain) (h : Value.Alike v w) : w.Plain := by
  induction plain generalizing w with
  | text s => cases h with | scalar => exact .text s
  | bool b => cases h with | scalar => exact .bool b
  | int n => cases h with | scalar => exact .int n
  | list _ ih =>
    cases h with
    | list parts =>
      refine .list fun u hu => ?_
      obtain ⟨v, ⟨hv, alike⟩⟩ := exists_of_forall₂ (List.Forall₂.flip
        ((List.forall₂_and_left _ _).2 ⟨fun _ => id, parts⟩)) u hu
      exact ih v hv alike
  | table named _ ih =>
    cases h with
    | table perm keys parts =>
      refine .table (named.of_perm ((perm.map _).trans (keys ▸ .refl _))) fun e he => ?_
      obtain ⟨e', ⟨he', -, alike⟩⟩ := exists_of_forall₂ (List.Forall₂.flip
        ((List.forall₂_and_left _ _).2 ⟨fun _ => id, forall₂_alikeEntry.2 ⟨keys, parts⟩⟩)) e he
      exact ih e' (perm.mem_iff.2 he') alike

/-- Values that are alike are so from either side. -/
theorem symm (h : Value.Alike v w) : Value.Alike w v := by
  induction size : sizeOf v using Nat.strongRecOn generalizing v w with
  | ind n ih =>
    cases h with
    | scalar s => exact .scalar s
    | @list mark mark' items items' parts =>
      have known := List.Forall₂.flip ((List.forall₂_and_left _ _).2 ⟨fun _ => id, parts⟩)
      refine .list (known.imp fun b a ⟨ha, alike⟩ => ih (sizeOf a) ?_ alike rfl)
      have small := List.sizeOf_lt_of_mem ha
      simp only [Value.list.sizeOf_spec] at size
      omega
    | @table mark mark' t order t' perm keys parts =>
      have known := List.Forall₂.flip
        ((List.forall₂_and_left _ _).2 ⟨fun _ => id, forall₂_alikeEntry.2 ⟨keys, parts⟩⟩)
      have back : List.Forall₂ Value.AlikeEntry t' order := by
        refine known.imp fun e' e ⟨he, key, alike⟩ => ⟨key.symm, ih (sizeOf e.2) ?_ alike rfl⟩
        have small := List.sizeOf_lt_of_mem (perm.mem_iff.2 he)
        have inner : sizeOf e = 1 + sizeOf e.1 + sizeOf e.2 := Prod.mk.sizeOf_spec ..
        simp only [Value.table.sizeOf_spec] at size
        omega
      -- The entries that go with those of `t`, in their order.
      obtain ⟨order', parts', perm'⟩ := List.perm_comp_forall₂ perm back.flip
      exact of_entries perm'.symm parts'.flip

end Value.Alike

namespace Table.Alike

variable {t t' : Table} {key : Text}

theorem value (h : t.Alike t') : Value.Alike (.table none t) (.table none t') := by
  obtain ⟨order, perm, parts⟩ := h
  exact .of_entries perm parts

theorem symm (h : t.Alike t') : t'.Alike t := by
  obtain ⟨_, _, ⟨⟩, alike⟩ := h.value.symm.exists_table
  exact alike

theorem plain (h : t.Alike t') (plain : t.Plain) : t'.Plain :=
  (Value.Alike.plain (plain.value none) h.value).of_table

theorem named (h : t.Alike t') (named : t.Named) : t'.Named := by
  obtain ⟨order, perm, parts⟩ := h
  refine named.of_perm ((perm.map _).trans ?_)
  rw [(forall₂_alikeEntry.1 parts).1]

theorem get?_of_forall₂ (parts : List.Forall₂ Value.AlikeEntry t t') (key : Text) :
    Option.Rel Value.Alike (t.get? key) (t'.get? key) := by
  unfold Table.get?
  induction parts with
  | nil => exact .none
  | @cons e e' _ _ he _ ih =>
    obtain ⟨k, v⟩ := e
    obtain ⟨k', w⟩ := e'
    obtain ⟨rfl, alike⟩ : k = k' ∧ Value.Alike v w := he
    by_cases hk : Key.same k (Value.text key) = true
    · simp only [Assoc.get?, hk, if_true]
      exact .some alike
    · simp only [Assoc.get?, hk]
      exact ih

variable (h : t.Alike t') (named : t.Named)

include h named

/-- Tables that are alike hold alike values under each key, or none. -/
theorem get? (key : Text) : Option.Rel Value.Alike (t.get? key) (t'.get? key) := by
  obtain ⟨order, perm, parts⟩ := h
  have same : t.get? key = order.get? key := by
    apply Option.ext
    intro v
    rw [← named.mem_iff_get?, ← (named.of_perm (perm.map _)).mem_iff_get?, perm.mem_iff]
  rw [same]
  exact get?_of_forall₂ parts key

theorem given? (key : Text) : Option.Rel Value.Alike (t.given? key) (t'.given? key) := by
  unfold Table.given?
  have held := h.get? named key
  generalize t.get? key = a, t'.get? key = b at held
  cases held with
  | none => exact .none
  | some alike =>
    rw [Option.filter_some, Option.filter_some, alike.isNull_eq]
    split
    · exact .some alike
    · exact .none

/-- What counts of a value without parts is the same in both tables. -/
theorem get?_text? (key : Text) :
    (t.get? key).bind Value.text? = (t'.get? key).bind Value.text? := by
  have held := h.get? named key
  generalize t.get? key = a, t'.get? key = b at held
  cases held with
  | none => rfl
  | some alike => exact alike.text?_eq

theorem get?_table? (key : Text) :
    Option.Rel Table.Alike ((t.get? key).bind Value.table?) ((t'.get? key).bind Value.table?) := by
  have held := h.get? named key
  generalize t.get? key = a, t'.get? key = b at held
  cases held with
  | none => exact .none
  | some alike => exact alike.table?_rel

end Table.Alike

end Bindery
