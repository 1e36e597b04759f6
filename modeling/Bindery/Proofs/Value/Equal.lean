import Bindery.Proofs.Config.Reading

/-!
# Values that are equal

Two values of any kind are equal when they hold the same scalars in the same places
(`Value.Equal`). A truth value is no number there. Marks do not count, nor does the order of the
entries of a table or of the members of a set. Equal values are read alike, whatever a setting is
read as.
-/

namespace Bindery

open Outcome

/-- Two values with the same scalars in the same places. -/
inductive Value.Equal : Value → Value → Prop where
  | scalar (s : Scalar) : Equal (.scalar s) (.scalar s)
  | marked (mark mark' : Nat) (s : Scalar) : Equal (.marked mark s) (.marked mark' s)
  | marking {s : Scalar} (part : s.isPart = true) (mark : Nat) :
      Equal (.scalar s) (.marked mark s)
  | unmarking {s : Scalar} (part : s.isPart = true) (mark : Nat) :
      Equal (.marked mark s) (.scalar s)
  | list {mark mark' : Mark} {items items' : List Value}
      (parts : List.Forall₂ Equal items items') : Equal (.list mark items) (.list mark' items')
  | table {mark mark' : Mark} {t order t' : Table} (perm : t.Perm order)
      (keys : List.Forall₂ Equal (order.map Prod.fst) (t'.map Prod.fst))
      (parts : List.Forall₂ Equal (order.map Prod.snd) (t'.map Prod.snd)) :
      Equal (.table mark t) (.table mark' t')
  | set {mark mark' : Mark} {members order members' : List Value} (perm : members.Perm order)
      (parts : List.Forall₂ Equal order members') : Equal (.set mark members) (.set mark' members')
  | pair {mark mark' : Mark} {a b a' b' : Value} (first : Equal a a') (second : Equal b b') :
      Equal (.pair mark a b) (.pair mark' a' b')

/-- Two entries with equal keys and equal values. -/
def Value.EqualEntry (e e' : Value × Value) : Prop :=
  Value.Equal e.1 e'.1 ∧ Value.Equal e.2 e'.2

theorem forall₂_equalEntry {t t' : Table} :
    List.Forall₂ Value.EqualEntry t t' ↔
      List.Forall₂ Value.Equal (t.map Prod.fst) (t'.map Prod.fst) ∧
        List.Forall₂ Value.Equal (t.map Prod.snd) (t'.map Prod.snd) := by
  rw [List.forall₂_map_left_iff, List.forall₂_map_right_iff, List.forall₂_map_left_iff,
    List.forall₂_map_right_iff]
  constructor
  · intro h
    exact ⟨h.imp fun _ _ => And.left, h.imp fun _ _ => And.right⟩
  · rintro ⟨keys, parts⟩
    induction keys with
    | nil => exact .nil
    | cons key _ ih =>
      cases parts with
      | cons part parts => exact .cons ⟨key, part⟩ (ih parts)

namespace Value.Equal

variable {v w : Value}

theorem refl (v : Value) : Value.Equal v v := by
  induction size : sizeOf v using Nat.strongRecOn generalizing v with
  | ind n ih =>
    cases v with
    | scalar s => exact .scalar s
    | marked mark s => exact .marked mark mark s
    | list mark items =>
      refine .list (List.forall₂_same.2 fun v hv => ih (sizeOf v) ?_ v rfl)
      have small := List.sizeOf_lt_of_mem hv
      simp only [Value.list.sizeOf_spec] at size
      omega
    | table mark t =>
      have parts : List.Forall₂ EqualEntry t t := List.forall₂_same.2 fun e he => by
        have small := List.sizeOf_lt_of_mem he
        have inner : sizeOf e = 1 + sizeOf e.1 + sizeOf e.2 := Prod.mk.sizeOf_spec ..
        simp only [Value.table.sizeOf_spec] at size
        exact ⟨ih (sizeOf e.1) (by omega) e.1 rfl, ih (sizeOf e.2) (by omega) e.2 rfl⟩
      exact .table (.refl t) (forall₂_equalEntry.1 parts).1 (forall₂_equalEntry.1 parts).2
    | set mark members =>
      refine .set (.refl members) (List.forall₂_same.2 fun v hv => ih (sizeOf v) ?_ v rfl)
      have small := List.sizeOf_lt_of_mem hv
      simp only [Value.set.sizeOf_spec] at size
      omega
    | pair mark a b =>
      simp only [Value.pair.sizeOf_spec] at size
      exact .pair (ih (sizeOf a) (by omega) a rfl) (ih (sizeOf b) (by omega) b rfl)

theorem kind_eq (h : Value.Equal v w) : v.kind = w.kind := by
  cases h <;> rfl

theorem text?_eq (h : Value.Equal v w) : v.text? = w.text? := by
  cases h with
  -- A scalar that is told apart is neither a text nor a truth value.
  | @marking s part | @unmarking s part => cases s <;> first | rfl | cases part
  | _ => rfl

theorem bool?_eq (h : Value.Equal v w) : v.bool? = w.bool? := by
  cases h with
  | @marking s part | @unmarking s part => cases s <;> first | rfl | cases part
  | _ => rfl

theorem texts?_eq (h : Value.Equal v w) : v.texts? = w.texts? := by
  cases h with
  | list parts => exact mapM_eq_of_forall₂ (parts.imp fun _ _ => text?_eq)
  | _ => rfl

/-- Equal values are tables with equal entries, in some order, or neither is a table. -/
theorem table?_rel (h : Value.Equal v w) :
    Option.Rel (fun t t' => ∃ order : Table, t.Perm order ∧ List.Forall₂ EqualEntry order t')
      v.table? w.table? := by
  cases h with
  | table perm keys parts => exact .some ⟨_, perm, forall₂_equalEntry.2 ⟨keys, parts⟩⟩
  | _ => exact .none

theorem table?_eq_none (h : Value.Equal v w) (noTable : v.table? = none) : w.table? = none :=
  eq_none_of_rel (noTable ▸ h.table?_rel)

end Value.Equal

namespace Reader

theorem textEntry?_eq_bind (e : Value × Value) :
    textEntry? e = e.1.text?.bind fun k => e.2.text?.map fun v => (k, v) := by
  apply Option.ext
  rintro ⟨k, v⟩
  rw [textEntry?_eq_some]
  simp [Prod.ext_iff, Option.bind_eq_some_iff, Value.text?_eq_some]

theorem textEntry?_equal {e e' : Value × Value} (h : Value.EqualEntry e e') :
    textEntry? e = textEntry? e' := by
  rw [textEntry?_eq_bind, textEntry?_eq_bind, h.1.text?_eq, h.2.text?_eq]

/-- Equal values are read as the same entries of texts, in some order. -/
theorem textEntries?_rel {v w : Value} (h : Value.Equal v w) :
    Option.Rel List.Perm (textEntries? v) (textEntries? w) := by
  unfold textEntries?
  have tables := h.table?_rel
  generalize v.table? = t, w.table? = t' at tables
  cases tables with
  | none => exact .none
  | some related =>
    obtain ⟨order, perm, parts⟩ := related
    have same : order.mapM textEntry? = List.mapM textEntry? _ :=
      mapM_eq_of_forall₂ (parts.imp fun _ _ => textEntry?_equal)
    rw [Option.bind_some, Option.bind_some, ← same]
    exact mapM_some_perm perm

end Reader

end Bindery
