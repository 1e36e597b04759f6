import Bindery.Merge.Basic
import Bindery.Proofs.Assoc

/-!
# Tables and their text keys

What a table holds under a text does not change when the value of another text is set or taken away.
In a table whose keys are distinct (`Table.Proper`), setting a value leaves the other entries as
they are (`Table.perm_put`): only the place of the entry may be another one.
-/

namespace Bindery

theorem Value.same_text_iff {v : Value} {s : Text} :
    Key.same v (Value.text s) = true ↔ v.scalar? = some (.text s) := by
  show v.same (Value.text s) = true ↔ _
  cases v with
  | scalar c => cases c <;> simp [Value.same, Value.scalar?, Value.mark, Scalar.same, Scalar.int?]
  | marked mark c =>
    cases c <;> simp [Value.same, Value.scalar?, Value.mark, Scalar.same, Scalar.int?]
  | _ => simp [Value.same, Value.scalar?]

theorem Value.text_same_iff {v : Value} {s : Text} :
    Key.same (Value.text s) v = true ↔ v.scalar? = some (.text s) := by
  show (Value.text s).same v = true ↔ _
  cases v with
  | scalar c =>
    cases c <;> simp [Value.same, Value.scalar?, Value.mark, Scalar.same, Scalar.int?, eq_comm]
  | marked mark c =>
    cases c <;> simp [Value.same, Value.scalar?, Value.mark, Scalar.same, Scalar.int?, eq_comm]
  | _ => simp [Value.same, Value.scalar?]

namespace Table

variable {t : Table} {key key' : Text}

/-- A key is no two texts. -/
theorem not_same_text (h : key ≠ key') {k : Value} (hk : Key.same k (Value.text key) = true) :
    Key.same k (Value.text key') = false := by
  rw [Bool.eq_false_iff]
  intro hk'
  rw [Value.same_text_iff] at hk hk'
  rw [hk] at hk'
  exact h (Scalar.text.inj (Option.some.inj hk'))

theorem text_not_same (h : key ≠ key') :
    Key.same (Value.text key) (Value.text key') = false :=
  not_same_text h (Value.same_text_iff.2 rfl)

theorem get?_put_of_ne (h : key ≠ key') (t : Table) (v : Value) :
    (t.put key v).get? key' = t.get? key' := by
  unfold put get?
  induction t with
  | nil => simp [Assoc.put, Assoc.get?, text_not_same h]
  | cons e t ih =>
    obtain ⟨k, w⟩ := e
    by_cases hk : Key.same k (Value.text key) = true
    · simp [Assoc.put, Assoc.get?, hk, not_same_text h hk]
    · simp [Assoc.put, Assoc.get?, hk, ih]

theorem get?_erase_of_ne (h : key ≠ key') (t : Table) : (t.erase key).get? key' = t.get? key' := by
  unfold erase get? Assoc.erase
  induction t with
  | nil => rfl
  | cons e t ih =>
    obtain ⟨k, w⟩ := e
    by_cases hk : Key.same k (Value.text key) = true
    · simpa [Assoc.get?, hk, not_same_text h hk] using ih
    · simp [Assoc.get?, hk, ih]

theorem get?_replace_of_ne (h : key ≠ key') (t : Table) (v : Option Value) :
    (t.replace key v).get? key' = t.get? key' := by
  cases v with
  | none => exact get?_erase_of_ne h t
  | some v => exact get?_put_of_ne h t v

theorem get?_erase_self (t : Table) (key : Text) : (t.erase key).get? key = none := by
  unfold erase get? Assoc.erase
  induction t with
  | nil => rfl
  | cons e t ih =>
    obtain ⟨k, w⟩ := e
    by_cases hk : Key.same k (Value.text key) = true
    · simpa [hk] using ih
    · simpa [Assoc.get?, hk] using ih

theorem get?_replace_self (t : Table) (key : Text) (v : Option Value) :
    (t.replace key v).get? key = v := by
  cases v with
  | none => exact get?_erase_self t key
  | some v => exact get?_put_self t key v

theorem put_put (t : Table) (key : Text) (v w : Value) : (t.put key v).put key w = t.put key w := by
  unfold put
  induction t with
  | nil => simp [Assoc.put, Value.same_text_iff, Value.scalar?]
  | cons e t ih =>
    obtain ⟨k, u⟩ := e
    by_cases hk : Key.same k (Value.text key) = true
    · simp [Assoc.put, hk]
    · simp [Assoc.put, hk, ih]

theorem erase_erase (t : Table) (key key' : Text) :
    (t.erase key).erase key' = (t.erase key').erase key := by
  simp only [erase, Assoc.erase, List.filter_filter, Bool.and_comm]

theorem erase_self (t : Table) (key : Text) : (t.erase key).erase key = t.erase key := by
  simp only [erase, Assoc.erase, List.filter_filter, Bool.and_self]

theorem erase_put_self (t : Table) (key : Text) (v : Value) :
    (t.put key v).erase key = t.erase key := by
  unfold put erase Assoc.erase
  induction t with
  | nil => simp [Assoc.put, Value.same_text_iff, Value.scalar?]
  | cons e t ih =>
    obtain ⟨k, w⟩ := e
    by_cases hk : Key.same k (Value.text key) = true
    · simp [Assoc.put, hk]
    · simp [Assoc.put, hk, ih]

theorem erase_replace_self (t : Table) (key : Text) (v : Option Value) :
    (t.replace key v).erase key = t.erase key := by
  cases v with
  | none => exact erase_self t key
  | some v => exact erase_put_self t key v

/-- The entry of a key, if there is a value for it. -/
def entry (key : Text) (v : Option Value) : Table := (v.map fun w => (Value.text key, w)).toList

theorem erase_entry (key : Text) (v : Option Value) : (entry key v).erase key = [] := by
  cases v <;> simp [entry, erase, Assoc.erase, Value.same_text_iff, Value.scalar?]

theorem erase_entry_of_ne (h : key ≠ key') (v : Option Value) :
    (entry key v).erase key' = entry key v := by
  cases v with
  | none => rfl
  | some v => simp [entry, erase, Assoc.erase, text_not_same h]

theorem erase_append (t u : Table) (key : Text) : (t ++ u).erase key = t.erase key ++ u.erase key :=
  List.filter_append ..

/-- A table in which no key stands twice, and no text is told apart from an equal one. -/
structure Proper (t : Table) : Prop where
  distinct : Assoc.Distinct t
  plain : ∀ e ∈ t, ∀ mark s, e.1 ≠ .marked mark (.text s)

namespace Proper

theorem key_eq (h : Proper t) {e : Value × Value} (he : e ∈ t)
    (same : Key.same e.1 (Value.text key) = true) : e.1 = .text key := by
  have plain := h.plain e he
  rw [Value.same_text_iff] at same
  cases hk : e.1 with
  | scalar c =>
    rw [hk] at same
    rw [Option.some.inj same]
  | marked mark c =>
    rw [hk] at same plain
    rw [Option.some.inj same] at plain
    exact absurd rfl (plain mark key)
  | _ =>
    rw [hk] at same
    cases same

theorem erase (h : Proper t) (key : Text) : Proper (t.erase key) :=
  ⟨h.distinct.sublist List.filter_sublist, fun e he => h.plain e (List.mem_filter.1 he).1⟩

theorem tail {e : Value × Value} (h : Proper (e :: t)) : Proper t :=
  ⟨(List.pairwise_cons.1 h.distinct).2, fun e' he' => h.plain e' (List.mem_cons_of_mem _ he')⟩

end Proper

/-- Where the entries of a table go when a value is set. -/
theorem perm_put (h : Proper t) (key : Text) (v : Value) :
    (t.put key v).Perm ((.text key, v) :: t.erase key) := by
  unfold put erase
  induction t with
  | nil => exact .refl _
  | cons e t ih =>
    obtain ⟨k, w⟩ := e
    by_cases hk : Key.same k (Value.text key) = true
    · -- The key stands here, so it stands nowhere behind.
      obtain rfl : k = .text key := h.key_eq List.mem_cons_self hk
      have gone : Assoc.erase (Value.text key) t = t := by
        refine List.filter_eq_self.2 fun e he => ?_
        have apart := (List.pairwise_cons.1 h.distinct).1 e he
        rw [Bool.eq_false_iff, ne_eq, Value.text_same_iff, ← Value.same_text_iff] at apart
        simpa using apart
      have front : Assoc.erase (Value.text key) ((Value.text key, w) :: t) =
          Assoc.erase (Value.text key) t := List.filter_cons_of_neg (by simp [hk])
      rw [Assoc.put, if_pos hk, front, gone]
    · have front : Assoc.erase (Value.text key) ((k, w) :: t) =
          (k, w) :: Assoc.erase (Value.text key) t := List.filter_cons_of_pos (by simpa using hk)
      rw [Assoc.put, if_neg hk, front]
      exact ((ih h.tail).cons _).trans (.swap ..)

theorem perm_replace (h : Proper t) (key : Text) (v : Option Value) :
    (t.replace key v).Perm (entry key v ++ t.erase key) := by
  cases v with
  | none => exact .refl _
  | some v => exact perm_put h key v

theorem Proper.put (h : Proper t) (key : Text) (v : Value) : Proper (t.put key v) := by
  unfold Table.put
  induction t with
  | nil =>
    refine ⟨List.pairwise_singleton .., fun e he => ?_⟩
    rw [List.mem_singleton.1 he]
    nofun
  | cons e t ih =>
    obtain ⟨k, w⟩ := e
    obtain ⟨apart, -⟩ := List.pairwise_cons.1 h.distinct
    rw [Assoc.put]
    split
    · refine ⟨List.pairwise_cons.2 ⟨apart, h.tail.distinct⟩, fun e he => ?_⟩
      rcases List.mem_cons.1 he with rfl | he
      · exact h.plain (k, w) List.mem_cons_self
      · exact h.plain e (List.mem_cons_of_mem _ he)
    · rename_i hk
      have tail := ih h.tail
      refine ⟨List.pairwise_cons.2 ⟨fun e he => ?_, tail.distinct⟩, fun e he => ?_⟩
      · rcases List.mem_cons.1 ((perm_put h.tail key v).mem_iff.1 he) with rfl | he
        · simpa using hk
        · exact apart e (List.mem_filter.1 he).1
      · rcases List.mem_cons.1 he with rfl | he
        · exact h.plain (k, w) List.mem_cons_self
        · exact tail.plain e he

theorem Proper.replace (h : Proper t) (key : Text) (v : Option Value) :
    Proper (t.replace key v) := by
  cases v with
  | none => exact h.erase key
  | some v => exact h.put key v

theorem perm_erase {u : Table} (h : t.Perm u) (key : Text) : (t.erase key).Perm (u.erase key) :=
  h.filter _

end Table

end Bindery
