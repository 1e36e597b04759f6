import Mathlib.Data.List.Lex
import Mathlib.Data.List.Perm.Basic
import Bindery.Sequence

/-!
# Entries in order of their keys

Entries are sorted by their keys, and those of one key stay in the order in which they were
(`ofKey_sortedByKey`). As keys are told apart by their order, what comes out depends on nothing but
the entries of each key (`sortedByKey_congr`): entries of different keys may stand in any order.
Texts are sorted in the same way, and those that differ end up strictly in order
(`pairwise_sortedTexts`).
-/

namespace Bindery.Sequence

variable {α : Type} {a b : Text} {xs ys : List (Text × α)}

/-- Texts are ordered as the numbers of their characters are. -/
theorem textLe_iff : textLe a b = true ↔ a.numbers ≤ b.numbers := by
  rw [textLe, Bool.not_eq_true', decide_eq_false_iff_not, not_lt]

theorem textLe_antisymm (h : textLe a b = true) (h' : textLe b a = true) : a = b :=
  Text.numbers_injective (le_antisymm (textLe_iff.1 h) (textLe_iff.1 h'))

theorem textLe_trans (a b c : Text) (h : textLe a b = true) (h' : textLe b c = true) :
    textLe a c = true :=
  textLe_iff.2 (le_trans (textLe_iff.1 h) (textLe_iff.1 h'))

theorem textLe_total (a b : Text) : (textLe a b || textLe b a) = true := by
  rw [Bool.or_eq_true]
  exact (le_total a.numbers b.numbers).imp textLe_iff.2 textLe_iff.2

/-- Entries in the order of their keys. -/
def keyLe (a b : Text × α) : Bool := textLe a.1 b.1

theorem keyLe_trans (a b c : Text × α) (h : keyLe a b = true) (h' : keyLe b c = true) :
    keyLe a c = true :=
  textLe_trans a.1 b.1 c.1 h h'

theorem keyLe_total (a b : Text × α) : (keyLe a b || keyLe b a) = true :=
  textLe_total a.1 b.1

/-- Entries that are sorted stand in the order of their keys. -/
theorem pairwise_sortedByKey (xs : List (Text × α)) :
    (sortedByKey xs).Pairwise fun a b => keyLe a b = true :=
  List.pairwise_mergeSort keyLe_trans keyLe_total xs

/-- The entries of a key. -/
def ofKey (key : Text) (xs : List (Text × α)) : List (Text × α) := xs.filter fun e => e.1 == key

/-- Sorting keeps the order of the entries of one key. -/
theorem ofKey_sortedByKey (key : Text) (xs : List (Text × α)) :
    ofKey key (sortedByKey xs) = ofKey key xs := by
  have alike : (ofKey key xs).Pairwise fun a b => keyLe a b = true := by
    refine List.pairwise_of_forall_mem_list ?_
    intro a ha b hb
    have hka : a.1 = key := by simpa using (List.mem_filter.1 ha).2
    have hkb : b.1 = key := by simpa using (List.mem_filter.1 hb).2
    exact textLe_iff.2 (by rw [hka, hkb])
  have kept : (ofKey key xs).Sublist (sortedByKey xs) :=
    List.sublist_mergeSort keyLe_trans keyLe_total alike List.filter_sublist
  have inside : (ofKey key xs).Sublist (ofKey key (sortedByKey xs)) := by
    have filtered := kept.filter fun e => e.1 == key
    rw [ofKey, List.filter_filter] at filtered
    simp only [Bool.and_self] at filtered
    exact filtered
  have length : (ofKey key (sortedByKey xs)).length = (ofKey key xs).length :=
    ((List.mergeSort_perm xs _).filter _).length_eq
  exact (inside.eq_of_length length.symm).symm

theorem ofKey_cons_self (a : Text × α) (xs : List (Text × α)) :
    ofKey a.1 (a :: xs) = a :: ofKey a.1 xs :=
  List.filter_cons_of_pos (beq_self_eq_true a.1)

theorem ofKey_cons_of_ne {a : Text × α} {key : Text} (h : a.1 ≠ key) (xs : List (Text × α)) :
    ofKey key (a :: xs) = ofKey key xs :=
  List.filter_cons_of_neg (by simpa using h)

/-- What comes first in order comes no later than any entry of its list. -/
theorem keyLe_of_mem {a b : Text × α} (sorted : (a :: xs).Pairwise fun a b => keyLe a b = true)
    (hb : b ∈ a :: xs) : keyLe a b = true := by
  rcases List.mem_cons.1 hb with rfl | hb
  · exact textLe_iff.2 (le_refl _)
  · exact (List.pairwise_cons.1 sorted).1 b hb

/-- Lists in order are the same when each key has the same entries in both. -/
theorem eq_of_ofKey (sorted : xs.Pairwise fun a b => keyLe a b = true)
    (sorted' : ys.Pairwise fun a b => keyLe a b = true)
    (same : ∀ key, ofKey key xs = ofKey key ys) : xs = ys := by
  induction xs generalizing ys with
  | nil =>
    cases ys with
    | nil => rfl
    | cons b ys =>
      have none := same b.1
      rw [ofKey_cons_self] at none
      cases none
  | cons a xs ih =>
    have there : a ∈ ofKey a.1 ys := by
      rw [← same, ofKey_cons_self]
      exact List.mem_cons_self
    cases ys with
    | nil => cases there
    | cons b ys =>
      have back : b ∈ ofKey b.1 (a :: xs) := by
        rw [same, ofKey_cons_self]
        exact List.mem_cons_self
      -- Each head is in the other list, so neither comes before the other.
      have keys : a.1 = b.1 := textLe_antisymm
        (keyLe_of_mem sorted (List.mem_filter.1 back).1)
        (keyLe_of_mem sorted' (List.mem_filter.1 there).1)
      have heads := same a.1
      rw [ofKey_cons_self, keys, ofKey_cons_self] at heads
      obtain ⟨rfl, tails⟩ := List.cons.inj heads
      rw [ih (List.pairwise_cons.1 sorted).2 (List.pairwise_cons.1 sorted').2]
      intro key
      by_cases h : a.1 = key
      · rw [← h]
        exact tails
      · have whole := same key
        rwa [ofKey_cons_of_ne h, ofKey_cons_of_ne h] at whole

/-- What is sorted depends on the entries of each key alone. -/
theorem sortedByKey_congr (same : ∀ key, ofKey key xs = ofKey key ys) :
    sortedByKey xs = sortedByKey ys := by
  apply eq_of_ofKey (pairwise_sortedByKey xs) (pairwise_sortedByKey ys)
  intro key
  rw [ofKey_sortedByKey, ofKey_sortedByKey, same]

/-- Entries with different keys may be added in any order. -/
theorem sortedByKey_append_perm {added added' : List (Text × α)} (perm : added.Perm added')
    (distinct : (added.map Prod.fst).Nodup) (xs : List (Text × α)) :
    sortedByKey (xs ++ added) = sortedByKey (xs ++ added') := by
  apply sortedByKey_congr
  intro key
  have permOfKey : (ofKey key added).Perm (ofKey key added') := perm.filter _
  have apart : (ofKey key added).Pairwise fun a b => a.1 ≠ b.1 :=
    (List.pairwise_map.1 distinct).sublist List.filter_sublist
  have apart' : (ofKey key added').Pairwise fun a b => a.1 ≠ b.1 :=
    (List.pairwise_map.1 ((perm.map _).nodup_iff.1 distinct)).sublist List.filter_sublist
  -- Entries of one key cannot be apart, so there is one at most.
  have alone : ∀ a b : Text × α, a ∈ ofKey key added → b ∈ ofKey key added' → a.1 ≠ b.1 →
      b.1 ≠ a.1 → a = b := by
    intro a b ha hb ne
    have hka : a.1 = key := by simpa using (List.mem_filter.1 ha).2
    have hkb : b.1 = key := by simpa using (List.mem_filter.1 hb).2
    exact absurd (hka.trans hkb.symm) ne
  have same : ofKey key added = ofKey key added' :=
    List.Perm.eq_of_pairwise alone apart apart' permOfKey
  show (xs ++ added).filter _ = (xs ++ added').filter _
  rw [List.filter_append, List.filter_append]
  exact congrArg _ same

/-! ## Strictly in order -/

/-- A text comes before another, by code points. -/
def Before (a b : Text) : Prop := a.numbers < b.numbers

instance : DecidableRel Before := fun a b => inferInstanceAs (Decidable (a.numbers < b.numbers))

/-- A text that is not after another, and is another one, is before it. -/
theorem before_of_textLe (h : textLe a b = true) (ne : a ≠ b) : Before a b :=
  lt_of_le_of_ne (textLe_iff.1 h) fun same => ne (Text.numbers_injective same)

/-- Different texts are sorted into the one order in which each comes before those behind it. -/
theorem pairwise_sortedTexts {texts : List Text} (nodup : texts.Nodup) :
    (sortedTexts texts).Pairwise Before := by
  have apart : (sortedTexts texts).Nodup := (List.mergeSort_perm texts textLe).nodup_iff.2 nodup
  have sorted : (sortedTexts texts).Pairwise fun a b => textLe a b = true :=
    List.pairwise_mergeSort textLe_trans textLe_total texts
  exact (sorted.and apart).imp fun h => before_of_textLe h.1 h.2

/-- Sorted entries with different keys have them one before the other. -/
theorem pairwise_keys_sortedByKey (distinct : (xs.map Prod.fst).Nodup) :
    ((sortedByKey xs).map Prod.fst).Pairwise Before := by
  have apart : ((sortedByKey xs).map Prod.fst).Nodup :=
    ((List.mergeSort_perm xs _).map Prod.fst).nodup_iff.2 distinct
  have sorted : ((sortedByKey xs).map Prod.fst).Pairwise fun a b => textLe a b = true :=
    List.pairwise_map.2 (pairwise_sortedByKey xs)
  exact (sorted.and apart).imp fun h => before_of_textLe h.1 h.2

/-- Texts are sorted into one order, whatever the order in which they come. -/
theorem sortedTexts_perm {texts texts' : List Text} (perm : texts.Perm texts') :
    sortedTexts texts = sortedTexts texts' := by
  have sorted (texts : List Text) : (sortedTexts texts).Pairwise fun a b => textLe a b = true :=
    List.pairwise_mergeSort textLe_trans textLe_total texts
  have permuted : (sortedTexts texts).Perm (sortedTexts texts') :=
    (List.mergeSort_perm texts _).trans (perm.trans (List.mergeSort_perm texts' _).symm)
  exact permuted.eq_of_pairwise (fun _ _ _ _ => textLe_antisymm) (sorted texts) (sorted texts')

end Bindery.Sequence
