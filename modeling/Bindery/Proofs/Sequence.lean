import Bindery.Sequence
import Mathlib.Data.List.Basic
import Mathlib.Data.List.Induction

/-!
# Lists without repetition

Taking the members of a list at their first places goes from the front to the back (`distinctOn` is
the walk, with what was seen before), and can be done before or after the members are renamed, when
no two get one name. What comes out has no member twice (`nodup_distinct`), and is the list with
later repetitions erased (`distinct_eq_eraseDups`), in the order of their first places
(`firstPlaces_distinct`). Members that a list has already can be put behind it and change nothing,
also where another list follows (`distinct_append_append`).
-/

namespace Bindery.Sequence

variable {α β : Type} [DecidableEq α] [DecidableEq β]

/-- The members seen, and after them the first places of the members of a list that were not
seen. -/
def distinctOn (seen xs : List α) : List α :=
  xs.foldl (fun seen x => if x ∈ seen then seen else seen ++ [x]) seen

theorem distinctOn_cons (seen : List α) (x : α) (xs : List α) :
    distinctOn seen (x :: xs) = distinctOn (if x ∈ seen then seen else seen ++ [x]) xs := rfl

/-- Names that differ for different members may be given before or after. -/
theorem map_distinctOn {f : α → β} (inj : Function.Injective f) (seen xs : List α) :
    (distinctOn seen xs).map f = distinctOn (seen.map f) (xs.map f) := by
  induction xs generalizing seen with
  | nil => rfl
  | cons x xs ih =>
    have hx : f x ∈ seen.map f ↔ x ∈ seen :=
      ⟨fun h => by obtain ⟨y, hy, h⟩ := List.mem_map.1 h; exact inj h ▸ hy, List.mem_map_of_mem⟩
    rw [List.map_cons, distinctOn_cons, distinctOn_cons, ih]
    by_cases h : x ∈ seen
    · rw [if_pos h, if_pos (hx.2 h)]
    · rw [if_neg h, if_neg (mt hx.1 h), List.map_append, List.map_singleton]

/-- And so for a list from its front. -/
theorem map_distinct {f : α → β} (inj : Function.Injective f) (xs : List α) :
    (distinct xs).map f = distinct (xs.map f) :=
  map_distinctOn inj [] xs

/-! ## Members that are there already -/

/-- Walking two lists is walking the one and then the other. -/
theorem distinctOn_append (seen xs ys : List α) :
    distinctOn seen (xs ++ ys) = distinctOn (distinctOn seen xs) ys :=
  List.foldl_append

/-- What is in the walk was seen before or stands in the list. -/
theorem mem_distinctOn {x : α} {seen xs : List α} : x ∈ distinctOn seen xs ↔ x ∈ seen ∨ x ∈ xs := by
  induction xs generalizing seen with
  | nil => simp [distinctOn]
  | cons y xs ih =>
    rw [distinctOn_cons, ih, List.mem_cons]
    by_cases hy : y ∈ seen
    · rw [if_pos hy]
      constructor
      · exact fun h => h.imp_right .inr
      · rintro (h | rfl | h)
        · exact .inl h
        · exact .inl hy
        · exact .inr h
    · rw [if_neg hy, List.mem_append, List.mem_singleton, or_assoc]

theorem mem_distinct {x : α} {xs : List α} : x ∈ distinct xs ↔ x ∈ xs :=
  mem_distinctOn.trans (by simp)

/-- The walk sees no member twice. -/
theorem nodup_distinctOn {seen : List α} (nodup : seen.Nodup) (xs : List α) :
    (distinctOn seen xs).Nodup := by
  induction xs generalizing seen with
  | nil => exact nodup
  | cons x xs ih =>
    rw [distinctOn_cons]
    by_cases hx : x ∈ seen
    · rw [if_pos hx]
      exact ih nodup
    · rw [if_neg hx]
      refine ih (List.nodup_append.2 ⟨nodup, List.pairwise_singleton .., ?_⟩)
      rintro a ha b hb rfl
      exact hx (List.mem_singleton.1 hb ▸ ha)

theorem nodup_distinct (xs : List α) : (distinct xs).Nodup :=
  nodup_distinctOn List.nodup_nil xs

/-- Putting a list in another order does the same to its different members. -/
theorem distinct_perm {xs ys : List α} (perm : xs.Perm ys) : (distinct xs).Perm (distinct ys) := by
  refine (List.perm_ext_iff_of_nodup (nodup_distinct xs) (nodup_distinct ys)).2 fun x => ?_
  rw [mem_distinct, mem_distinct, perm.mem_iff]

/-- A list of members that were seen adds none. -/
theorem distinctOn_of_subset {seen xs : List α} (there : xs ⊆ seen) :
    distinctOn seen xs = seen := by
  induction xs with
  | nil => rfl
  | cons x xs ih =>
    obtain ⟨hx, there⟩ := List.cons_subset.1 there
    rw [distinctOn_cons, if_pos hx, ih there]

/-- Lists can be followed by members that they have. -/
theorem distinct_append_append {xs xs' ys ys' : List α} (there : xs' ⊆ xs) (there' : ys' ⊆ ys) :
    distinct ((xs ++ xs') ++ (ys ++ ys')) = distinct (xs ++ ys) := by
  show distinctOn [] _ = distinctOn [] _
  have skipped : distinctOn (distinctOn [] xs) xs' = distinctOn [] xs :=
    distinctOn_of_subset fun x hx => mem_distinctOn.2 (.inr (there hx))
  simp only [distinctOn_append, skipped]
  exact distinctOn_of_subset fun y hy => mem_distinctOn.2 (.inr (there' hy))

/-- Members that stand in front already are not added behind. -/
theorem distinct_append_of_subset {xs xs' : List α} (there : xs' ⊆ xs) :
    distinct (xs ++ xs') = distinct xs := by
  simpa using distinct_append_append there (List.Subset.refl ([] : List α))

/-! ## Without repetitions -/

/-- The walk adds the members that were not seen, each once. -/
theorem distinctOn_eq [BEq α] [LawfulBEq α] (seen xs : List α) :
    distinctOn seen xs = seen ++ (xs.filter fun x => x ∉ seen).eraseDups := by
  induction xs generalizing seen with
  | nil => simp [distinctOn]
  | cons x xs ih =>
    rw [distinctOn_cons, ih]
    by_cases hx : x ∈ seen
    · rw [if_pos hx, List.filter_cons_of_neg (by simpa using hx)]
    · rw [if_neg hx, List.filter_cons_of_pos (by simpa using hx), List.eraseDups_cons,
        List.filter_filter, List.append_assoc, List.singleton_append]
      congr 3
      refine List.filter_congr fun y _ => ?_
      rw [Bool.eq_iff_iff]
      simp [and_comm]

/-- The members of a list at their first places are the list without its repetitions. -/
theorem distinct_eq_eraseDups [BEq α] [LawfulBEq α] (xs : List α) :
    distinct xs = xs.eraseDups := by
  show distinctOn [] xs = _
  have all : xs.filter (fun x => x ∉ ([] : List α)) = xs := List.filter_eq_self.2 (by simp)
  rw [distinctOn_eq, all, List.nil_append]

/-- Where no member stands twice the walk adds all. -/
theorem distinctOn_of_nodup {seen xs : List α} (nodup : (seen ++ xs).Nodup) :
    distinctOn seen xs = seen ++ xs := by
  induction xs generalizing seen with
  | nil => simp [distinctOn]
  | cons x xs ih =>
    have fresh : x ∉ seen := fun hx => (List.nodup_append.1 nodup).2.2 x hx x List.mem_cons_self rfl
    rw [distinctOn_cons, if_neg fresh, ih (by simpa using nodup), List.append_assoc,
      List.singleton_append]

/-- What comes out of the front comes out in front. -/
theorem distinct_prefix_append (xs ys : List α) : distinct xs <+: distinct (xs ++ ys) := by
  show distinctOn [] xs <+: distinctOn [] (xs ++ ys)
  rw [distinctOn_append, distinctOn_eq (distinctOn [] xs)]
  exact List.prefix_append _ _

theorem distinct_of_nodup {xs : List α} (nodup : xs.Nodup) : distinct xs = xs :=
  distinctOn_of_nodup (by simpa using nodup)

/-! ## In order -/

/-- The members of a list, each of them once, in the order in which they come first. -/
structure FirstPlaces (xs taken : List α) : Prop where
  mem : ∀ x, x ∈ taken ↔ x ∈ xs
  once : taken.Nodup
  order : taken.Pairwise fun x y => xs.idxOf x < xs.idxOf y

/-- There is one list of them. -/
theorem FirstPlaces.eq {xs taken taken' : List α} (h : FirstPlaces xs taken)
    (h' : FirstPlaces xs taken') : taken = taken' := by
  have perm : taken.Perm taken' :=
    (List.perm_ext_iff_of_nodup h.once h'.once).2 fun x => (h.mem x).trans (h'.mem x).symm
  exact perm.eq_of_pairwise (fun _ _ _ _ before behind => absurd before (Nat.lt_asymm behind))
    h.order h'.order

/-- One more member comes out at the end, if it is new. -/
theorem distinct_append_singleton (xs : List α) (x : α) :
    distinct (xs ++ [x]) = if x ∈ xs then distinct xs else distinct xs ++ [x] := by
  show distinctOn [] (xs ++ [x]) = _
  rw [distinctOn_append, distinctOn_cons]
  exact if_congr mem_distinct rfl rfl

/-- Members come out in the order of their first places. -/
theorem pairwise_distinct (xs : List α) :
    (distinct xs).Pairwise fun x y => xs.idxOf x < xs.idxOf y := by
  -- From the back: what comes last is behind all that was there before, or was there.
  induction xs using List.reverseRecOn with
  | nil => exact List.Pairwise.nil
  | append_singleton xs x ih =>
    have before {y : α} (hy : y ∈ distinct xs) : (xs ++ [x]).idxOf y = xs.idxOf y :=
      List.idxOf_append_of_mem (mem_distinct.1 hy)
    have kept : (distinct xs).Pairwise fun y z => (xs ++ [x]).idxOf y < (xs ++ [x]).idxOf z :=
      ih.imp_of_mem fun hy hz h => by rwa [before hy, before hz]
    rw [distinct_append_singleton]
    split
    · exact kept
    · rename_i fresh
      refine List.pairwise_append.2 ⟨kept, List.pairwise_singleton .., fun y hy z hz => ?_⟩
      rw [List.mem_singleton.1 hz, before hy, List.idxOf_append_of_notMem fresh]
      exact Nat.lt_add_right _ (List.idxOf_lt_length_of_mem (mem_distinct.1 hy))

/-- And are those of the list at their first places. -/
theorem firstPlaces_distinct (xs : List α) : FirstPlaces xs (distinct xs) :=
  ⟨fun _ => mem_distinct, nodup_distinct xs, pairwise_distinct xs⟩

end Bindery.Sequence
