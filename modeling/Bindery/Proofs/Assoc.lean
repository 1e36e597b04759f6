import Bindery.Value.Basic

/-!
# What associations hold

Putting a value under a key and reading it back, and the union of two associations: the entries
of the left one stay as they are, and those of the right one follow under keys not there yet.
The union of texts by text keys is the same before and after both are held as values
(`map_union`).
-/

namespace Bindery.Assoc

variable {κ κ' α α' : Type} [Key κ] [Key κ']

theorem get?_put_self {k : κ} (own : Key.same k k = true) (v : α) (entries : List (κ × α)) :
    get? k (put k v entries) = some v := by
  induction entries with
  | nil => simp [put, get?, own]
  | cons e rest ih =>
    obtain ⟨k', v'⟩ := e
    by_cases h : Key.same k' k = true
    · simp [put, get?, h]
    · simp [put, get?, h, ih]

/-- Replacing the value of one text leaves the value of another. -/
theorem get?_put_of_ne {k k' : Text} (h : k' ≠ k) (v : α) (entries : List (Text × α)) :
    get? k' (put k v entries) = get? k' entries := by
  induction entries with
  | nil => simp [put, get?, Key.same, Ne.symm h]
  | cons e rest ih =>
    obtain ⟨k'', v'⟩ := e
    by_cases hk : k'' = k
    · simp [put, get?, Key.same, hk, Ne.symm h]
    · simp [put, get?, Key.same, hk, ih]

@[simp] theorem union_nil_right (left : List (κ × α)) : union left [] = left := rfl

/-- A union adds the entries on the right one by one, in order. -/
theorem union_cons (left : List (κ × α)) (e : κ × α) (right : List (κ × α)) :
    union left (e :: right) = union (putNew e.1 e.2 left) right := rfl

/-- Whether a key is there does not change when keys are renamed without confusing any. -/
theorem has_map {f : κ → κ'} {g : α → α'} (same : ∀ a b, Key.same (f a) (f b) = Key.same a b)
    (k : κ) (entries : List (κ × α)) :
    has (f k) (entries.map fun e => (f e.1, g e.2)) = has k entries := by
  unfold has
  induction entries with
  | nil => rfl
  | cons e rest ih =>
    simp only [List.map_cons, get?, same]
    split
    · rfl
    · exact ih

/-- Adding a new entry commutes with renaming keys that stay as different as they were. -/
theorem map_putNew {f : κ → κ'} {g : α → α'} (same : ∀ a b, Key.same (f a) (f b) = Key.same a b)
    (k : κ) (v : α) (entries : List (κ × α)) :
    (putNew k v entries).map (fun e => (f e.1, g e.2)) =
      putNew (f k) (g v) (entries.map fun e => (f e.1, g e.2)) := by
  unfold putNew
  rw [has_map same]
  split <;> simp

/-- Renaming keys without confusing any, and changing values, can be done before or after two
associations are united. -/
theorem map_union {f : κ → κ'} {g : α → α'} (same : ∀ a b, Key.same (f a) (f b) = Key.same a b)
    (left right : List (κ × α)) :
    (union left right).map (fun e => (f e.1, g e.2)) =
      union (left.map fun e => (f e.1, g e.2)) (right.map fun e => (f e.1, g e.2)) := by
  induction right generalizing left with
  | nil => rfl
  | cons e right ih =>
    rw [List.map_cons, union_cons, union_cons, ih, map_putNew same]

/-- What holds of all values holds of them after one is replaced by a value that it holds of. -/
theorem forall_values_put {P : α → Prop} {k : κ} {v : α} {entries : List (κ × α)} (hv : P v)
    (h : ∀ e ∈ entries, P e.2) : ∀ e ∈ put k v entries, P e.2 := by
  induction entries with
  | nil => exact List.forall_mem_singleton.2 hv
  | cons e entries ih =>
    obtain ⟨he, h⟩ := List.forall_mem_cons.1 h
    rw [put]
    split
    · exact List.forall_mem_cons.2 ⟨hv, h⟩
    · exact List.forall_mem_cons.2 ⟨he, ih h⟩

/-- What holds of the values of all pairs holds of those of the association that they make. -/
theorem forall_values_ofPairs {P : α → Prop} {pairs : List (κ × α)} (h : ∀ e ∈ pairs, P e.2) :
    ∀ e ∈ ofPairs pairs, P e.2 := by
  unfold ofPairs
  suffices ∀ start : List (κ × α), (∀ e ∈ start, P e.2) →
      ∀ e ∈ pairs.foldl (fun entries e => put e.1 e.2 entries) start, P e.2 from this [] nofun
  induction pairs with
  | nil => exact fun _ h => h
  | cons e pairs ih =>
    obtain ⟨he, h⟩ := List.forall_mem_cons.1 h
    exact fun start hstart => ih h _ (forall_values_put he hstart)

/-- What holds of all entries of two associations holds of all entries of their union. -/
theorem forall_union {P : κ × α → Prop} {left right : List (κ × α)}
    (hl : ∀ e ∈ left, P e) (hr : ∀ e ∈ right, P e) : ∀ e ∈ union left right, P e := by
  induction right generalizing left with
  | nil => exact hl
  | cons e right ih =>
    rw [union_cons]
    refine ih ?_ fun e' he' => hr e' (List.mem_cons_of_mem _ he')
    unfold putNew
    split
    · exact hl
    · intro e' he'
      rcases List.mem_append.1 he' with he' | he'
      · exact hl e' he'
      · rw [List.mem_singleton.1 he']
        exact hr e List.mem_cons_self

/-! ## Distinct keys -/

/-- No key stands in front of another one that it is the same as. -/
def Distinct (entries : List (κ × α)) : Prop :=
  entries.Pairwise fun e e' => Key.same e.1 e'.1 = false

/-- A key is not there when no entry has it. -/
theorem has_eq_false {k : κ} {entries : List (κ × α)}
    (h : ∀ e ∈ entries, Key.same e.1 k = false) : has k entries = false := by
  induction entries with
  | nil => rfl
  | cons e rest ih =>
    have he := h e List.mem_cons_self
    have := ih fun e' he' => h e' (List.mem_cons_of_mem _ he')
    simpa [has, get?, he] using this

theorem same_eq_false_of_has {k : κ} {entries : List (κ × α)} (h : has k entries = false) :
    ∀ e ∈ entries, Key.same e.1 k = false := by
  induction entries with
  | nil => simp
  | cons e rest ih =>
    intro e' he'
    by_cases hs : Key.same e.1 k = true
    · simp [has, get?, hs] at h
    · rcases List.mem_cons.1 he' with rfl | he'
      · simpa using hs
      · exact ih (by simpa [has, get?, hs] using h) e' he'

/-- Keys stay distinct when an entry is added only if its key is new. -/
theorem distinct_putNew {entries : List (κ × α)} (distinct : Distinct entries) (k : κ) (v : α) :
    Distinct (putNew k v entries) := by
  unfold putNew
  split
  · exact distinct
  · rename_i h
    have fresh := same_eq_false_of_has (Bool.eq_false_iff.2 h)
    refine List.pairwise_append.2 ⟨distinct, List.pairwise_singleton .., ?_⟩
    intro e he e' he'
    rw [List.mem_singleton.1 he']
    exact fresh e he

/-- A union has distinct keys when its left side has, whatever stands on the right. -/
theorem distinct_union {left : List (κ × α)} (distinct : Distinct left) (right : List (κ × α)) :
    Distinct (union left right) := by
  induction right generalizing left with
  | nil => exact distinct
  | cons e right ih =>
    rw [union_cons]
    exact ih (distinct_putNew distinct e.1 e.2)

/-- Entries with distinct keys follow those of an association that has none of their keys. -/
theorem union_eq_append {left right : List (κ × α)} (distinct : Distinct (left ++ right)) :
    union left right = left ++ right := by
  induction right generalizing left with
  | nil => simp
  | cons e right ih =>
    have fresh : has e.1 left = false := by
      refine has_eq_false fun e' he' => ?_
      exact (List.pairwise_append.1 distinct).2.2 e' he' e List.mem_cons_self
    rw [union_cons, putNew, if_neg (by simp [fresh]), ih (by simpa using distinct)]
    simp

/-- Nothing united with distinct entries is these entries. -/
theorem union_nil_left {right : List (κ × α)} (distinct : Distinct right) :
    union [] right = right :=
  union_eq_append distinct

/-- Renaming keeps keys distinct that it does not make the same. -/
theorem distinct_map {f : κ → κ'} {g : α → α'} (same : ∀ a b, Key.same (f a) (f b) = Key.same a b)
    {entries : List (κ × α)} (distinct : Distinct entries) :
    Distinct (entries.map fun e => (f e.1, g e.2)) := by
  refine List.pairwise_map.2 (distinct.imp fun {e e'} h => ?_)
  rw [same]
  exact h

/-! ## What a union adds -/

theorem has_append (k : κ) (entries more : List (κ × α)) :
    has k (entries ++ more) = (has k entries || has k more) := by
  unfold has
  induction entries with
  | nil => rfl
  | cons e rest ih =>
    obtain ⟨k', v⟩ := e
    simp only [List.cons_append, get?]
    split
    · rfl
    · exact ih

/-- A union has the left association in front, and behind it the entries of the right one under
keys that the left one does not have. -/
theorem union_eq_append_filter (left : List (κ × α)) {right : List (κ × α)}
    (distinct : Distinct right) :
    union left right = left ++ right.filter fun e => !has e.1 left := by
  induction right generalizing left with
  | nil => simp
  | cons e right ih =>
    obtain ⟨apart, distinct⟩ := List.pairwise_cons.1 distinct
    rw [union_cons, ih _ distinct, List.filter_cons]
    cases he : has e.1 left with
    | true => simp [putNew, he]
    | false =>
      have others : ∀ e' ∈ right, has e'.1 (left ++ [e]) = has e'.1 left := by
        intro e' he'
        have hs : has e'.1 [e] = false := by
          apply has_eq_false
          intro e'' he''
          rw [List.mem_singleton.1 he'']
          exact apart e' he'
        rw [has_append, hs, Bool.or_false]
      have kept : (right.filter fun e' => !has e'.1 (left ++ [e])) =
          right.filter fun e' => !has e'.1 left := by
        apply List.filter_congr
        intro e' he'
        rw [others e' he']
      simp [putNew, he, kept]

/-! ## Uniting several associations

A key is found in a union when it is found in one of the two, where no key that is only the same as
it, and not it, comes in between. -/

/-- A union with entries in two pieces is a union with the one and then with the other. -/
theorem union_append (left mid right : List (κ × α)) :
    union left (mid ++ right) = union (union left mid) right :=
  List.foldl_append

theorem has_cons (k : κ) (e : κ × α) (entries : List (κ × α)) :
    has k (e :: entries) = (Key.same e.1 k || has k entries) := by
  by_cases h : Key.same e.1 k = true <;> simp [has, get?, h]

/-- After an entry is added, the keys are those from before and its own. -/
theorem has_putNew {k k' : κ} (exact : Key.same k' k = true → k' = k) (v : α)
    (entries : List (κ × α)) :
    has k (putNew k' v entries) = (has k entries || Key.same k' k) := by
  unfold putNew
  split
  · rename_i there
    by_cases h : Key.same k' k = true
    · rw [← exact h, there, Bool.true_or]
    · rw [Bool.not_eq_true] at h
      rw [h, Bool.or_false]
  · rw [has_append, has_cons]
    simp [has, get?]

/-- A union has the keys of both sides, when keys that are the same are equal. -/
theorem has_union {k : κ} {right : List (κ × α)}
    (exact : ∀ e ∈ right, Key.same e.1 k = true → e.1 = k) (left : List (κ × α)) :
    has k (union left right) = (has k left || has k right) := by
  induction right generalizing left with
  | nil => simp [has, get?]
  | cons e right ih =>
    rw [union_cons, ih fun e' he' => exact e' (List.mem_cons_of_mem _ he'),
      has_putNew (exact e List.mem_cons_self), has_cons, Bool.or_assoc]

/-- Nothing is added where every key is there. -/
theorem union_of_has {left right : List (κ × α)} (there : ∀ e ∈ right, has e.1 left = true) :
    union left right = left := by
  induction right with
  | nil => rfl
  | cons e right ih =>
    rw [union_cons, putNew, if_pos (there e List.mem_cons_self),
      ih fun e' he' => there e' (List.mem_cons_of_mem _ he')]

/-- A key that is the same as itself is there wherever an entry has it. -/
theorem has_of_mem {e : κ × α} {entries : List (κ × α)} (own : Key.same e.1 e.1 = true)
    (mem : e ∈ entries) : has e.1 entries = true := by
  cases there : has e.1 entries with
  | true => rfl
  | false => rw [← own, same_eq_false_of_has there e mem]

/-- What an association was united with adds nothing to it. -/
theorem union_union_self (left : List (κ × α)) {right : List (κ × α)}
    (own : ∀ e ∈ right, Key.same e.1 e.1 = true)
    (exact : ∀ e ∈ right, ∀ e' ∈ right, Key.same e'.1 e.1 = true → e'.1 = e.1) :
    union (union left right) right = union left right := by
  apply union_of_has
  intro e mem
  rw [has_union (exact e mem), has_of_mem (own e mem) mem, Bool.or_true]

/-- Three associations are united from either side. -/
theorem union_union (left : List (κ × α)) {mid right : List (κ × α)}
    (exact : ∀ e ∈ right, ∀ e' ∈ mid ++ right, Key.same e'.1 e.1 = true → e'.1 = e.1) :
    union left (union mid right) = union (union left mid) right := by
  induction right generalizing mid with
  | nil => rfl
  | cons e right ih =>
    have exactMid : ∀ e' ∈ mid, Key.same e'.1 e.1 = true → e'.1 = e.1 := fun e' he' =>
      exact e List.mem_cons_self e' (List.mem_append_left _ he')
    have step : union left (putNew e.1 e.2 mid) = putNew e.1 e.2 (union left mid) := by
      rw [putNew, putNew, has_union exactMid]
      cases h : has e.1 mid with
      | true => simp
      | false =>
        simp only [Bool.or_false, Bool.false_eq_true, if_false]
        rw [union_append, union_cons, union_nil_right, putNew, has_union exactMid, h,
          Bool.or_false]
    have members : ∀ e' ∈ putNew e.1 e.2 mid ++ right, e' ∈ mid ++ e :: right := by
      intro e' he'
      unfold putNew at he'
      split at he'
      · rcases List.mem_append.1 he' with h | h
        · exact List.mem_append_left _ h
        · exact List.mem_append_right _ (List.mem_cons_of_mem _ h)
      · rwa [List.append_assoc, List.singleton_append] at he'
    rw [union_cons, union_cons, ← step]
    exact ih fun f hf f' hf' => exact f (List.mem_cons_of_mem _ hf) f' (members f' hf')

/-- Where keys are the same only if they are equal and no key is there twice, an entry is there when
its value is found under its key. -/
theorem mem_iff_get?_of_same {k : κ} {entries : List (κ × α)}
    (same : ∀ e ∈ entries, Key.same e.1 k = true ↔ e.1 = k)
    (distinct : (entries.map Prod.fst).Nodup) {v : α} :
    (k, v) ∈ entries ↔ get? k entries = some v := by
  induction entries with
  | nil => simp [get?]
  | cons e rest ih =>
    obtain ⟨k', v'⟩ := e
    obtain ⟨fresh, distinct⟩ := List.nodup_cons.1 distinct
    have here : Key.same k' k = true ↔ k' = k := same (k', v') List.mem_cons_self
    rw [List.mem_cons, get?]
    by_cases h : k' = k
    · subst h
      have absent : (k', v) ∉ rest := fun hm => fresh (List.mem_map.2 ⟨_, hm, rfl⟩)
      simp [here, absent, eq_comm]
    · have hk : ¬((k, v) = (k', v')) := fun he => h (congrArg Prod.fst he).symm
      simpa [here, h, hk] using ih (fun e he => same e (List.mem_cons_of_mem _ he)) distinct

/-! ## Keys that are texts -/

section Texts

variable {k k' : Text} {entries : List (Text × α)}

/-- Entries with texts as keys are distinct when no text occurs twice. -/
theorem distinct_iff_nodup : Distinct entries ↔ (entries.map Prod.fst).Nodup := by
  unfold Distinct List.Nodup
  rw [List.pairwise_map]
  simp [Key.same]

theorem mem_of_get? {v : α} (h : get? k entries = some v) : (k, v) ∈ entries := by
  induction entries with
  | nil => cases h
  | cons e rest ih =>
    rw [get?] at h
    split at h
    · rename_i same
      obtain rfl := Option.some.inj h
      exact List.mem_cons.2 (.inl (by rw [← beq_iff_eq.1 same]))
    · exact List.mem_cons_of_mem _ (ih h)

/-- Under distinct keys, an entry is there when its value is found under its key. -/
theorem mem_iff_get? (distinct : (entries.map Prod.fst).Nodup) {v : α} :
    (k, v) ∈ entries ↔ get? k entries = some v :=
  mem_iff_get?_of_same (fun _ _ => by simp [Key.same]) distinct

/-- The keys after a value is put under one: it stays at its place, or stands at the end. -/
theorem keys_put (v : α) :
    (put k v entries).map Prod.fst =
      if k ∈ entries.map Prod.fst then entries.map Prod.fst else entries.map Prod.fst ++ [k] := by
  induction entries with
  | nil => rfl
  | cons e rest ih =>
    obtain ⟨k', v'⟩ := e
    by_cases h : k' = k
    · simp [put, Key.same, h]
    · rw [put]
      simp only [Key.same, beq_iff_eq, h, if_false, List.map_cons, ih, List.mem_cons, Ne.symm h,
        false_or]
      split <;> rfl

theorem nodup_put (distinct : (entries.map Prod.fst).Nodup) (v : α) :
    ((put k v entries).map Prod.fst).Nodup := by
  rw [keys_put]
  split
  · exact distinct
  · rename_i fresh
    rw [List.nodup_append]
    refine ⟨distinct, List.pairwise_singleton .., ?_⟩
    intro key hkey key' hkey' same
    rw [List.mem_singleton.1 hkey'] at same
    exact fresh (same ▸ hkey)

/-- What is made of pairs one by one has no key twice. -/
theorem nodup_ofPairs (pairs : List (Text × α)) : ((ofPairs pairs).map Prod.fst).Nodup := by
  unfold ofPairs
  suffices h : ∀ entries : List (Text × α), (entries.map Prod.fst).Nodup →
      ((pairs.foldl (fun entries e => put e.1 e.2 entries) entries).map Prod.fst).Nodup by
    exact h [] List.nodup_nil
  induction pairs with
  | nil => exact fun entries h => h
  | cons e pairs ih => exact fun entries h => ih _ (nodup_put h e.2)

/-- What stands under a key after a value was put under another, or the same. -/
theorem get?_put (v : α) :
    get? k' (put k v entries) = if k' = k then some v else get? k' entries := by
  by_cases h : k' = k
  · rw [if_pos h, h]
    exact get?_put_self (by simp [Key.same]) v entries
  · rw [if_neg h]
    exact get?_put_of_ne h v entries

/-- In a table built by putting pairs in, the last pair of a key counts. -/
theorem get?_ofPairs (pairs : List (Text × α)) :
    get? k (ofPairs pairs) = (pairs.reverse.find? fun e => e.1 == k).map Prod.snd := by
  unfold ofPairs
  suffices h : ∀ entries : List (Text × α),
      get? k (pairs.foldl (fun entries e => put e.1 e.2 entries) entries) =
        ((pairs.reverse.find? fun e => e.1 == k).map Prod.snd).or (get? k entries) by
    simpa [get?] using h []
  induction pairs with
  | nil => exact fun entries => rfl
  | cons e pairs ih =>
    intro entries
    rw [List.foldl_cons, ih, get?_put, List.reverse_cons, List.find?_append]
    cases pairs.reverse.find? fun e => e.1 == k with
    | some found => rfl
    | none =>
      by_cases h : e.1 = k
      · simp [h]
      · simp [h, Ne.symm h]

/-! ## The order of entries -/

/-- A value under a new key is put at the end. -/
theorem put_of_fresh (fresh : k ∉ entries.map Prod.fst) (v : α) :
    put k v entries = entries ++ [(k, v)] := by
  induction entries with
  | nil => rfl
  | cons e rest ih =>
    obtain ⟨k', v'⟩ := e
    rw [List.map_cons, List.mem_cons, not_or] at fresh
    have apart : ¬Key.same k' k = true := by simpa [Key.same] using Ne.symm fresh.1
    rw [put, if_neg apart, ih fresh.2]
    rfl

/-- Pairs with different keys are a table as they stand. -/
theorem ofPairs_of_nodup {pairs : List (Text × α)} (distinct : (pairs.map Prod.fst).Nodup) :
    ofPairs pairs = pairs := by
  unfold ofPairs
  suffices h : ∀ entries : List (Text × α), ((entries ++ pairs).map Prod.fst).Nodup →
      pairs.foldl (fun entries e => put e.1 e.2 entries) entries = entries ++ pairs by
    exact h [] distinct
  clear distinct
  induction pairs with
  | nil => exact fun entries _ => (List.append_nil entries).symm
  | cons e pairs ih =>
    intro entries distinct
    have fresh : e.1 ∉ entries.map Prod.fst := by
      rw [List.map_append, List.map_cons, List.nodup_append] at distinct
      exact fun same => distinct.2.2 _ same _ List.mem_cons_self rfl
    rw [List.append_cons] at distinct
    rw [List.foldl_cons, put_of_fresh fresh, ih _ distinct, List.append_assoc]
    rfl

/-- What is found in entries and more entries is found in the first of them that have the key. -/
theorem get?_append (more : List (Text × α)) :
    get? k (entries ++ more) = (get? k entries).or (get? k more) := by
  induction entries with
  | nil => rfl
  | cons e rest ih =>
    obtain ⟨k', v⟩ := e
    simp only [List.cons_append, get?]
    split
    · rfl
    · exact ih

/-- Of two values for a key, the left one counts in a union. -/
theorem get?_union (left right : List (Text × α)) :
    get? k (union left right) = (get? k left).or (get? k right) := by
  induction right generalizing left with
  | nil => simp [get?]
  | cons e right ih =>
    obtain ⟨k', v⟩ := e
    rw [union_cons, ih, putNew]
    cases there : has k' left with
    | true =>
      rw [if_pos rfl]
      by_cases same : k' = k
      · subst same
        obtain ⟨w, found⟩ := Option.isSome_iff_exists.1 there
        rw [found, Option.some_or, Option.some_or]
      · simp [get?, Key.same, same]
    | false =>
      rw [if_neg Bool.false_ne_true, get?_append, Option.or_assoc]
      by_cases same : k' = k <;> simp [get?, Key.same, same]

/-- What is found in several tables in a row is found in the first of them that has the key. -/
theorem get?_flatten (tables : List (List (Text × α))) :
    get? k tables.flatten = tables.findSome? (get? k) := by
  induction tables with
  | nil => rfl
  | cons t tables ih =>
    rw [List.flatten_cons, get?_append, ih, List.findSome?_cons]
    cases get? k t <;> rfl

/-- The order of entries with different keys does not matter to what is found. -/
theorem get?_perm {entries' : List (Text × α)} (perm : entries.Perm entries')
    (distinct : (entries.map Prod.fst).Nodup) : get? k entries = get? k entries' := by
  have distinct' : (entries'.map Prod.fst).Nodup := (perm.map _).nodup_iff.1 distinct
  apply Option.ext
  intro v
  rw [← mem_iff_get? distinct, ← mem_iff_get? distinct', perm.mem_iff]

/-- Looking a text up by equality finds what stands under it. -/
theorem lookup_eq_get? (k : Text) (entries : List (Text × α)) :
    entries.lookup k = get? k entries := by
  induction entries with
  | nil => rfl
  | cons e rest ih =>
    obtain ⟨k', v⟩ := e
    rw [List.lookup_cons, get?, ih]
    by_cases same : k' = k
    · simp [Key.same, same]
    · have apart : (k == k') = false := beq_false_of_ne (Ne.symm same)
      simp [Key.same, same, apart]

end Texts

end Bindery.Assoc

namespace Bindery

/-- Two keys that are texts are one key when they are one text. -/
theorem Value.same_text (s t : Text) : Key.same (Value.text s) (Value.text t) = Key.same s t := by
  by_cases h : s = t <;> simp [Key.same, Value.same, Value.scalar?, Value.mark, Scalar.same,
    Scalar.int?, h]

theorem Text.same_self (s : Text) : Key.same s s = true := by
  simp [Key.same]

namespace Table

theorem get?_put_self (t : Table) (key : Text) (v : Value) : (t.put key v).get? key = some v :=
  Assoc.get?_put_self ((Value.same_text key key).trans (Text.same_self key)) v t

end Table

end Bindery
