import Bindery.Merge.Basic
import Bindery.Proofs.Assoc
import Bindery.Proofs.Config.Reading

/-!
# What merging puts under each setting

The merged settings are put together from a list of keys with the values found for them, and no
key occurs twice in it, so every key holds its own value (`given?_present`). Two lists of texts
are put one after another and two tables are united (`mergeList_texts`, `mergeTable_tables`),
and the packages of other components never name a crate twice (`harvest_ok`). A merged
document keeps its settings where they are looked for (`select_placed`).
-/

namespace Bindery

open Outcome

/-- The texts that a list setting holds, none when it is absent. -/
def textsOf (v : Option Value) : List Text := (v.bind Value.texts?).getD []

/-- The entries that a table setting holds, none when it is absent. -/
def entriesOf (v : Option Value) : Table := (v.bind Value.table?).getD []

namespace Merge

/-- A table of pairs of texts is one of packages. -/
theorem mapM_textEntry?_eq_some {t : Table} {packages : Packages} :
    t.mapM Reader.textEntry? = some packages ↔ t = packageTable packages :=
  mapM_some_iff_of_encode Reader.textEntry?_eq_some

/-- The table of united packages unites their tables. -/
theorem packageTable_union (left right : Packages) :
    packageTable (Assoc.union left right) =
      Assoc.union (packageTable left) (packageTable right) :=
  Assoc.map_union Value.same_text left right

/-! ## The merged table -/

/-- What is present under a key does not depend on the entries with other keys. -/
theorem get?_present_cons_ne {k key : Text} (h : k ≠ key) (w : Option Value)
    (entries : List (Text × Option Value)) :
    (present ((k, w) :: entries)).get? key = (present entries).get? key := by
  cases w with
  | none => rfl
  | some w =>
    have hs : Key.same (Value.text k) (Value.text key) = false := by
      rw [Value.same_text]
      simpa [Key.same] using h
    simp [present, Table.get?, Assoc.get?, hs]

/-- What is no key of the entries is not present. -/
theorem get?_present_of_notMem {entries : List (Text × Option Value)} {key : Text}
    (h : key ∉ entries.map Prod.fst) : (present entries).get? key = none := by
  induction entries with
  | nil => rfl
  | cons e entries ih =>
    obtain ⟨k, w⟩ := e
    rw [List.map_cons, List.mem_cons, not_or] at h
    rw [get?_present_cons_ne (Ne.symm h.1), ih h.2]

/-- A key whose value is put in once holds that value. -/
theorem get?_present {entries : List (Text × Option Value)}
    (distinct : (entries.map Prod.fst).Nodup) {key : Text} {v : Option Value}
    (mem : (key, v) ∈ entries) : (present entries).get? key = v := by
  induction entries with
  | nil => cases mem
  | cons e entries ih =>
    obtain ⟨k, w⟩ := e
    obtain ⟨fresh, distinct⟩ := List.nodup_cons.1 distinct
    rcases List.mem_cons.1 mem with he | mem
    · obtain ⟨rfl, rfl⟩ := Prod.mk.inj he
      cases v with
      | none =>
        show (present entries).get? key = none
        exact get?_present_of_notMem fresh
      | some v => simp [present, Table.get?, Assoc.get?, Value.same_text, Text.same_self]
    · have hk : k ≠ key := by
        rintro rfl
        exact fresh (List.mem_map.2 ⟨_, mem, rfl⟩)
      rw [get?_present_cons_ne hk, ih distinct mem]

/-- What is present under a key is its value, if it is not null. -/
theorem given?_present {entries : List (Text × Option Value)}
    (distinct : (entries.map Prod.fst).Nodup) {key : Text} {v : Option Value}
    (mem : (key, v) ∈ entries) :
    (present entries).given? key = v.filter fun v => !v.isNull := by
  rw [Table.given?, get?_present distinct mem]

/-- Two lists of texts, either of which may be absent, are put one after another. -/
theorem mergeList_texts {a b : Option Value} (ha : ∀ v, a = some v → v.texts?.isSome)
    (hb : ∀ v, b = some v → v.texts?.isSome) :
    ∃ items, mergeList a b = .ok items ∧
      (∀ v, items.map (Value.list none) = some v → v.texts?.isSome) ∧
      textsOf (items.map (Value.list none)) = textsOf a ++ textsOf b := by
  have cases_of {o : Option Value} (h : ∀ v, o = some v → v.texts?.isSome) :
      o = none ∨ ∃ (mark : Mark) (xs : List Text), o = some (.list mark (xs.map Value.text)) := by
    cases o with
    | none => exact .inl rfl
    | some v =>
      obtain ⟨xs, hxs⟩ := Option.isSome_iff_exists.1 (h v rfl)
      obtain ⟨mark, rfl⟩ := Value.texts?_eq_some.1 hxs
      exact .inr ⟨mark, xs, rfl⟩
  have texts_list (mark : Mark) (xs : List Text) :
      (Value.list mark (xs.map Value.text)).texts? = some xs :=
    Value.texts?_eq_some.2 ⟨mark, rfl⟩
  have listed (xs : List Text) :
      (∀ v, some (Value.list none (xs.map Value.text)) = some v → v.texts?.isSome) ∧
        textsOf (some (.list none (xs.map Value.text))) = xs := by
    simp [textsOf, texts_list]
  rcases cases_of ha with rfl | ⟨m, xs, rfl⟩ <;> rcases cases_of hb with rfl | ⟨n, ys, rfl⟩
  · exact ⟨none, rfl, by simp, rfl⟩
  · exact ⟨some (ys.map Value.text), rfl, (listed ys).1, by simp [textsOf, texts_list]⟩
  · exact ⟨some (xs.map Value.text), rfl, (listed xs).1, by simp [textsOf, texts_list]⟩
  · refine ⟨some (xs.map Value.text ++ ys.map Value.text), rfl, ?_⟩
    rw [← List.map_append]
    exact ⟨(listed _).1, (listed _).2.trans (by simp [textsOf, texts_list])⟩

/-- Two tables, either of which may be absent, are united. -/
theorem mergeTable_tables {a b : Option Value} (ha : ∀ v, a = some v → v.table?.isSome)
    (hb : ∀ v, b = some v → v.table?.isSome) (distinct : Assoc.Distinct (entriesOf b)) :
    ∃ entries, mergeTable a b = .ok entries ∧
      entriesOf (entries.map (Value.table none)) = Assoc.union (entriesOf a) (entriesOf b) := by
  cases a with
  | none =>
    cases b with
    | none => exact ⟨none, rfl, rfl⟩
    | some w =>
      obtain ⟨u, hu⟩ := Option.isSome_iff_exists.1 (hb w rfl)
      obtain ⟨mark, rfl⟩ := Value.table?_eq_some.1 hu
      exact ⟨some u, rfl, (Assoc.union_nil_left distinct).symm⟩
  | some v =>
    obtain ⟨t, ht⟩ := Option.isSome_iff_exists.1 (ha v rfl)
    obtain ⟨mark, rfl⟩ := Value.table?_eq_some.1 ht
    cases b with
    | none => exact ⟨some t, rfl, rfl⟩
    | some w =>
      obtain ⟨u, hu⟩ := Option.isSome_iff_exists.1 (hb w rfl)
      obtain ⟨mark', rfl⟩ := Value.table?_eq_some.1 hu
      exact ⟨some (Assoc.union t u), rfl, rfl⟩

/-! ## The packages of other components -/

/-- What is combined is what could be combined. -/
theorem combined_ok_iff {α : Type} {x : Except Fault α} {a : α} :
    (combined x : Except Failure α) = .ok a ↔ x = .ok a := by
  cases x <;> simp [combined, pure_ok_iff, throw_ne_ok]

section Harvest

variable {α : Type} {load : α → Except Failure Document} {skip : α → Except Failure Unit}

/-- One step of harvesting: the packages found so far, and those told by one more document. -/
theorem harvest_step {found : Packages} {file : α} {d : Document} {told : Option Packages}
    (hload : load file = .ok d) (htold : contribution d = .ok told) (hskip : skip file = .ok ()) :
    (do match ← combined (contribution (← load file)) with
      | some told => return Assoc.union found told
      | none =>
        skip file
        return found : Except Failure Packages) = .ok (Assoc.union found (told.getD [])) := by
  rw [hload]
  show (do match ← (combined (contribution d) : Except Failure (Option Packages)) with
      | some told => return Assoc.union found told
      | none =>
        skip file
        return found : Except Failure Packages) = _
  rw [combined_ok_iff.2 htold]
  cases told with
  | none =>
    show (do skip file; return found : Except Failure Packages) = _
    rw [hskip]
    rfl
  | some told => rfl

/-- Harvesting ends well when every document is there and can tell its packages, and then no
crate has two packages. -/
theorem harvest_ok {files : List α} (hskip : ∀ file, skip file = .ok ())
    (tell : ∀ file ∈ files, ∃ d told, load file = .ok d ∧ contribution d = .ok told) :
    ∃ found, harvest load skip files = .ok found ∧ Assoc.Distinct found := by
  unfold harvest
  suffices ∀ start, Assoc.Distinct start → ∃ found, List.foldlM (m := Except Failure) _ start
      files = .ok found ∧ Assoc.Distinct found from this [] .nil
  induction files with
  | nil => exact fun start distinct => ⟨start, rfl, distinct⟩
  | cons file files ih =>
    intro start distinct
    obtain ⟨d, told, hload, htold⟩ := tell file List.mem_cons_self
    obtain ⟨found, hfound, hd⟩ := ih (fun f hf => tell f (List.mem_cons_of_mem _ hf))
      (Assoc.union start (told.getD [])) (Assoc.distinct_union distinct _)
    exact ⟨found, bind_ok_iff.2 ⟨_, harvest_step hload htold (hskip file), hfound⟩, hd⟩

end Harvest

/-! ## The merged document -/

/-- The merged settings are where a document keeps its nested ones. -/
theorem select_placed (base : Table) (s : Supplied) (settings : Table) (source : Option Text) :
    select (placed base s settings) source = .ok ⟨.nested, settings⟩ := by
  simp only [select, placed, Table.get?_put_self, Option.bind_some, Value.table?]

/-- Whether settings are found in a document does not depend on how its source is called. -/
theorem select_source {document : Table} {source : Option Text} {selection : Selection}
    (h : select document source = .ok selection) (source' : Option Text) :
    select document source' = .ok selection := by
  unfold select at h ⊢
  cases hb : (document.get? "bindings").bind Value.table? with
  | none => simpa only [hb] using h
  | some bindings =>
    cases hk : bindings.get? "kotlin" with
    | none => simpa only [hb, hk] using h
    | some v =>
      cases v with
      | table mark nested => simpa only [hb, hk] using h
      | _ => simp [hb, hk] at h

end Merge

end Bindery
