import Bindery.Proofs.Merge.Composing

/-!
# What merging touches

Of a document, merging owns the name of the crate, the package root and the nested settings. All
other entries come out as they went in, at the root and beside the nested settings. The nested
settings are new: no key in them is unknown or null, and a key is there exactly when the base gives
a value for it or the build tool supplies one (`mergeFiles_frame`).
-/

namespace Bindery

open Outcome

/-- A value in which nothing but blanks stands, or which counts as nothing. -/
def Value.isBlank : Value → Bool
  | .text t => Text.isAllBlank t
  | .scalar (.bytes bs) => bs.all fun b => b = 32 || (9 ≤ b && b ≤ 13)
  | v => v.isVacuous

/-- Under which of the fifteen keys a build tool supplies something: a version unless it is blank,
and packages of other components where it names files with any. -/
def Supplied.supplies {α : Type} (s : Supplied) (files : List α) : List (Text × Bool) :=
  (s.singles ++ s.lists).map (fun e => (e.1, e.2.isSome)) ++ ([
    ("custom_types", s.customTypes.isSome), ("external_packages", !files.isEmpty),
    ("kotlin_target_version", s.targetVersion.any fun v => !v.isBlank)] : List (Text × Bool))

namespace Merge

open Table

/-! ## The root -/

/-- Replacing a key that merging owns leaves what is not merged. -/
theorem unmerged_replace {key : Text}
    (owned : key = "crate_name" ∨ key = "package_root" ∨ key = "bindings") (t : Table)
    (v : Option Value) : unmerged (t.replace key v) = unmerged t := by
  unfold unmerged
  rcases owned with rfl | rfl | rfl
  · rw [erase_replace_self]
  · rw [erase_erase (t.replace _ v) "crate_name", erase_replace_self, erase_erase t "package_root"]
  · rw [erase_erase _ "package_root" "bindings", erase_erase (t.replace _ v) "crate_name",
      erase_replace_self, erase_erase t "bindings", erase_erase _ "bindings" "package_root"]

/-- And so does placing settings. -/
theorem unmerged_placed (base : Table) (s : Supplied) (settled : Table) :
    unmerged (placed base s settled) = unmerged base := by
  rw [placed_eq]
  exact (unmerged_replace (.inr (.inr rfl)) _ (some (bindingsWith base settled))).trans
    ((unmerged_replace (.inr (.inl rfl)) _ s.packageRoot).trans
      (unmerged_replace (.inl rfl) base s.crateName))

/-! ## The settings -/

/-- A merged list is there when one of the two was. -/
theorem isSome_mergeList {a b : Option Value} {items : Option (List Value)}
    (h : mergeList a b = .ok items) : items.isSome = (a.isSome || b.isSome) := by
  rw [mergeList_eq] at h
  obtain ⟨xs, hxs, h⟩ := bind_ok_iff.1 h
  obtain ⟨ys, hys, h⟩ := bind_ok_iff.1 h
  obtain rfl := pure_ok_iff.1 h
  have held {o : Option Value} {zs : Option (List Value)} (h : o.mapM asList = .ok zs) :
      zs.isSome = o.isSome := by
    cases o with
    | none => cases h; rfl
    | some v =>
      obtain ⟨x, -, h⟩ := map_ok_iff.1 h
      rw [← h]; rfl
  rw [← held hxs, ← held hys]
  cases xs <;> cases ys <;> rfl

/-- A merged table is there when one of the two was. -/
theorem isSome_mergeTable {a b : Option Value} {entries : Option Table}
    (h : mergeTable a b = .ok entries) : entries.isSome = (a.isSome || b.isSome) := by
  cases a with
  | none =>
    cases b with
    | none =>
      obtain rfl := pure_ok_iff.1 h
      rfl
    | some w =>
      obtain ⟨t, -, h⟩ := bind_ok_iff.1 h
      obtain rfl := pure_ok_iff.1 h
      rfl
  | some v =>
    cases b with
    | none =>
      obtain ⟨t, -, h⟩ := bind_ok_iff.1 h
      obtain rfl := pure_ok_iff.1 h
      rfl
    | some w =>
      obtain ⟨t, -, h⟩ := bind_ok_iff.1 h
      cases w with
      | table mark more =>
        obtain rfl := pure_ok_iff.1 h
        rfl
      | _ => cases h

theorem isBlank_of_isVacuous {v : Value} (vacuous : v.isVacuous = true) : v.isBlank = true := by
  unfold Value.isBlank
  split
  · rename_i t
    obtain rfl : t = [] := List.isEmpty_iff.1 vacuous
    rfl
  · rename_i bs
    obtain rfl : bs = [] := List.isEmpty_iff.1 vacuous
    rfl
  · exact vacuous

/-- A value counts as blank when it was found to be. -/
theorem isBlank_of_isBlank? {v : Value} {blank : Bool} (h : Supplied.isBlank? v = .ok blank) :
    v.isBlank = blank := by
  unfold Supplied.isBlank? at h
  split at h
  · exact Except.ok.inj h
  · exact Except.ok.inj h
  · cases h

/-- A version is there when the one that is supplied is not blank. -/
theorem isSome_version? {s : Supplied} {version : Option Value} (h : s.version? = .ok version) :
    version.isSome = s.targetVersion.any fun v => !v.isBlank := by
  unfold Supplied.version? at h
  cases hv : s.targetVersion with
  | none =>
    rw [hv] at h
    obtain rfl := Except.ok.inj h
    rfl
  | some v =>
    rw [hv, Option.filter_some] at h
    rw [Option.any_some]
    cases vacuous : v.isVacuous with
    | true =>
      rw [vacuous] at h
      obtain rfl := Except.ok.inj h
      rw [isBlank_of_isVacuous vacuous]
      rfl
    | false =>
      rw [vacuous] at h
      obtain ⟨blank, hblank, h⟩ := bind_ok_iff.1 h
      obtain rfl := pure_ok_iff.1 h
      rw [isBlank_of_isBlank? hblank]
      cases blank <;> rfl

section Settings

variable {own : Table} {s : Supplied} {packages : Option Packages}
variable {ls : List (Text × Option Value)} {ct ep : Option Table} {version : Option Value}

/-- Under each of the fifteen keys something is combined exactly when the base gives a value or one
is supplied. -/
theorem Settled.supplies (h : Settled own s packages ls ct ep version) {α : Type} {files : List α}
    (asked : packages.isSome = !files.isEmpty) :
    List.Forall₂ (fun e e' => e.1 = e'.1 ∧ e'.2.isSome = ((own.given? e.1).isSome || e.2))
      (s.supplies files) (assembled own s ls ct ep version) := by
  have single : List.Forall₂
      (fun (e : Text × Bool) (e' : Text × Option Value) =>
        e.1 = e'.1 ∧ e'.2.isSome = ((own.given? e.1).isSome || e.2))
      (s.singles.map fun e => (e.1, e.2.isSome)) (singles own s) := by
    refine List.forall₂_map_left_iff.2 (List.forall₂_map_right_iff.2 (List.forall₂_same.2 ?_))
    exact fun e _ => ⟨rfl, Option.isSome_or⟩
  have listed : List.Forall₂
      (fun (e : Text × Bool) (e' : Text × Option Value) =>
        e.1 = e'.1 ∧ e'.2.isSome = ((own.given? e.1).isSome || e.2))
      (s.lists.map fun e => (e.1, e.2.isSome)) ls := by
    refine List.forall₂_map_left_iff.2 ((lists_ok_iff.1 h.lists).imp ?_)
    rintro e _ ⟨items, hitems, rfl⟩
    refine ⟨rfl, ?_⟩
    rw [Option.isSome_map]
    exact isSome_mergeList hitems
  have types := isSome_mergeTable h.customTypes
  have others := isSome_mergeTable h.externalPackages
  rw [Option.isSome_map] at others
  rw [Supplied.supplies, List.map_append, assembled]
  refine List.rel_append (List.rel_append single listed) (.cons ⟨rfl, ?_⟩ (.cons ⟨rfl, ?_⟩
    (.cons ⟨rfl, ?_⟩ .nil)))
  · rw [Option.isSome_map]
    exact types
  · rw [Option.isSome_map, others, asked]
  · rw [Option.isSome_or, isSome_version? h.version]

/-- Nothing that is combined is null. -/
theorem Settled.isNull (h : Settled own s packages ls ct ep version)
    (given : ∀ e ∈ s.singles, ∀ v, e.2 = some v → v.isNull = false) :
    ∀ e ∈ assembled own s ls ct ep version, ∀ v, e.2 = some v → v.isNull = false := by
  have listed : ∀ e ∈ ls, ∀ v, e.2 = some v → v.isNull = false := by
    intro e he v hv
    obtain ⟨e', -, items, -, rfl⟩ := exists_of_mem_lists h.lists he
    obtain ⟨xs, -, rfl⟩ := Option.map_eq_some_iff.1 hv
    rfl
  exact forall_assembled (fun _ _ => isNull_of_given?) given listed (fun _ _ => rfl)
    (fun _ _ => rfl) (isNull_of_version? h.version)

end Settings

/-- The keys of what is present are those of entries, in order. -/
theorem keys_present (entries : List (Text × Option Value)) :
    ((present entries).map Prod.fst).Sublist ((entries.map Prod.fst).map Value.text) := by
  induction entries with
  | nil => exact .slnil
  | cons e entries ih =>
    obtain ⟨key, v⟩ := e
    cases v with
    | none => exact ih.cons _
    | some v => exact ih.cons_cons _

/-- Of a document that is merged, everything but the name of the crate, the package root and the
nested settings stays as it was. The first two are the supplied ones. The merged settings stand in
the table of bindings; they have no value that is null, and only the fifteen keys, each of them when
the base gives a value or one is supplied. -/
theorem mergeFiles_frame {α : Type} {load : α → Except Failure Document} {base : Option Document}
    {s : Supplied} {files : List α} {merged : Document}
    (given : ∀ e ∈ s.singles, ∀ v, e.2 = some v → v.isNull = false)
    (h : mergeFiles load base s files = .ok merged) :
    ∃ selection bindings settled,
      select (base.getD Document.empty) none = .ok selection ∧
      unmerged merged = unmerged (base.getD Document.empty) ∧
      merged.get? "crate_name" = s.crateName ∧ merged.get? "package_root" = s.packageRoot ∧
      merged.get? "bindings" = some (.table none bindings) ∧
      Table.erase bindings "kotlin" =
        Table.erase (entriesOf ((base.getD Document.empty).get? "bindings")) "kotlin" ∧
      Table.get? bindings "kotlin" = some (.table none settled) ∧
      (∀ e ∈ settled, e.2.isNull = false) ∧
      (settled.map Prod.fst).Sublist (settingKeys.map Value.text) ∧
      (s.supplies files).map Prod.fst = settingKeys ∧
      ∀ e ∈ s.supplies files,
        (Table.get? settled e.1).isSome = ((selection.table.given? e.1).isSome || e.2) := by
  obtain ⟨selection, settled, selected, hsettings, rfl⟩ := mergeFiles_ok_iff.1 h
  obtain ⟨packages, ls, ct, ep, version, htold, settles, rfl⟩ := settings_ok_iff.1 hsettings
  have asked : packages.isSome = !files.isEmpty := by
    have same := congrArg Option.isSome htold
    rw [Option.isSome_map] at same
    rw [← same, told]
    cases files <;> rfl
  have distinct : ((assembled selection.table s ls ct ep version).map Prod.fst).Nodup :=
    settles.keys ▸ nodup_settingKeys
  refine ⟨selection, Table.put (entriesOf ((base.getD Document.empty).get? "bindings")) "kotlin" _,
    present (assembled selection.table s ls ct ep version), selected, unmerged_placed _ _ _, ?_, ?_,
    ?_, erase_put_self .., get?_put_self .., ?_, ?_, rfl, ?_⟩
  · rw [placed_eq, get?_put_of_ne (by decide), get?_replace_of_ne (by decide), get?_replace_self]
  · rw [placed_eq, get?_put_of_ne (by decide), get?_replace_self]
  · rw [placed_eq, get?_put_self]
    rfl
  · intro e he
    obtain ⟨e', he', there⟩ := List.mem_filterMap.1 he
    obtain ⟨v, hv, rfl⟩ := Option.map_eq_some_iff.1 there
    exact settles.isNull given e' he' v hv
  · rw [← settles.keys]
    exact keys_present _
  · intro e he
    obtain ⟨e', he', key, there⟩ := exists_mem_of_forall₂ (settles.supplies asked) e he
    rw [key, get?_present distinct he', there, key]

/-- A document with null as a setting and bindings for another language. -/
def crowded : Document := [
  (.text "crate_name", .text "old"),
  (.int 1, .null),
  (.text "bindings", .table none [
    (.text "swift", .table none []),
    (.text "kotlin", .table none [
      (.text "cdylib_name", .null), (.text "package_name", .text "own"),
      (.text "colour", .text "red")])])]

/-- The name of the crate is replaced; targets, a version and packages are supplied. -/
theorem mergeFiles_frame_crowded :
    (∀ e ∈ renamed.singles, ∀ v, e.2 = some v → v.isNull = false) ∧
      ∃ merged bindings settled,
        mergeFiles (fun _ : Unit => .ok (sibling (.text "kept"))) (some crowded) renamed [()] =
          .ok merged ∧
        unmerged merged = [(.int 1, .null)] ∧
        merged.get? "crate_name" = some (.text "new") ∧ merged.get? "package_root" = none ∧
        merged.get? "bindings" = some (.table none bindings) ∧
        Table.erase bindings "kotlin" = [(.text "swift", .table none [])] ∧
        Table.get? bindings "kotlin" = some (.table none settled) ∧
        (Table.get? settled "package_name").isSome = true ∧
        (Table.get? settled "cdylib_name").isSome = false ∧
        (Table.get? settled "kotlin_target_version").isSome = true := by
  have given : ∀ e ∈ renamed.singles, ∀ v, e.2 = some v → v.isNull = false := by
    simp [renamed, Supplied.singles]
  obtain ⟨merged, h⟩ : ∃ merged, mergeFiles (fun _ : Unit => .ok (sibling (.text "kept")))
      (some crowded) renamed [()] = .ok merged := exists_of_isOk (by decide +kernel)
  obtain ⟨selection, bindings, settled, selected, rest, named, rooted, bound, beside, inside, -, -,
    -, there⟩ := mergeFiles_frame given h
  obtain rfl := Except.ok.inj selected
  exact ⟨given, merged, bindings, settled, h, rest, named, rooted, bound, beside, inside,
    there ("package_name", false) (.head _), there ("cdylib_name", false) (.tail _ (.head _)),
    there ("kotlin_target_version", true) (by decide +kernel)⟩

end Merge

end Bindery
