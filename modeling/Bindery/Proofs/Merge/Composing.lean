import Bindery.Proofs.Merge.Adding
import Bindery.Proofs.Value.Keys

/-!
# Merging twice is merging once

Merging a document with supplied settings and the result with others is merging it with the sum of
both (`merge_twice`). The documents that come out have the same entries; only the order of those at
the root may differ, as a name of the crate that was taken away is put back at the end.
-/

namespace Bindery

open Outcome

namespace Merge

/-! ## The settings -/

section Settings

variable {own own' : Table} {s s' : Supplied} {packages packages' : Option Packages}
variable {ls ls' : List (Text × Option Value)} {ct ct' ep ep' : Option Table}
variable {version version' : Option Value}

/-- Lists that were combined with supplied ones, and the results with others. -/
theorem forall₂_lists_add {l l' : List (Text × Option Value)}
    (keys : l.map Prod.fst = l'.map Prod.fst)
    (h : List.Forall₂ (fun e e' => ∃ items, mergeList (own.given? e.1) e.2 = .ok items ∧
      (e.1, items.map (Value.list none)) = e') l ls)
    (held : ∀ e ∈ ls, own'.given? e.1 = e.2)
    (h' : List.Forall₂ (fun e e' => ∃ items, mergeList (own'.given? e.1) e.2 = .ok items ∧
      (e.1, items.map (Value.list none)) = e') l' ls') :
    List.Forall₂ (fun e e' => ∃ items, mergeList (own.given? e.1) e.2 = .ok items ∧
      (e.1, items.map (Value.list none)) = e')
      (l.zipWith (fun e e' => (e.1, Value.joinLists e.2 e'.2)) l') ls' := by
  induction h generalizing l' ls' with
  | nil =>
    obtain rfl : l' = [] := by simpa using keys.symm
    cases h'
    exact .nil
  | cons he _ ih =>
    cases h' with
    | nil => cases keys
    | cons he' rest' =>
      obtain ⟨key, keys⟩ := List.cons.inj keys
      obtain ⟨items, hitems, rfl⟩ := he
      obtain ⟨items', hitems', rfl⟩ := he'
      rw [← key, held _ List.mem_cons_self] at hitems'
      refine .cons ⟨items', mergeList_add hitems hitems', ?_⟩
        (ih keys (fun e he => held e (List.mem_cons_of_mem _ he)) rest')
      rw [← key]

/-- Single settings that were combined with supplied ones, and the results with others. -/
theorem map_singles_add {l l' : List (Text × Option Value)}
    (keys : l.map Prod.fst = l'.map Prod.fst)
    (held : ∀ e ∈ l, own'.given? e.1 = (own.given? e.1).or e.2) :
    l'.map (fun e => (e.1, (own'.given? e.1).or e.2)) =
      (l.zipWith (fun e e' => (e.1, e.2.or e'.2)) l').map
        fun e => (e.1, (own.given? e.1).or e.2) := by
  induction l generalizing l' with
  | nil =>
    obtain rfl : l' = [] := by simpa using keys.symm
    rfl
  | cons e l ih =>
    cases l' with
    | nil => cases keys
    | cons e' l' =>
      obtain ⟨key, keys⟩ := List.cons.inj keys
      rw [List.map_cons, List.zipWith_cons_cons, List.map_cons,
        ih keys fun e he => held e (List.mem_cons_of_mem _ he), ← key,
        held e List.mem_cons_self, Option.or_assoc]

theorem namedTable_packages (packages : Option Packages) :
    NamedTable (packages.map fun found => .table none (packageTable found)) := by
  intro w hw
  obtain ⟨found, -, rfl⟩ := Option.map_eq_some_iff.1 hw
  refine ⟨_, rfl, fun e he => ?_⟩
  obtain ⟨package, -, rfl⟩ := List.mem_map.1 he
  exact ⟨package.1, rfl⟩

/-- Tables of packages are joined by uniting the packages. -/
theorem joinTables_packages (packages packages' : Option Packages) :
    Value.joinTables (packages.map fun found => .table none (packageTable found))
        (packages'.map fun found => .table none (packageTable found)) =
      (Option.merge Assoc.union packages packages').map
        fun found => .table none (packageTable found) := by
  cases packages with
  | none => simp [Value.joinTables]
  | some found =>
    cases packages' with
    | none => simp [Value.joinTables]
    | some found' =>
      show some (Value.table none (Assoc.union (packageTable found) (packageTable found'))) = _
      rw [← packageTable_union]
      rfl

/-- Settings that were combined twice were combined with the sum of what was supplied. -/
theorem Settled.add (h : Settled own s packages ls ct ep version)
    (h' : Settled (present (assembled own s ls ct ep version)) s' packages' ls' ct' ep' version')
    (named : NamedTable s.customTypes) (named' : NamedTable s'.customTypes) :
    Settled own (s + s') (Option.merge Assoc.union packages packages') ls' ct' ep'
      (version.or version') := by
  constructor
  · have keys : s.lists.map Prod.fst = s'.lists.map Prod.fst := rfl
    rw [lists_ok_iff, Supplied.lists_add]
    exact forall₂_lists_add keys (lists_ok_iff.1 h.lists)
      (fun e he => h.given?_of_mem_lists he) (lists_ok_iff.1 h'.lists)
  · exact mergeTable_add named named' h.customTypes (h.given?_customTypes ▸ h'.customTypes)
  · rw [← joinTables_packages]
    exact mergeTable_add (namedTable_packages _) (namedTable_packages _) h.externalPackages
      (h.given?_externalPackages ▸ h'.externalPackages)
  · exact Supplied.version?_add h.version h'.version

/-- What is merged twice is assembled as what is merged once. -/
theorem Settled.assembled_add (h : Settled own s packages ls ct ep version)
    (proper : ∀ e ∈ s.singles, ∀ w, e.2 = some w → w.isNull = false) :
    assembled (present (assembled own s ls ct ep version)) s' ls' ct' ep' version' =
      assembled own (s + s') ls' ct' ep' (version.or version') := by
  have keys : s.singles.map Prod.fst = s'.singles.map Prod.fst := rfl
  have singles : singles (present (assembled own s ls ct ep version)) s' =
      singles own (s + s') := by
    unfold singles
    rw [Supplied.singles_add]
    exact map_singles_add keys fun e he => h.given?_single he (proper e he)
  rw [assembled, singles, h.given?_version, Option.or_assoc]
  rfl

end Settings

/-! ## The document -/

section Document

open Table

variable {base : Table} {s s' : Supplied}

/-- What merging leaves of a document: the entries that are not its own. -/
def unmerged (base : Table) : Table :=
  ((base.erase "crate_name").erase "package_root").erase "bindings"

/-- The parts of a document that bindings are in, with the merged settings among them. -/
def bindingsWith (base : Table) (settled : Table) : Value :=
  .table none ((((base.get? "bindings").bind Value.table?).getD []).put "kotlin"
    (.table none settled))

/-- A merged document is the base with two keys replaced and the bindings put in. -/
theorem placed_eq (base : Table) (s : Supplied) (settled : Table) :
    placed base s settled =
      ((base.replace "crate_name" s.crateName).replace "package_root" s.packageRoot).put "bindings"
        (bindingsWith base settled) := by
  unfold placed bindingsWith
  dsimp only
  rw [get?_replace_of_ne (by decide), get?_replace_of_ne (by decide)]

/-- The entries of a merged document. -/
theorem perm_placed (proper : base.Proper) (s : Supplied) (settled : Table) :
    (placed base s settled).Perm
      (entry "bindings" (some (bindingsWith base settled)) ++
        (entry "package_root" s.packageRoot ++
          (entry "crate_name" s.crateName ++ unmerged base))) := by
  have named := proper.replace "crate_name" s.crateName
  have rooted := named.replace "package_root" s.packageRoot
  have root : ((base.replace "crate_name" s.crateName).replace "package_root" s.packageRoot).Perm
      (entry "package_root" s.packageRoot ++
        (entry "crate_name" s.crateName ++ (base.erase "crate_name").erase "package_root")) := by
    refine (perm_replace named _ _).trans (List.Perm.append_left _ ?_)
    have first := perm_erase (perm_replace proper "crate_name" s.crateName) "package_root"
    rwa [erase_append, erase_entry_of_ne (by decide)] at first
  have rest := perm_erase root "bindings"
  rw [erase_append, erase_append, erase_entry_of_ne (by decide), erase_entry_of_ne (by decide)]
    at rest
  rw [placed_eq]
  exact (perm_put rooted "bindings" (bindingsWith base settled)).trans (rest.cons _)

theorem unmerged_append (t u : Table) : unmerged (t ++ u) = unmerged t ++ unmerged u := by
  simp only [unmerged, erase_append]

/-- Keys that merging owns are left out of what is not merged. -/
theorem unmerged_entry {key : Text}
    (owned : key = "crate_name" ∨ key = "package_root" ∨ key = "bindings") (v : Option Value) :
    unmerged (entry key v) = [] := by
  unfold unmerged
  rcases owned with rfl | rfl | rfl
  · rw [erase_entry]
    rfl
  · rw [erase_entry_of_ne (by decide), erase_entry]
    rfl
  · rw [erase_entry_of_ne (by decide), erase_entry_of_ne (by decide), erase_entry]

theorem unmerged_unmerged (t : Table) : unmerged (unmerged t) = unmerged t := by
  unfold unmerged
  rw [erase_erase _ "bindings" "crate_name", erase_erase _ "package_root" "crate_name", erase_self,
    erase_erase _ "bindings" "package_root", erase_self, erase_self]

/-- Merging leaves the entries that are not its own. -/
theorem perm_unmerged_placed (proper : base.Proper) (s : Supplied) (settled : Table) :
    (unmerged (placed base s settled)).Perm (unmerged base) := by
  have entries : (unmerged (placed base s settled)).Perm (unmerged _) := perm_erase (perm_erase
    (perm_erase (perm_placed proper s settled) "crate_name") "package_root") "bindings"
  rwa [unmerged_append, unmerged_append, unmerged_append, unmerged_entry (by simp),
    unmerged_entry (by simp), unmerged_entry (by simp), unmerged_unmerged, List.nil_append,
    List.nil_append, List.nil_append] at entries

/-- Placing settings in bindings changes nothing for the next settings. -/
theorem bindingsWith_placed (base : Table) (s : Supplied) (settled settled' : Table) :
    bindingsWith (placed base s settled) settled' = bindingsWith base settled' := by
  have there : (placed base s settled).get? "bindings" = some (bindingsWith base settled) := by
    rw [placed_eq, get?_put_self]
  unfold bindingsWith at there ⊢
  rw [there]
  exact congrArg (Value.table none) (put_put ..)

/-- Placing settings keeps a table proper. -/
theorem Proper.placed (proper : base.Proper) (s : Supplied) (settled : Table) :
    (placed base s settled).Proper := by
  rw [placed_eq]
  exact ((proper.replace _ _).replace _ _).put _ _

/-- Where settings are placed twice, only the second ones count. -/
theorem placed_placed (proper : base.Proper) (s s' : Supplied) (settled settled' : Table) :
    (placed (placed base s settled) s' settled').Perm (placed base (s + s') settled') := by
  refine (perm_placed (Proper.placed proper s settled) s' settled').trans ?_
  rw [bindingsWith_placed]
  have rest := perm_unmerged_placed proper s settled
  exact (((rest.append_left _).append_left _).append_left _).trans
    (perm_placed proper (s + s') settled').symm

end Document

/-- Merging a document with supplied settings, and the result with others, is merging it with the
sum of both: the document that comes out has the same entries. -/
theorem merge_twice {α : Type} {load : α → Except Failure Document} {base : Option Document}
    {s s' : Supplied} {files files' : List α} {once twice : Document}
    (proper : (base.getD Document.empty).Proper)
    (given : ∀ e ∈ s.singles, ∀ v, e.2 = some v → v.isNull = false)
    (named : NamedTable s.customTypes) (named' : NamedTable s'.customTypes)
    (first : mergeFiles load base s files = .ok once)
    (second : mergeFiles load (some once) s' files' = .ok twice) :
    ∃ whole, mergeFiles load base (s + s') (files ++ files') = .ok whole ∧ twice.Perm whole := by
  obtain ⟨selection, settled, hselect, hsettings, rfl⟩ := mergeFiles_ok_iff.1 first
  obtain ⟨selection', settled', hselect', hsettings', rfl⟩ := mergeFiles_ok_iff.1 second
  obtain ⟨packages, ls, ct, ep, version, htold, h, rfl⟩ := settings_ok_iff.1 hsettings
  -- The second merge starts from the settings that the first one has put in place.
  rw [Option.getD_some, select_placed] at hselect'
  obtain rfl := Except.ok.inj hselect'
  obtain ⟨packages', ls', ct', ep', version', htold', h', rfl⟩ := settings_ok_iff.1 hsettings'
  refine ⟨_, mergeFiles_ok_iff.2 ⟨selection, _, hselect, settings_ok_iff.2
    ⟨_, ls', ct', ep', _, told_append htold htold', h.add h' named named', rfl⟩, rfl⟩, ?_⟩
  rw [h.assembled_add given]
  exact placed_placed proper s s' _ _

/-- A flat document that names its crate. -/
def namedBase : Document := (.text "crate_name", .text "old") :: flatBase

/-- Supplied values without a name, with a blank version. -/
def nameless : Supplied :=
  { targets := some (.list none [.text "jvm"]), targetVersion := some (.text " ")
    customTypes := some (.table none [(.text "Url", .table none [])]) }

/-- Supplied values with a name and a version. -/
def renamed : Supplied :=
  { crateName := some (.text "new"), targets := some (.list none [.text "android"])
    targetVersion := some (.text "2.0") }

/-- The first merge takes away the name of the crate, and the second one puts another one at the
end; merging once puts it where the old one stood. -/
theorem merge_twice_renamed :
    ∃ once twice whole,
      mergeFiles (fun _ : Unit => .ok (sibling (.text "kept"))) (some namedBase) nameless [] =
        .ok once ∧
      mergeFiles (fun _ : Unit => .ok (sibling (.text "kept"))) (some once) renamed [()] =
        .ok twice ∧
      mergeFiles (fun _ : Unit => .ok (sibling (.text "kept"))) (some namedBase)
        (nameless + renamed) [()] = .ok whole ∧
      twice.Perm whole := by
  obtain ⟨once, first⟩ : ∃ once, mergeFiles (fun _ : Unit => .ok (sibling (.text "kept")))
      (some namedBase) nameless [] = .ok once := exists_of_isOk (by decide +kernel)
  obtain ⟨twice, second⟩ : ∃ twice, mergeFiles (fun _ : Unit => .ok (sibling (.text "kept")))
      (some once) renamed [()] = .ok twice := by
    obtain rfl := Except.ok.inj first
    exact exists_of_isOk (by decide +kernel)
  have proper : ((some namedBase).getD Document.empty).Proper := by
    refine ⟨by unfold Assoc.Distinct; decide +kernel, fun e he mark t => ?_⟩
    simp only [namedBase, flatBase, Option.getD_some, List.mem_cons, List.not_mem_nil, or_false]
      at he
    rcases he with rfl | rfl | rfl <;> simp
  obtain ⟨whole, hwhole, perm⟩ := merge_twice proper (by simp [nameless, Supplied.singles])
    (fun v hv => by
      obtain rfl := Option.some.inj hv
      exact ⟨_, rfl, by simp⟩)
    (fun v hv => by cases hv) first second
  exact ⟨once, twice, whole, first, second, hwhole, perm⟩

end Merge

end Bindery
