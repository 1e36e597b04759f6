import Bindery.Proofs.Merge.Agreement

/-!
# What a merge that ends well went through

Merging combines the settings one after another, and ends well when every combination does
(`settings_ok_iff`). The merged table then holds, under each of its keys, what was combined for it
(`Settled.given?`). The packages of other components are the first ones that their files tell of
each crate (`harvest_ok_iff`); with no files at all none are asked for (`told`).
-/

namespace Bindery.Merge

open Outcome

/-- The entries of merged settings, from what every part was combined to. -/
def assembled (own : Table) (s : Supplied) (ls : List (Text × Option Value)) (ct ep : Option Table)
    (version : Option Value) : List (Text × Option Value) :=
  singles own s ++ ls ++ ([
    ("custom_types", ct.map (.table none)), ("external_packages", ep.map (.table none)),
    ("kotlin_target_version", (own.given? "kotlin_target_version").or version)] :
      List (Text × Option Value))

/-- The parts of merged settings: what was combined for the lists, the two tables and the
version. -/
structure Settled (own : Table) (s : Supplied) (packages : Option Packages)
    (ls : List (Text × Option Value)) (ct ep : Option Table) (version : Option Value) : Prop where
  lists : lists own s = .ok ls
  customTypes : mergeTable (own.given? "custom_types") s.customTypes = .ok ct
  externalPackages : mergeTable (own.given? "external_packages")
    (packages.map fun found => .table none (packageTable found)) = .ok ep
  version : s.version? = .ok version

/-- Merging settings ends well exactly when every part can be combined. -/
theorem settings_ok_iff {own : Table} {s : Supplied}
    {harvested : Option (Except Failure Packages)} {merged : Table} :
    settings own s harvested = .ok merged ↔
      ∃ packages ls ct ep version, harvested = packages.map Except.ok ∧
        Settled own s packages ls ct ep version ∧
        present (assembled own s ls ct ep version) = merged := by
  cases harvested with
  | none =>
    simp only [settings, bind_ok_iff, combined_ok_iff, pure_ok_iff]
    constructor
    · rintro ⟨ls, hls, ct, hct, packages, rfl, ep, hep, version, hversion, rfl⟩
      exact ⟨none, ls, ct, ep, version, rfl, ⟨hls, hct, hep, hversion⟩, rfl⟩
    · rintro ⟨packages, ls, ct, ep, version, hpackages, ⟨hls, hct, hep, hversion⟩, rfl⟩
      obtain rfl : packages = none := by simpa using hpackages.symm
      exact ⟨ls, hls, ct, hct, none, rfl, ep, hep, version, hversion, rfl⟩
  | some harvest =>
    simp only [settings, bind_ok_iff, combined_ok_iff, pure_ok_iff, map_ok_iff]
    constructor
    · rintro ⟨ls, hls, ct, hct, _, ⟨found, rfl, rfl⟩, ep, hep, version, hversion, rfl⟩
      exact ⟨some found, ls, ct, ep, version, rfl, ⟨hls, hct, hep, hversion⟩, rfl⟩
    · rintro ⟨packages, ls, ct, ep, version, hpackages, ⟨hls, hct, hep, hversion⟩, rfl⟩
      obtain ⟨found, rfl, rfl⟩ := Option.map_eq_some_iff.1 hpackages.symm
      exact ⟨ls, hls, ct, hct, _, ⟨found, rfl, rfl⟩, ep, hep, version, hversion, rfl⟩

/-- Each list of settings is combined under its key. -/
theorem lists_ok_iff {own : Table} {s : Supplied} {ls : List (Text × Option Value)} :
    lists own s = .ok ls ↔
      List.Forall₂ (fun e e' => ∃ items, mergeList (own.given? e.1) e.2 = .ok items ∧
        (e.1, items.map (Value.list none)) = e') s.lists ls := by
  simp only [lists, mapM_ok_iff, bind_ok_iff, pure_ok_iff]

/-! ## What the merged table holds -/

section Holds

variable {own : Table} {s : Supplied} {packages : Option Packages}
variable {ls : List (Text × Option Value)} {ct ep : Option Table} {version : Option Value}

/-- Merged lists stand under the keys of the lists that are supplied. -/
theorem keys_lists {ls : List (Text × Option Value)} (h : lists own s = .ok ls) :
    ls.map Prod.fst = s.lists.map Prod.fst := by
  have keyed := lists_ok_iff.1 h
  clear h
  generalize s.lists = l at keyed
  induction keyed with
  | nil => rfl
  | cons he _ ih =>
    obtain ⟨items, -, rfl⟩ := he
    rw [List.map_cons, List.map_cons, ih]

/-- Every list of the merged settings was combined from that of the base and the supplied one. -/
theorem exists_of_mem_lists (h : lists own s = .ok ls) {e : Text × Option Value} (he : e ∈ ls) :
    ∃ e' ∈ s.lists, ∃ items, mergeList (own.given? e'.1) e'.2 = .ok items ∧
      (e'.1, items.map (Value.list none)) = e :=
  exists_mem_of_forall₂ (lists_ok_iff.1 h).flip e he

/-- Settled settings have all keys that settings have, in order. -/
theorem Settled.keys (h : Settled own s packages ls ct ep version) :
    (assembled own s ls ct ep version).map Prod.fst = settingKeys := by
  rw [assembled, List.map_append, List.map_append, keys_lists h.lists]
  rfl

/-- Under each key the merged table holds what was combined for it. -/
theorem Settled.given? (h : Settled own s packages ls ct ep version) {key : Text}
    {v : Option Value} (mem : (key, v) ∈ assembled own s ls ct ep version) :
    (present (assembled own s ls ct ep version)).given? key = v.filter fun w => !w.isNull :=
  given?_present (h.keys ▸ nodup_settingKeys) mem

/-- A single setting is the own one, or the one that is supplied. -/
theorem Settled.given?_single (h : Settled own s packages ls ct ep version)
    {e : Text × Option Value} (he : e ∈ s.singles)
    (proper : ∀ w, e.2 = some w → w.isNull = false) :
    (present (assembled own s ls ct ep version)).given? e.1 = (own.given? e.1).or e.2 := by
  have mem : (e.1, (own.given? e.1).or e.2) ∈ assembled own s ls ct ep version :=
    List.mem_append_left _ (List.mem_append_left _ (List.mem_map_of_mem he))
  rw [h.given? mem, filter_or proper]

/-- A list is the merged one. -/
theorem Settled.given?_of_mem_lists (h : Settled own s packages ls ct ep version)
    {e : Text × Option Value} (he : e ∈ ls) :
    (present (assembled own s ls ct ep version)).given? e.1 = e.2 := by
  rw [h.given? (List.mem_append_left _ (List.mem_append_right _ he))]
  obtain ⟨e', -, items, -, rfl⟩ := exists_of_mem_lists h.lists he
  exact filter_listed items

/-- Custom types are the merged ones. -/
theorem Settled.given?_customTypes (h : Settled own s packages ls ct ep version) :
    (present (assembled own s ls ct ep version)).given? "custom_types" =
      ct.map (Value.table none) := by
  have mem : (Text.ofString "custom_types", ct.map (Value.table none)) ∈
      assembled own s ls ct ep version :=
    List.mem_append_right _ (by simp)
  rw [h.given? mem, filter_tabled]

/-- External packages are the merged ones. -/
theorem Settled.given?_externalPackages (h : Settled own s packages ls ct ep version) :
    (present (assembled own s ls ct ep version)).given? "external_packages" =
      ep.map (Value.table none) := by
  have mem : (Text.ofString "external_packages", ep.map (Value.table none)) ∈
      assembled own s ls ct ep version :=
    List.mem_append_right _ (by simp)
  rw [h.given? mem, filter_tabled]

/-- A version that counts is not null. -/
theorem isNull_of_version? (h : s.version? = .ok version) :
    ∀ w, version = some w → w.isNull = false := by
  rintro w rfl
  unfold Supplied.version? at h
  split at h
  · cases h
  · rename_i v hv
    obtain ⟨blank, -, h⟩ := bind_ok_iff.1 h
    rw [pure_ok_iff] at h
    cases blank with
    | true => cases h
    | false =>
      have same : v = w := Option.some.inj h
      have full := (Option.filter_eq_some_iff.1 hv).2
      rw [same] at full
      cases w with
      | scalar c => cases c <;> simp_all [Value.isNull, Value.isVacuous, Scalar.isVacuous]
      | _ => rfl

/-- The version is the own one, or the one that is supplied. -/
theorem Settled.given?_version (h : Settled own s packages ls ct ep version) :
    (present (assembled own s ls ct ep version)).given? "kotlin_target_version" =
      (own.given? "kotlin_target_version").or version := by
  have mem :
      (Text.ofString "kotlin_target_version", (own.given? "kotlin_target_version").or version) ∈
      assembled own s ls ct ep version :=
    List.mem_append_right _ (by simp)
  rw [h.given? mem, filter_or (isNull_of_version? h.version)]

/-! ## What holds of every value -/

/-- What holds of the supplied texts and truth values holds of the single settings. -/
theorem forall_singles {p : Value → Prop}
    (texts : ∀ v, some v ∈ [s.crateName, s.packageRoot, s.packageName, s.cdylibName,
      s.targetVersion] → p v)
    (flags : ∀ v, some v ∈ [s.multiplatform, s.immutableRecords, s.omitChecksums,
      s.disableJavaCleaner, s.serializableTypes, s.pascalCaseEnums] → p v) :
    ∀ e ∈ s.singles, ∀ v, e.2 = some v → p v := by
  intro e he v hv
  simp only [Supplied.singles, List.mem_cons, List.not_mem_nil, or_false] at he
  rcases he with rfl | rfl | rfl | rfl | rfl | rfl | rfl | rfl
  · exact texts v (by simp [← hv])
  · exact texts v (by simp [← hv])
  all_goals exact flags v (by simp [← hv])

/-- What holds of the supplied lists holds of the settings that are lists. -/
theorem forall_lists {p : Value → Prop}
    (listed : ∀ v, some v ∈ [s.targets, s.jvmLibraries, s.androidLibraries,
      s.sharedLibraries] → p v) :
    ∀ e ∈ s.lists, ∀ v, e.2 = some v → p v := by
  intro e he v hv
  simp only [Supplied.lists, List.mem_cons, List.not_mem_nil, or_false] at he
  rcases he with rfl | rfl | rfl | rfl
  all_goals exact listed v (by simp [← hv])

/-- What holds of the values that the base gives, of the supplied ones and of what was combined
holds of every value that is assembled. -/
theorem forall_assembled {p : Value → Prop} (given : ∀ key v, own.given? key = some v → p v)
    (single : ∀ e ∈ s.singles, ∀ v, e.2 = some v → p v)
    (listed : ∀ e ∈ ls, ∀ v, e.2 = some v → p v)
    (types : ∀ t, ct = some t → p (.table none t)) (others : ∀ t, ep = some t → p (.table none t))
    (versioned : ∀ v, version = some v → p v) :
    ∀ e ∈ assembled own s ls ct ep version, ∀ v, e.2 = some v → p v := by
  have either {key : Text} {w : Option Value} (hw : ∀ v, w = some v → p v) :
      ∀ v, (own.given? key).or w = some v → p v := by
    intro v hv
    rcases Option.or_eq_some_iff.1 hv with hv | ⟨-, hv⟩
    · exact given key v hv
    · exact hw v hv
  have tabled {t : Option Table} (ht : ∀ entries, t = some entries → p (.table none entries)) :
      ∀ v, t.map (Value.table none) = some v → p v := by
    intro v hv
    obtain ⟨entries, there, rfl⟩ := Option.map_eq_some_iff.1 hv
    exact ht entries there
  rw [assembled, List.forall_mem_append, List.forall_mem_append]
  refine ⟨⟨fun e he => ?_, listed⟩, ?_⟩
  · obtain ⟨e', he', rfl⟩ := List.mem_map.1 he
    exact either (single e' he')
  · simp only [List.forall_mem_cons, List.not_mem_nil, false_implies, implies_true, and_true]
    exact ⟨tabled types, tabled others, either versioned⟩

end Holds

/-! ## The packages of other components -/

section Harvest

variable {α : Type} {load : α → Except Failure Document} {skip : α → Except Failure Unit}

/-- What a file tells. -/
def Tells (load : α → Except Failure Document) (file : α) (told : Option Packages) : Prop :=
  ∃ d, load file = .ok d ∧ contribution d = .ok told

/-- Telling a file adds what its document contributes and was not known before. -/
theorem tell_ok_iff (hskip : ∀ file, skip file = .ok ()) {file : α} {found more : Packages} :
    (do match ← combined (contribution (← load file)) with
      | some told => return Assoc.union found told
      | none =>
        skip file
        return found : Except Failure Packages) = .ok more ↔
      ∃ told, Tells load file told ∧ Assoc.union found (told.getD []) = more := by
  constructor
  · intro h
    obtain ⟨d, hd, rest⟩ := bind_ok_iff.1 h
    obtain ⟨told, htold, -⟩ := bind_ok_iff.1 rest
    rw [combined_ok_iff] at htold
    exact ⟨told, ⟨d, hd, htold⟩,
      Except.ok.inj ((harvest_step hd htold (hskip file)).symm.trans h)⟩
  · rintro ⟨told, ⟨d, hd, htold⟩, rfl⟩
    exact harvest_step hd htold (hskip file)

/-- Harvesting ends well when every file tells something or nothing, and finds the first package
that is told of each crate. -/
theorem harvest_ok_iff (hskip : ∀ file, skip file = .ok ()) {files : List α} {found : Packages} :
    harvest load skip files = .ok found ↔
      ∃ tolds, List.Forall₂ (Tells load) files tolds ∧
        Assoc.union [] (tolds.flatMap fun told => told.getD []) = found := by
  unfold harvest
  suffices ∀ start, List.foldlM (m := Except Failure) _ start files = .ok found ↔
      ∃ tolds, List.Forall₂ (Tells load) files tolds ∧
        Assoc.union start (tolds.flatMap fun told => told.getD []) = found from this []
  induction files with
  | nil =>
    intro start
    simp [pure_ok_iff]
  | cons file files ih =>
    intro start
    rw [List.foldlM_cons, bind_ok_iff]
    constructor
    · rintro ⟨more, h, rest⟩
      obtain ⟨told, htold, rfl⟩ := (tell_ok_iff hskip).1 h
      obtain ⟨tolds, htolds, rfl⟩ := (ih _).1 rest
      exact ⟨told :: tolds, .cons htold htolds, Assoc.union_append ..⟩
    · rintro ⟨_, h, rfl⟩
      obtain ⟨told, tolds, htold, htolds, rfl⟩ := List.forall₂_cons_left_iff.1 h
      exact ⟨_, (tell_ok_iff hskip).2 ⟨told, htold, rfl⟩,
        (ih _).2 ⟨tolds, htolds, (Assoc.union_append ..).symm⟩⟩

/-- Packages are united from either side. -/
theorem packages_union_union (left mid right : Packages) :
    Assoc.union left (Assoc.union mid right) = Assoc.union (Assoc.union left mid) right :=
  Assoc.union_union left fun _ _ _ _ same => beq_iff_eq.1 same

/-- Of two lists of files the packages that the second one tells are added to those of the first. -/
theorem harvest_append (hskip : ∀ file, skip file = .ok ()) {files files' : List α}
    {found found' : Packages} (h : harvest load skip files = .ok found)
    (h' : harvest load skip files' = .ok found') :
    harvest load skip (files ++ files') = .ok (Assoc.union found found') := by
  obtain ⟨tolds, htolds, rfl⟩ := (harvest_ok_iff hskip).1 h
  obtain ⟨tolds', htolds', rfl⟩ := (harvest_ok_iff hskip).1 h'
  refine (harvest_ok_iff hskip).2 ⟨tolds ++ tolds', List.rel_append htolds htolds', ?_⟩
  rw [List.flatMap_append, Assoc.union_append, packages_union_union, Assoc.union_nil_right]

end Harvest

/-! ## Merging with files -/

variable {α : Type} {load : α → Except Failure Document}

/-- What the files of other components tell; nothing is asked of no files. -/
def told (load : α → Except Failure Document) (files : List α) :
    Option (Except Failure Packages) :=
  if files.isEmpty then none else some (harvest load (fun _ => .ok ()) files)

/-- What two lists of files tell, one after the other. -/
theorem told_append {files files' : List α} {packages packages' : Option Packages}
    (h : told load files = packages.map Except.ok)
    (h' : told load files' = packages'.map Except.ok) :
    told load (files ++ files') = (Option.merge Assoc.union packages packages').map Except.ok := by
  cases files with
  | nil =>
    obtain rfl : packages = none := by simpa [told] using h.symm
    rw [List.nil_append, h', Option.merge_none_left]
  | cons file files =>
    obtain ⟨found, rfl, hfound⟩ := Option.map_eq_some_iff.1 h.symm
    cases files' with
    | nil =>
      obtain rfl : packages' = none := by simpa [told] using h'.symm
      rw [List.append_nil, h, Option.merge_none_right]
    | cons file' files' =>
      obtain ⟨found', rfl, hfound'⟩ := Option.map_eq_some_iff.1 h'.symm
      exact congrArg some (harvest_append (fun _ => rfl) hfound.symm hfound'.symm)

/-- Merging with the configurations of other components in files; `load` opens a file. -/
def mergeFiles (load : α → Except Failure Document) (base : Option Document) (s : Supplied)
    (files : List α) : Except Failure Document :=
  merge base s (told load files)

/-- A merge that ends well merged the settings that the base selects. -/
theorem mergeFiles_ok_iff {base : Option Document} {s : Supplied} {files : List α}
    {merged : Document} :
    mergeFiles load base s files = .ok merged ↔
      ∃ selection settled, select (base.getD Document.empty) none = .ok selection ∧
        settings selection.table s (told load files) = .ok settled ∧
        placed (base.getD Document.empty) s settled = merged := by
  unfold mergeFiles merge
  dsimp only
  cases select (base.getD Document.empty) none with
  | error e => simp [throw_ne_ok]
  | ok selection =>
    simp only [bind_ok_iff, pure_ok_iff]
    constructor
    · rintro ⟨settled, hsettled, rfl⟩
      exact ⟨selection, settled, rfl, hsettled, rfl⟩
    · rintro ⟨selection', settled, ⟨⟩, hsettled, rfl⟩
      exact ⟨settled, hsettled, rfl⟩

end Bindery.Merge
