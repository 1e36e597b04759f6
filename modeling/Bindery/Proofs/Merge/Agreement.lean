import Bindery.Proofs.Merge.Settings
import Bindery.Proofs.Sequence
import Bindery.Proofs.Value.Text

/-!
# Merging and resolving agree

A merged document resolves to the configuration that one reads off the settings of its base and
the supplied ones, setting by setting (`Config.Joins`): of a single setting the value of the base
counts, then the supplied one, then the default; lists stand one after another; tables are
united, the entries of the base first. Merging and resolving end well and agree on all fifteen
settings, for every accepted base and all well-typed supplied values.

What other components tell must have a text: a document may hold a whole number with more
digits than are ever written out, and then merging fails.
-/

namespace Bindery

open Outcome

/-- The supplied values have the kinds that their settings ask for. -/
structure Supplied.WellTyped (s : Supplied) : Prop where
  texts : ∀ v, some v ∈ [s.crateName, s.packageRoot, s.packageName, s.cdylibName,
    s.targetVersion] → v.text?.isSome
  flags : ∀ v, some v ∈ [s.multiplatform, s.immutableRecords, s.omitChecksums,
    s.disableJavaCleaner, s.serializableTypes, s.pascalCaseEnums] → v.bool?.isSome
  libraries : ∀ v, some v ∈ [s.jvmLibraries, s.androidLibraries, s.sharedLibraries] →
    v.texts?.isSome
  targets : ∀ v, s.targets = some v →
    ∃ names found, v.texts? = some names ∧ Reader.TargetsOf names found
  /-- A table from names to tables of conversions, no name twice. -/
  customTypes : ∀ v, s.customTypes = some v →
    ∃ t, v.table? = some t ∧ Assoc.Distinct t ∧
      ∀ e ∈ t, ∃ name custom, e.1 = .text name ∧ CustomType.Entry e (name, custom)

/-- The supplied version, unless it is blank. -/
def Supplied.versionGiven (s : Supplied) : Option Value :=
  s.targetVersion.filter fun v => !v.text?.any Text.isAllBlank

/-- A configuration that joins the settings `own` of a document with supplied ones and with the
packages `found` in other documents. -/
structure Config.Joins (own : Table) (s : Supplied) (found : Merge.Packages) (c : Config) :
    Prop where
  packageName : c.packageName.map Value.text = (own.given? "package_name").or s.packageName
  cdylibName : c.cdylibName.map Value.text = (own.given? "cdylib_name").or s.cdylibName
  multiplatform : Value.bool c.multiplatform =
    ((own.given? "kotlin_multiplatform").or s.multiplatform).getD (.bool false)
  immutableRecords : Value.bool c.immutableRecords =
    ((own.given? "generate_immutable_records").or s.immutableRecords).getD (.bool false)
  omitChecksums : Value.bool c.omitChecksums =
    ((own.given? "omit_checksums").or s.omitChecksums).getD (.bool false)
  disableJavaCleaner : Value.bool c.disableJavaCleaner =
    ((own.given? "disable_java_cleaner").or s.disableJavaCleaner).getD (.bool false)
  serializableTypes : Value.bool c.serializableTypes =
    ((own.given? "generate_serializable_types").or s.serializableTypes).getD (.bool false)
  pascalCaseEnums : Value.bool c.pascalCaseEnums =
    ((own.given? "use_pascal_case_enum_class").or s.pascalCaseEnums).getD (.bool false)
  targetVersion : c.targetVersion.map Value.text =
    (own.given? "kotlin_target_version").or s.versionGiven
  targets : c.targets.map (fun t => Text.ofString t.name) =
    Sequence.distinct (textsOf (own.given? "kotlin_targets") ++ textsOf s.targets)
  jvmLibraries : c.jvmLibraries =
    textsOf (own.given? "jvm_dynamic_library_dependencies") ++ textsOf s.jvmLibraries
  androidLibraries : c.androidLibraries =
    textsOf (own.given? "android_dynamic_library_dependencies") ++ textsOf s.androidLibraries
  sharedLibraries : c.sharedLibraries =
    textsOf (own.given? "dynamic_library_dependencies") ++ textsOf s.sharedLibraries
  externalPackages : Merge.packageTable c.externalPackages =
    Assoc.union (entriesOf (own.given? "external_packages")) (Merge.packageTable found)
  /-- The custom types are what a section with the united table resolves to. -/
  customTypes :
    Reader.customTypes ⟨[(.text "custom_types", .table none
      (Assoc.union (entriesOf (own.given? "custom_types")) (entriesOf s.customTypes)))],
      none, ""⟩ "custom_types" = .ok c.customTypes

/-- A target goes by the name that it is found under. -/
theorem Target.name_of_ofName? {name : Text} {t : Target} (h : Target.ofName? name = some t) :
    Text.ofString t.name = name := by
  simpa using List.find?_some h

/-- No two targets have one name. -/
theorem Target.name_injective : Function.Injective fun t : Target => Text.ofString t.name := by
  intro t u h
  cases t <;> cases u <;> first | rfl | exact absurd h (by decide)

/-- Targets that are read from names have these names. -/
theorem Reader.TargetsOf.map_name {names : List Text} {found : List Target}
    (h : Reader.TargetsOf names found) : found.map (fun t => Text.ofString t.name) = names := by
  induction h with
  | nil => rfl
  | cons ht _ ih => rw [List.map_cons, ih, Target.name_of_ofName? ht]

namespace Merge

/-! ## One setting -/

section Setting

variable {own merged : Table} {key : Text} {v : Option Value}

/-- What is given is not null. -/
theorem isNull_of_given? {t : Table} {w : Value} (h : t.given? key = some w) :
    w.isNull = false := by
  simpa using (Option.filter_eq_some_iff.1 h).2

theorem isNull_of_text {w : Value} (h : w.text?.isSome) : w.isNull = false := by
  obtain ⟨s, hs⟩ := Option.isSome_iff_exists.1 h
  rw [Value.text?_eq_some.1 hs]
  rfl

theorem isNull_of_bool {w : Value} (h : w.bool?.isSome) : w.isNull = false := by
  obtain ⟨b, hb⟩ := Option.isSome_iff_exists.1 h
  rw [Value.bool?_eq_some.1 hb]
  rfl

/-- The value of the base or else the supplied one is there as it is, when that one is no null. -/
theorem filter_or (hv : ∀ w, v = some w → w.isNull = false) :
    ((own.given? key).or v).filter (fun w => !w.isNull) = (own.given? key).or v := by
  cases ho : own.given? key with
  | some w => simp [isNull_of_given? ho]
  | none =>
    cases v with
    | none => rfl
    | some w => simp [hv w rfl]

theorem filter_listed (items : Option (List Value)) :
    (items.map (Value.list none)).filter (fun w => !w.isNull) = items.map (Value.list none) := by
  cases items <;> rfl

theorem filter_tabled (entries : Option Table) :
    (entries.map (Value.table none)).filter (fun w => !w.isNull) =
      entries.map (Value.table none) := by
  cases entries <;> rfl

/-- Of two values that can be decoded, each if it is there, the first that is there can be. -/
theorem isSome_or {α : Type} {decode : Value → Option α}
    (ho : ∀ w, own.given? key = some w → (decode w).isSome)
    (hv : ∀ w, v = some w → (decode w).isSome) :
    ∀ w, (own.given? key).or v = some w → (decode w).isSome := by
  intro w hw
  cases h : own.given? key with
  | some w' =>
    rw [h, Option.some_or] at hw
    exact ho w (h.trans hw)
  | none =>
    rw [h, Option.none_or] at hw
    exact hv w hw

/-- A text setting of the merged table. -/
theorem exists_text (hm : merged.given? key = (own.given? key).or v)
    (ho : ∀ w, own.given? key = some w → w.text?.isSome)
    (hv : ∀ w, v = some w → w.text?.isSome) :
    ∃ a, merged.Gives key Value.text? a ∧ a.map Value.text = (own.given? key).or v := by
  obtain ⟨a, ha⟩ : ∃ a, merged.Gives key Value.text? a :=
    Table.exists_gives (by rw [hm]; exact isSome_or ho hv)
  exact ⟨a, ha, by rw [← hm, (Table.gives_iff_of_encode Value.text?_eq_some).1 ha]⟩

/-- A flag of the merged table. -/
theorem exists_flag (hm : merged.given? key = (own.given? key).or v)
    (ho : ∀ w, own.given? key = some w → w.bool?.isSome)
    (hv : ∀ w, v = some w → w.bool?.isSome) :
    ∃ b, merged.GivesOr key Value.bool? false b ∧
      Value.bool b = ((own.given? key).or v).getD (.bool false) := by
  obtain ⟨a, ha⟩ : ∃ a, merged.Gives key Value.bool? a :=
    Table.exists_gives (by rw [hm]; exact isSome_or ho hv)
  refine ⟨a.getD false, ⟨a, ha, rfl⟩, ?_⟩
  rw [← hm, (Table.gives_iff_of_encode Value.bool?_eq_some).1 ha]
  cases a <;> rfl

/-- A list of texts of the merged table. -/
theorem givesOr_texts {items : Option (List Value)}
    (hm : merged.given? key = items.map (Value.list none))
    (hs : ∀ w, items.map (Value.list none) = some w → w.texts?.isSome) :
    merged.GivesOr key Value.texts? [] (textsOf (items.map (Value.list none))) := by
  rw [← hm] at hs ⊢
  exact Table.givesOr_of_isSome hs

/-- The targets of the merged table: those of both lists, each at its first place. -/
theorem exists_targets {names names' : List Text} {found found' : List Target}
    (hm : merged.GivesOr key Value.texts? [] (names ++ names'))
    (hf : Reader.TargetsOf names found) (hf' : Reader.TargetsOf names' found') :
    ∃ targets, (∃ names found, merged.GivesOr key Value.texts? [] names ∧
        Reader.TargetsOf names found ∧ Sequence.distinct found = targets) ∧
      targets.map (fun t => Text.ofString t.name) = Sequence.distinct (names ++ names') := by
  have hff : Reader.TargetsOf (names ++ names') (found ++ found') := List.rel_append hf hf'
  refine ⟨_, ⟨_, _, hm, hff, rfl⟩, ?_⟩
  rw [Sequence.map_distinct Target.name_injective, hff.map_name]

/-- The external packages of the merged table: those of both tables, united. -/
theorem exists_packages {entries : Option Table} {packages found : Packages}
    (hm : merged.given? key = entries.map (Value.table none))
    (hu : entriesOf (entries.map (Value.table none)) =
      Assoc.union (packageTable packages) (packageTable found)) :
    merged.GivesOr key Reader.textEntries? [] (Assoc.union packages found) := by
  rw [← packageTable_union] at hu
  cases entries with
  | none =>
    have hn : Assoc.union packages found = [] := List.map_eq_nil_iff.1 hu.symm
    exact ⟨none, Table.gives_iff.2 (.inl ⟨hm, rfl⟩), hn.symm⟩
  | some t =>
    have ht : t = packageTable (Assoc.union packages found) := hu
    exact ⟨some _, Table.gives_iff.2 (.inr ⟨_, _, hm, mapM_textEntry?_eq_some.2 ht, rfl⟩), rfl⟩

/-- The custom types of the merged table: those of the united one. -/
theorem exists_customTypes {entries : Option Table} {united : Table}
    (hm : merged.given? key = entries.map (Value.table none))
    (hu : entriesOf (entries.map (Value.table none)) = united)
    (valid : ∀ e ∈ united, ∃ named, CustomType.Entry e named) :
    ∃ customs, (∃ entries found, merged.GivesOr key Value.table? [] entries ∧
        List.Forall₂ CustomType.Entry entries found ∧ Assoc.ofPairs found = customs) ∧
      Reader.customTypes ⟨[(.text "custom_types", .table none united)], none, ""⟩
        "custom_types" = .ok customs := by
  obtain ⟨found, hfound⟩ := exists_forall₂ valid
  refine ⟨_, ⟨united, found, ?_, hfound, rfl⟩, Reader.customTypes_ok_iff.2
    ⟨united, found, ⟨some united, rfl, rfl⟩, hfound, rfl⟩⟩
  rw [← hu, ← hm]
  refine Table.givesOr_of_isSome fun w hw => ?_
  rw [hm] at hw
  obtain ⟨t, -, rfl⟩ := Option.map_eq_some_iff.1 hw
  rfl

end Setting

/-! ## All settings -/

section Settings

variable {own : Table} {s : Supplied}

/-- The version of what is well typed is the one that is given. -/
theorem version?_ok (typed : s.WellTyped) : s.version? = .ok s.versionGiven := by
  unfold Supplied.version? Supplied.versionGiven
  cases hv : s.targetVersion with
  | none => rfl
  | some v =>
    obtain ⟨t, ht⟩ := Option.isSome_iff_exists.1 (typed.texts v (by simp [hv]))
    obtain rfl := Value.text?_eq_some.1 ht
    have hfull : Option.filter (fun v => !v.text?.any Text.isAllBlank) (some (Value.text t)) =
        if Text.isAllBlank t then none else some (.text t) := by
      rw [Option.filter_some, ht, Option.any_some]
      cases Text.isAllBlank t <;> rfl
    rw [hfull]
    cases t with
    | nil => rfl
    | cons x t =>
      show (do return if ← Except.ok (Text.isAllBlank (x :: t)) then none
        else some (Value.text (x :: t)) : Except Fault (Option Value)) = _
      rfl

/-- A supplied version that counts is a text. -/
theorem text?_of_versionGiven (typed : s.WellTyped) {v : Value} (h : s.versionGiven = some v) :
    v.text?.isSome :=
  typed.texts v (by simp [(Option.filter_eq_some_iff.1 h).1])

/-- The keys of the merged settings. -/
def settingKeys : List Text := [
  "package_name", "cdylib_name", "kotlin_multiplatform", "generate_immutable_records",
  "omit_checksums", "disable_java_cleaner", "generate_serializable_types",
  "use_pascal_case_enum_class", "kotlin_targets", "jvm_dynamic_library_dependencies",
  "android_dynamic_library_dependencies", "dynamic_library_dependencies", "custom_types",
  "external_packages", "kotlin_target_version"]

theorem nodup_settingKeys : settingKeys.Nodup := by decide +kernel

/-- The lists of the merged settings, each from those under its key. -/
theorem lists_ok (ho : ∀ e ∈ s.lists, ∀ w, own.given? e.1 = some w → w.texts?.isSome)
    (hv : ∀ e ∈ s.lists, ∀ w, e.2 = some w → w.texts?.isSome) :
    ∃ entries, lists own s = .ok entries ∧ entries.map Prod.fst = s.lists.map Prod.fst ∧
      ∀ e ∈ s.lists, ∃ items : Option (List Value), (e.1, items.map (Value.list none)) ∈ entries ∧
        (∀ w, items.map (Value.list none) = some w → w.texts?.isSome) ∧
        textsOf (items.map (Value.list none)) = textsOf (own.given? e.1) ++ textsOf e.2 := by
  unfold lists
  generalize s.lists = l at ho hv
  induction l with
  | nil => exact ⟨[], rfl, rfl, by simp⟩
  | cons e l ih =>
    obtain ⟨items, hitems, hs, ht⟩ :=
      mergeList_texts (ho e List.mem_cons_self) (hv e List.mem_cons_self)
    obtain ⟨entries, hentries, hkeys, hmem⟩ := ih
      (fun e' he' => ho e' (List.mem_cons_of_mem _ he'))
      (fun e' he' => hv e' (List.mem_cons_of_mem _ he'))
    refine ⟨(e.1, items.map (.list none)) :: entries, ?_, ?_, ?_⟩
    · rw [List.mapM_cons, hitems, hentries]
      rfl
    · rw [List.map_cons, List.map_cons, hkeys]
    · intro e' he'
      rcases List.mem_cons.1 he' with rfl | he'
      · exact ⟨items, List.mem_cons_self, hs, ht⟩
      · obtain ⟨items', hmem', h'⟩ := hmem e' he'
        exact ⟨items', List.mem_cons_of_mem _ hmem', h'⟩

/-- What a merged table holds: under every key of a single setting, a list or a table what was
found for it. -/
structure Found (own : Table) (s : Supplied) (found : Packages) (merged : Table) : Prop where
  single : ∀ e ∈ s.singles, (∀ w, e.2 = some w → w.isNull = false) →
    merged.given? e.1 = (own.given? e.1).or e.2
  list : ∀ e ∈ s.lists, ∃ items : Option (List Value),
    merged.given? e.1 = items.map (Value.list none) ∧
    (∀ w, items.map (Value.list none) = some w → w.texts?.isSome) ∧
    textsOf (items.map (Value.list none)) = textsOf (own.given? e.1) ++ textsOf e.2
  customTypes : ∃ entries : Option Table,
    merged.given? "custom_types" = entries.map (Value.table none) ∧
    entriesOf (entries.map (Value.table none)) =
      Assoc.union (entriesOf (own.given? "custom_types")) (entriesOf s.customTypes)
  externalPackages : ∃ entries : Option Table,
    merged.given? "external_packages" = entries.map (Value.table none) ∧
    entriesOf (entries.map (Value.table none)) =
      Assoc.union (entriesOf (own.given? "external_packages")) (packageTable found)
  targetVersion :
    merged.given? "kotlin_target_version" = (own.given? "kotlin_target_version").or s.versionGiven

/-- Custom types that are supplied and well typed have no key twice. -/
theorem distinct_supplied (typed : s.WellTyped) : Assoc.Distinct (entriesOf s.customTypes) := by
  cases hs : s.customTypes with
  | none => exact .nil
  | some v =>
    obtain ⟨t, ht, hd, -⟩ := typed.customTypes v hs
    rw [entriesOf, Option.bind_some, ht]
    exact hd

/-- The settings that are neither single nor lists, from what becomes of the two tables. -/
def others (own : Table) (s : Supplied) (ct ep : Option Table) : List (Text × Option Value) := [
  ("custom_types", ct.map (Value.table none)), ("external_packages", ep.map (Value.table none)),
  ("kotlin_target_version", (own.given? "kotlin_target_version").or s.versionGiven)]

/-- The merged settings, once every part of them is there. -/
theorem settings_ok {harvested : Option (Except Failure Packages)}
    {ls : List (Text × Option Value)} {ct ep : Option Table} {packages : Option Packages}
    (typed : s.WellTyped) (hls : lists own s = .ok ls)
    (hct : mergeTable (own.given? "custom_types") s.customTypes = .ok ct)
    (hpackages : harvested = packages.map Except.ok)
    (hep : mergeTable (own.given? "external_packages")
      (packages.map fun found => .table none (packageTable found)) = .ok ep) :
    settings own s harvested = .ok (present (singles own s ++ ls ++ others own s ct ep)) := by
  subst hpackages
  unfold settings
  refine bind_ok_iff.2 ⟨ls, combined_ok_iff.2 hls, bind_ok_iff.2 ⟨ct, combined_ok_iff.2 hct, ?_⟩⟩
  cases packages
  all_goals exact bind_ok_iff.2 ⟨_, rfl, bind_ok_iff.2 ⟨ep, combined_ok_iff.2 hep,
    bind_ok_iff.2 ⟨_, combined_ok_iff.2 (version?_ok typed), rfl⟩⟩⟩

/-- The lists of a described table are lists of texts. -/
theorem own_lists {own' : Config} (described : Config.Describes own own') :
    ∀ e ∈ s.lists, ∀ w, own.given? e.1 = some w → w.texts?.isSome := by
  intro e he w hw
  obtain ⟨names, -, hnames, -⟩ := described.targets
  simp only [Supplied.lists, List.mem_cons, List.not_mem_nil, or_false] at he
  rcases he with rfl | rfl | rfl | rfl
  · exact hnames.isSome hw
  · exact described.jvmLibraries.isSome hw
  · exact described.androidLibraries.isSome hw
  · exact described.sharedLibraries.isSome hw

/-- So are the supplied ones. -/
theorem supplied_lists (typed : s.WellTyped) :
    ∀ e ∈ s.lists, ∀ w, e.2 = some w → w.texts?.isSome := by
  intro e he w hw
  simp only [Supplied.lists, List.mem_cons, List.not_mem_nil, or_false] at he
  rcases he with rfl | rfl | rfl | rfl
  · obtain ⟨names, -, hnames, -⟩ := typed.targets w hw
    rw [hnames]
    rfl
  all_goals exact typed.libraries w (by simp [← hw])

/-- Merging a described table with well-typed supplied values ends well. -/
theorem settings_found {own' : Config} {harvested : Option (Except Failure Packages)}
    {found : Packages} (described : Config.Describes own own') (typed : s.WellTyped)
    (told : harvested = none ∧ found = [] ∨ harvested = some (.ok found))
    (distinct : Assoc.Distinct found) :
    ∃ merged, settings own s harvested = .ok merged ∧ Found own s found merged := by
  obtain ⟨ls, hls, hkeys, hmem⟩ := lists_ok (own_lists described) (supplied_lists typed)
  -- The two tables, united.
  have ownTypes : ∀ w, own.given? "custom_types" = some w → w.table?.isSome := by
    obtain ⟨_, _, h, -⟩ := described.customTypes
    exact fun w hw => h.isSome hw
  have suppliedTypes : ∀ w, s.customTypes = some w → w.table?.isSome := by
    intro w hw
    obtain ⟨t, ht, -⟩ := typed.customTypes w hw
    rw [ht]
    rfl
  obtain ⟨ct, hct, hcu⟩ := mergeTable_tables ownTypes suppliedTypes (distinct_supplied typed)
  have ownPackages : ∀ w, own.given? "external_packages" = some w → w.table?.isSome := by
    intro w hw
    have := described.externalPackages.isSome hw
    cases hw' : w.table? <;> simp_all [Reader.textEntries?]
  obtain ⟨packages, hpackages, hb⟩ : ∃ packages : Option Packages,
      harvested = packages.map Except.ok ∧
        entriesOf (packages.map fun found => Value.table none (packageTable found)) =
          packageTable found := by
    rcases told with ⟨rfl, rfl⟩ | rfl
    · exact ⟨none, rfl, rfl⟩
    · exact ⟨some found, rfl, rfl⟩
  have foundPackages : Assoc.Distinct
      (entriesOf (packages.map fun found => Value.table none (packageTable found))) := by
    rw [hb]
    exact Assoc.distinct_map Value.same_text distinct
  obtain ⟨ep, hep, heu⟩ :=
    mergeTable_tables ownPackages (by simp [Value.table?]) foundPackages
  rw [hb] at heu
  let entries := singles own s ++ ls ++ others own s ct ep
  have keys : entries.map Prod.fst = settingKeys := by
    simp only [entries, List.map_append, hkeys]
    rfl
  have given {key : Text} {v : Option Value} (mem : (key, v) ∈ entries) :
      (present entries).given? key = v.filter fun w => !w.isNull :=
    given?_present (keys ▸ nodup_settingKeys) mem
  refine ⟨present entries, settings_ok typed hls hct hpackages hep, ?_⟩
  · constructor
    · intro e he hnull
      rw [← filter_or hnull]
      exact given (List.mem_append_left _ (List.mem_append_left _ (List.mem_map.2 ⟨e, he, rfl⟩)))
    · intro e he
      obtain ⟨items, hitems, hs, ht⟩ := hmem e he
      refine ⟨items, ?_, hs, ht⟩
      rw [given (List.mem_append_left _ (List.mem_append_right _ hitems)), filter_listed]
    · refine ⟨ct, ?_, hcu⟩
      rw [given (v := ct.map (Value.table none)) (List.mem_append_right _ (by simp [others])),
        filter_tabled]
    · refine ⟨ep, ?_, heu⟩
      rw [given (v := ep.map (Value.table none)) (List.mem_append_right _ (by simp [others])),
        filter_tabled]
    · rw [given (v := (own.given? "kotlin_target_version").or s.versionGiven)
        (List.mem_append_right _ (by simp [others]))]
      exact filter_or fun w hw => isNull_of_text (text?_of_versionGiven typed hw)

/-- What holds of the entries of every table that is there holds of all entries. -/
theorem forall_entriesOf {v : Option Value} {P : Value × Value → Prop}
    (h : ∀ w t, v = some w → w.table? = some t → ∀ e ∈ t, P e) : ∀ e ∈ entriesOf v, P e := by
  cases v with
  | none => simp [entriesOf]
  | some w =>
    cases ht : w.table? with
    | none => simp [entriesOf, ht]
    | some t => simpa [entriesOf, ht] using h w t rfl ht

/-- Every entry of the united custom types is one. -/
theorem entry_of_union {own' : Config} (described : Config.Describes own own')
    (typed : s.WellTyped) :
    ∀ e ∈ Assoc.union (entriesOf (own.given? "custom_types")) (entriesOf s.customTypes),
      ∃ named, CustomType.Entry e named := by
  refine Assoc.forall_union (forall_entriesOf ?_) (forall_entriesOf ?_)
  · intro w t hw ht
    obtain ⟨entries, found, hentries, hfound, -⟩ := described.customTypes
    have : entries = t := by rw [hentries.eq_getD, hw, Option.bind_some, ht]; rfl
    exact this ▸ exists_of_forall₂ hfound
  · intro w t hw ht e he
    obtain ⟨t', ht', -, entry⟩ := typed.customTypes w hw
    obtain rfl := Option.some.inj (ht'.symm.trans ht)
    obtain ⟨name, custom, -, h⟩ := entry e he
    exact ⟨_, h⟩

/-- Packages that a table gives are its entries. -/
theorem entriesOf_packages {t : Table} {key : Text} {packages : Packages}
    (h : t.GivesOr key Reader.textEntries? [] packages) :
    entriesOf (t.given? key) = packageTable packages := by
  obtain ⟨given, hgiven, rfl⟩ := h
  rcases Table.gives_iff.1 hgiven with ⟨hn, rfl⟩ | ⟨v, xs, hv, hx, rfl⟩
  · rw [hn]
    rfl
  · obtain ⟨entries, hentries, hxs⟩ := Option.bind_eq_some_iff.1 hx
    rw [hv, entriesOf, Option.bind_some, hentries]
    exact mapM_textEntry?_eq_some.1 hxs

/-! What the merged table gives of each form of settings. -/

namespace Found

variable {found : Packages} {merged : Table} {key : Text} {v : Option Value}

/-- A text that is merged is the own one, or the one that is supplied. -/
theorem exists_text (h : Found own s found merged) {a : Option Text} (he : (key, v) ∈ s.singles)
    (ho : own.Gives key Value.text? a) (hv : ∀ w, v = some w → w.text?.isSome) :
    ∃ a, merged.Gives key Value.text? a ∧ a.map Value.text = (own.given? key).or v := by
  apply Merge.exists_text
  · exact h.single _ he fun w hw => isNull_of_text (hv w hw)
  · exact fun w hw => ho.isSome hw
  · exact hv

/-- A flag that is merged is the own one, or the one that is supplied, or false. -/
theorem exists_flag (h : Found own s found merged) {b : Bool} (he : (key, v) ∈ s.singles)
    (ho : own.GivesOr key Value.bool? false b) (hv : ∀ w, v = some w → w.bool?.isSome) :
    ∃ b, merged.GivesOr key Value.bool? false b ∧
      Value.bool b = ((own.given? key).or v).getD (.bool false) := by
  apply Merge.exists_flag
  · exact h.single _ he fun w hw => isNull_of_bool (hv w hw)
  · exact fun w hw => ho.isSome hw
  · exact hv

/-- A list that is merged is the own one with the supplied one behind it. -/
theorem givesOr_list (h : Found own s found merged) (he : (key, v) ∈ s.lists) :
    merged.GivesOr key Value.texts? [] (textsOf (own.given? key) ++ textsOf v) := by
  obtain ⟨items, hitems, hs, ht⟩ := h.list _ he
  rw [← ht]
  exact givesOr_texts hitems hs

end Found

/-- The supplied targets have names of targets. -/
theorem exists_targetsOf (typed : s.WellTyped) :
    ∃ targets, Reader.TargetsOf (textsOf s.targets) targets := by
  cases hs : s.targets with
  | none => exact ⟨[], .nil⟩
  | some v =>
    obtain ⟨names, targets, hnames, htargets⟩ := typed.targets v hs
    refine ⟨targets, ?_⟩
    rw [textsOf, Option.bind_some, hnames]
    exact htargets

/-- The merged settings describe a configuration that joins what they were merged from. -/
theorem Found.exists_joins {own' : Config} {found : Packages} {merged : Table}
    (described : Config.Describes own own') (typed : s.WellTyped)
    (h : Found own s found merged) :
    ∃ c, Config.Describes merged c ∧ Config.Joins own s found c := by
  -- The single settings, by the form of their values.
  obtain ⟨packageName, hpn, jpn⟩ := h.exists_text (v := s.packageName)
    (by simp [Supplied.singles]) described.packageName fun w hw => typed.texts w (by simp [hw])
  obtain ⟨cdylibName, hcn, jcn⟩ := h.exists_text (v := s.cdylibName)
    (by simp [Supplied.singles]) described.cdylibName fun w hw => typed.texts w (by simp [hw])
  obtain ⟨multiplatform, hmp, jmp⟩ := h.exists_flag (v := s.multiplatform)
    (by simp [Supplied.singles]) described.multiplatform fun w hw => typed.flags w (by simp [hw])
  obtain ⟨immutable, him, jim⟩ := h.exists_flag (v := s.immutableRecords)
    (by simp [Supplied.singles]) described.immutableRecords fun w hw => typed.flags w (by simp [hw])
  obtain ⟨unchecked, hoc, joc⟩ := h.exists_flag (v := s.omitChecksums)
    (by simp [Supplied.singles]) described.omitChecksums fun w hw => typed.flags w (by simp [hw])
  obtain ⟨cleaner, hjc, jjc⟩ := h.exists_flag (v := s.disableJavaCleaner)
    (by simp [Supplied.singles]) described.disableJavaCleaner
    fun w hw => typed.flags w (by simp [hw])
  obtain ⟨serializable, hst, jst⟩ := h.exists_flag (v := s.serializableTypes)
    (by simp [Supplied.singles]) described.serializableTypes
    fun w hw => typed.flags w (by simp [hw])
  obtain ⟨pascal, hpc, jpc⟩ := h.exists_flag (v := s.pascalCaseEnums)
    (by simp [Supplied.singles]) described.pascalCaseEnums fun w hw => typed.flags w (by simp [hw])
  obtain ⟨version, htv, jtv⟩ := Merge.exists_text h.targetVersion
    (fun w hw => described.targetVersion.isSome hw) fun w hw => text?_of_versionGiven typed hw
  -- The targets, which have names in both lists.
  obtain ⟨names, targets, hnames, htargets, -⟩ := described.targets
  obtain ⟨targets', htargets'⟩ := exists_targetsOf typed
  obtain rfl : names = textsOf (own.given? "kotlin_targets") := hnames.eq_getD
  obtain ⟨joined, hjoined, jjoined⟩ := exists_targets
    (h.givesOr_list (v := s.targets) (by simp [Supplied.lists])) htargets htargets'
  -- The tables.
  obtain ⟨united, hunited, hcu⟩ := h.customTypes
  obtain ⟨customs, hcustoms, jcustoms⟩ :=
    exists_customTypes hunited hcu (entry_of_union described typed)
  obtain ⟨entries, hentries, hu⟩ := h.externalPackages
  rw [entriesOf_packages described.externalPackages] at hu
  refine ⟨⟨packageName, cdylibName, multiplatform, joined,
    Assoc.union own'.externalPackages found, immutable, unchecked, customs, version, cleaner,
    serializable, pascal, _, _, _⟩, ⟨hpn, hcn, hmp, hjoined, exists_packages hentries hu, him,
    hoc, hcustoms, htv, hjc, hst, hpc,
    h.givesOr_list (v := s.jvmLibraries) (by simp [Supplied.lists]),
    h.givesOr_list (v := s.androidLibraries) (by simp [Supplied.lists]),
    h.givesOr_list (v := s.sharedLibraries) (by simp [Supplied.lists])⟩, ?_⟩
  refine ⟨jpn, jcn, jmp, jim, joc, jjc, jst, jpc, jtv, jjoined, rfl, rfl, rfl, ?_, jcustoms⟩
  rw [entriesOf_packages described.externalPackages, packageTable_union]

end Settings

/-! ## Merging, then resolving -/

/-- When a document names its crate, what it tells about packages has a text. -/
def Tellable (d : Document) : Prop :=
  ∀ crate nested, (d.get? "crate_name").bind Value.text? = some crate →
    (((d.get? "bindings").bind Value.table?).bind fun bindings => bindings.get? "kotlin").bind
      Value.table? = some nested →
    ∀ e ∈ entriesOf (nested.get? "external_packages"), ∃ entry, shownEntry e = .ok entry

/-- A document that can be told contributes something, if only nothing. -/
theorem Tellable.contribution_ok {d : Document} (h : Tellable d) :
    ∃ told, contribution d = .ok told := by
  unfold contribution
  cases hc : (d.get? "crate_name").bind Value.text? with
  | none => exact ⟨none, rfl⟩
  | some crate =>
    cases hn : (((d.get? "bindings").bind Value.table?).bind
        fun bindings => bindings.get? "kotlin").bind Value.table? with
    | none => exact ⟨none, rfl⟩
    | some nested =>
      obtain ⟨others, hothers⟩ := exists_forall₂ (h crate nested hc hn)
      exact ⟨_, bind_ok_iff.2 ⟨others, mapM_ok_iff.2 hothers, rfl⟩⟩

/-- A document with a merged one's settings resolves to what joins the settings of its base, the
supplied ones and the packages of other components, when those documents are there and what they
tell has a text. -/
theorem resolve_merge {α : Type} {load : α → Except Failure Document} {files : List α}
    {base : Option Document} {s : Supplied} {source : Option Text} {own : Config}
    (accepted : Config.resolve (base.getD Document.empty) false source = .ok own)
    (typed : s.WellTyped)
    (tell : ∀ file ∈ files, ∃ d, load file = .ok d ∧ Tellable d) :
    ∃ selection found merged c,
      select (base.getD Document.empty) source = .ok selection ∧
      harvest load (fun _ => .ok ()) files = .ok found ∧
      merge base s (if files.isEmpty then none
        else some (harvest load (fun _ => .ok ()) files)) = .ok merged ∧
      Config.resolve merged false source = .ok c ∧
      Config.Joins selection.table s found c := by
  obtain ⟨selection, hselect, described⟩ := Config.resolve_ok_iff.1 accepted
  have tells : ∀ file ∈ files, ∃ d told, load file = .ok d ∧ contribution d = .ok told := by
    intro file hfile
    obtain ⟨d, hload, htell⟩ := tell file hfile
    obtain ⟨told, htold⟩ := htell.contribution_ok
    exact ⟨d, told, hload, htold⟩
  obtain ⟨found, hfound, distinct⟩ :
      ∃ found, harvest load (fun _ => .ok ()) files = .ok found ∧ Assoc.Distinct found :=
    harvest_ok (fun _ => rfl) tells
  have told : (if files.isEmpty then none else some (harvest load (fun _ => .ok ()) files)) = none ∧
      found = [] ∨
      (if files.isEmpty then none else some (harvest load (fun _ => .ok ()) files)) =
        some (.ok found) := by
    cases files with
    | nil => exact .inl ⟨rfl, (Except.ok.inj hfound).symm⟩
    | cons file files => exact .inr (congrArg some hfound)
  obtain ⟨merged, hmerged, settled⟩ := settings_found described typed told distinct
  obtain ⟨c, hc, joins⟩ := settled.exists_joins described typed
  refine ⟨selection, found, placed (base.getD Document.empty) s merged, c, hselect, hfound, ?_,
    Config.resolve_ok_iff.2 ⟨⟨.nested, merged⟩, select_placed _ s merged source, hc⟩, joins⟩
  simp only [merge, select_source hselect none]
  exact bind_ok_iff.2 ⟨merged, hmerged, rfl⟩

/-- A document that names its crate and the package of another one. -/
def sibling (package : Value) : Document := [
  (.text "crate_name", .text "sibling"),
  (.text "bindings", .table none [
    (.text "kotlin", .table none [
      (.text "external_packages", .table none [(.text "other", package)])])])]

/-- A flat document. -/
def flatBase : Document := [
  (.text "package_name", .text "own"), (.text "kotlin_targets", .list none [.text "native"])]

/-- Supplied values for settings that the flat document has too. -/
def spare : Supplied :=
  { packageName := some (.text "spare"), targets := some (.list none [.text "jvm"]) }

/-- A flat document is merged with supplied values and with what one other document tells. -/
theorem resolve_merge_flatBase :
    ∃ selection found merged c,
      select flatBase none = .ok selection ∧
      harvest (m := Except Failure) (fun _ => .ok (sibling (.text "kept"))) (fun _ => .ok ())
        [()] = .ok found ∧
      merge (some flatBase) spare (some (harvest (m := Except Failure)
        (fun _ => .ok (sibling (.text "kept"))) (fun _ => .ok ()) [()])) = .ok merged ∧
      Config.resolve merged false none = .ok c ∧
      Config.Joins selection.table spare found c := by
  have accepted : Config.resolve ((some flatBase).getD Document.empty) false none =
      .ok { packageName := some "own", targets := [.native] } := by rfl
  refine resolve_merge accepted ⟨?_, ?_, ?_, ?_, ?_⟩ ?_
  · simp [spare, Value.text?]
  · simp [spare]
  · simp [spare]
  · intro v hv
    obtain rfl := Option.some.inj hv
    exact ⟨["jvm"], [.jvm], rfl, .cons (by decide) .nil⟩
  · simp [spare]
  · intro file _
    refine ⟨_, rfl, ?_⟩
    rintro crate nested - hn e he
    obtain rfl := Option.some.inj hn
    obtain rfl := List.mem_singleton.1 he
    exact ⟨("other", "kept"), rfl⟩

/-- A sibling whose package has no text contributes a fault. -/
theorem contribution_sibling {v : Value} {f : Fault} (hv : v.shown = .error f) :
    contribution (sibling v) = .error f := by
  have entry : shownEntry (.text "other", v) = .error f := by
    show (do return (Text.ofString "other", ← v.shown)) = _
    rw [hv]
    rfl
  show (do return some ([] ++ (← List.mapM shownEntry [(.text "other", v)]))) = _
  rw [List.mapM_cons, entry]
  rfl

/-- Harvesting fails where a package has no text. -/
theorem harvest_sibling {v : Value} {f : Fault} (hv : v.shown = .error f) :
    harvest (m := Except Failure) (fun _ => .ok (sibling v)) (fun _ => .ok ()) [()] =
      .error (.fault f) := by
  have failed : (combined (contribution (sibling v)) : Except Failure (Option Packages)) =
      .error (.fault f) := by
    rw [contribution_sibling hv]
    rfl
  unfold harvest
  simp only [List.foldlM_cons, bind, Except.bind, failed]

/-- A whole number may be too long to have a text. Then merging fails, although the document that
holds it is there and all that is merged with it is accepted. -/
theorem merge_textless_package :
    Config.resolve Document.empty false none = .ok {} ∧ Supplied.WellTyped {} ∧
      merge none {} (some (harvest (m := Except Failure)
        (fun _ => .ok (sibling (.scalar (.int leastTextless)))) (fun _ => .ok ()) [()])) =
      .error (.fault (.unconvertible .integerSize)) := by
  refine ⟨rfl, ⟨by simp, by simp, by simp, by simp, by simp⟩, ?_⟩
  rw [harvest_sibling (Value.shown_of_textless (Nat.le_refl _))]
  rfl

end Merge
end Bindery
