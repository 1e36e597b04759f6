import Bindery.Proofs.Kotlin.Libraries
import Bindery.Proofs.Merge.Stages

/-!
# Merging the same settings again

A document that was merged with supplied settings holds them (`Found.absorbed`), and merging it
with the same ones again changes no setting but the lists of libraries (`Joins.eq_of_absorbed`).
These grow with every merge, by libraries that they have, so every platform still loads the same
ones and the same sources are generated (`merge_again`).
-/

namespace Bindery.Merge

open Outcome

/-- Settings that hold the supplied ones and the packages of other components: with them, nothing
new is merged. -/
structure Absorbed (own : Table) (s : Supplied) (found : Packages) : Prop where
  single : ∀ e ∈ s.singles, (own.given? e.1).or e.2 = own.given? e.1
  list : ∀ e ∈ s.lists, textsOf e.2 ⊆ textsOf (own.given? e.1)
  customTypes : Assoc.union (entriesOf (own.given? "custom_types")) (entriesOf s.customTypes) =
    entriesOf (own.given? "custom_types")
  externalPackages : Assoc.union (entriesOf (own.given? "external_packages")) (packageTable found) =
    entriesOf (own.given? "external_packages")
  targetVersion :
    (own.given? "kotlin_target_version").or s.versionGiven = own.given? "kotlin_target_version"

section Step

variable {own merged : Table} {s : Supplied} {found : Packages}

/-- Well-typed single settings are not null. -/
theorem isNull_of_single (typed : s.WellTyped) :
    ∀ e ∈ s.singles, ∀ w, e.2 = some w → w.isNull = false :=
  forall_singles (fun w hw => isNull_of_text (typed.texts w hw))
    fun w hw => isNull_of_bool (typed.flags w hw)

/-- The keys of well-typed custom types are texts. -/
theorem key_of_customTypes (typed : s.WellTyped) :
    ∀ e ∈ entriesOf s.customTypes, ∃ name, e.1 = Value.text name := by
  refine forall_entriesOf fun w t hw ht e he => ?_
  obtain ⟨t', ht', -, entry⟩ := typed.customTypes w hw
  obtain rfl := Option.some.inj (ht'.symm.trans ht)
  obtain ⟨name, custom, hname, -⟩ := entry e he
  exact ⟨name, hname⟩

/-- Packages stand under texts. -/
theorem key_of_packageTable : ∀ e ∈ packageTable found, ∃ name, e.1 = Value.text name := by
  intro e he
  obtain ⟨e', -, rfl⟩ := List.mem_map.1 he
  exact ⟨_, rfl⟩

/-- A table that another one was united with has nothing to add. -/
theorem union_union_self (left : Table) {right : Table}
    (texts : ∀ e ∈ right, ∃ name, e.1 = Value.text name) :
    Assoc.union (Assoc.union left right) right = Assoc.union left right := by
  apply Assoc.union_union_self
  · intro e he
    obtain ⟨name, hname⟩ := texts e he
    rw [hname, Value.same_text, Text.same_self]
  · intro e he e' he' same
    obtain ⟨name, hname⟩ := texts e he
    obtain ⟨name', hname'⟩ := texts e' he'
    rw [hname, hname', Value.same_text] at same
    rw [hname, hname', beq_iff_eq.1 same]

/-- Merged settings hold what they were merged with. -/
theorem Found.absorbed (typed : s.WellTyped) (h : Found own s found merged) :
    Absorbed merged s found where
  single e he := by
    rw [h.single e he (isNull_of_single typed e he), Option.or_assoc, Option.or_self]
  list e he := by
    obtain ⟨items, hitems, -, ht⟩ := h.list e he
    rw [hitems, ht]
    exact List.subset_append_right _ _
  customTypes := by
    obtain ⟨entries, hentries, hu⟩ := h.customTypes
    rw [hentries, hu, union_union_self _ (key_of_customTypes typed)]
  externalPackages := by
    obtain ⟨entries, hentries, hu⟩ := h.externalPackages
    rw [hentries, hu, union_union_self _ key_of_packageTable]
  targetVersion := by
    rw [h.targetVersion, Option.or_assoc, Option.or_self]

/-- Different packages make different tables. -/
theorem packageTable_injective : Function.Injective packageTable :=
  List.map_injective_iff.2 fun e e' h => by
    simp only [Prod.mk.injEq, Value.text, Value.scalar.injEq, Scalar.text.injEq] at h
    exact Prod.ext h.1 h.2

/-- A text setting that absorbs the supplied one stays. -/
theorem text_of_absorbed {key : Text} {v : Option Value} {a a' : Option Text}
    (given : own.Gives key Value.text? a) (joined : a'.map Value.text = (own.given? key).or v)
    (absorbed : (own.given? key).or v = own.given? key) : a' = a := by
  have same : a'.map Value.text = a.map Value.text := by
    rw [joined, absorbed, (Table.gives_iff_of_encode Value.text?_eq_some).1 given]
  exact Option.map_injective (fun _ _ h => by injection h with h; injection h) same

/-- So does a flag. -/
theorem flag_of_absorbed {key : Text} {v : Option Value} {b b' : Bool}
    (given : own.GivesOr key Value.bool? false b)
    (joined : Value.bool b' = ((own.given? key).or v).getD (.bool false))
    (absorbed : (own.given? key).or v = own.given? key) : b' = b := by
  obtain ⟨a, ha, rfl⟩ := given
  rw [absorbed, (Table.gives_iff_of_encode Value.bool?_eq_some).1 ha] at joined
  cases a with
  | none => injection joined with h; injection h
  | some b => injection joined with h; injection h

/-- What joins settings that have absorbed the supplied ones is the configuration that they
describe, with more libraries. -/
theorem eq_of_absorbed {c c' : Config} (described : Config.Describes own c)
    (joins : Config.Joins own s found c') (absorbed : Absorbed own s found) :
    c' = c.withLibraries (c.jvmLibraries ++ textsOf s.jvmLibraries)
      (c.androidLibraries ++ textsOf s.androidLibraries)
      (c.sharedLibraries ++ textsOf s.sharedLibraries) := by
  have single {key : Text} {v : Option Value} (he : (key, v) ∈ s.singles) :
      (own.given? key).or v = own.given? key := absorbed.single _ he
  have targets : c'.targets = c.targets := by
    obtain ⟨names, found, hnames, hfound, hc⟩ := described.targets
    obtain rfl : names = textsOf (own.given? "kotlin_targets") := hnames.eq_getD
    have known : textsOf s.targets ⊆ textsOf (own.given? "kotlin_targets") :=
      absorbed.list ("kotlin_targets", s.targets) (by simp [Supplied.lists])
    apply List.map_injective_iff.2 Target.name_injective
    rw [joins.targets, Sequence.distinct_append_of_subset known, ← hc,
      Sequence.map_distinct Target.name_injective, hfound.map_name]
  have packages : c'.externalPackages = c.externalPackages := by
    apply packageTable_injective
    rw [joins.externalPackages, absorbed.externalPackages,
      entriesOf_packages described.externalPackages]
  have customs : c'.customTypes = c.customTypes := by
    obtain ⟨entries, found, hentries, hfound, hc⟩ := described.customTypes
    obtain rfl : entries = entriesOf (own.given? "custom_types") := hentries.eq_getD
    have own' : Reader.customTypes ⟨[(.text "custom_types", .table none
        (entriesOf (own.given? "custom_types")))], none, ""⟩ "custom_types" = .ok c.customTypes :=
      Reader.customTypes_ok_iff.2 ⟨_, found, ⟨some _, rfl, rfl⟩, hfound, hc⟩
    have joined := joins.customTypes
    rw [absorbed.customTypes, own'] at joined
    exact (Except.ok.inj joined).symm
  calc c'
      = ⟨c'.packageName, c'.cdylibName, c'.multiplatform, c'.targets, c'.externalPackages,
          c'.immutableRecords, c'.omitChecksums, c'.customTypes, c'.targetVersion,
          c'.disableJavaCleaner, c'.serializableTypes, c'.pascalCaseEnums, c'.jvmLibraries,
          c'.androidLibraries, c'.sharedLibraries⟩ := rfl
    _ = _ := by
      rw [
        text_of_absorbed described.packageName joins.packageName
          (single (by simp [Supplied.singles])),
        text_of_absorbed described.cdylibName joins.cdylibName
          (single (by simp [Supplied.singles])),
        flag_of_absorbed described.multiplatform joins.multiplatform
          (single (by simp [Supplied.singles])), targets, packages,
        flag_of_absorbed described.immutableRecords joins.immutableRecords
          (single (by simp [Supplied.singles])),
        flag_of_absorbed described.omitChecksums joins.omitChecksums
          (single (by simp [Supplied.singles])), customs,
        text_of_absorbed described.targetVersion joins.targetVersion absorbed.targetVersion,
        flag_of_absorbed described.disableJavaCleaner joins.disableJavaCleaner
          (single (by simp [Supplied.singles])),
        flag_of_absorbed described.serializableTypes joins.serializableTypes
          (single (by simp [Supplied.singles])),
        flag_of_absorbed described.pascalCaseEnums joins.pascalCaseEnums
          (single (by simp [Supplied.singles])), joins.jvmLibraries, joins.androidLibraries,
        joins.sharedLibraries, described.jvmLibraries.eq_getD, described.androidLibraries.eq_getD,
        described.sharedLibraries.eq_getD]
      rfl

end Step

/-! ## Merging again and again -/

section Run

variable {α : Type} {load : α → Except Failure Document} {s : Supplied} {files : List α}
variable {packages : Option Packages}

/-- The packages that files tell do not name a crate twice. -/
theorem distinct_told (h : told load files = packages.map Except.ok) :
    Assoc.Distinct (packages.getD []) := by
  cases packages with
  | none => exact .nil
  | some found =>
    unfold told at h
    split at h
    · cases h
    · obtain ⟨tolds, -, rfl⟩ := (harvest_ok_iff fun _ => rfl).1 (Option.some.inj h)
      exact Assoc.distinct_union .nil _

/-- A document whose settings have absorbed the supplied ones, and what it resolves to. -/
def Saturated (s : Supplied) (found : Packages) (d : Document) (c : Config) : Prop :=
  ∃ selection, select d none = .ok selection ∧ Config.Describes selection.table c ∧
    Absorbed selection.table s found

/-- A document that already has all that is supplied resolves to the configuration it describes. -/
theorem Saturated.resolve {found : Packages} {d : Document} {c : Config}
    (h : Saturated s found d c) (force : Bool) (source : Option Text) :
    Config.resolve d force source = .ok (if force then c.forced else c) := by
  obtain ⟨selection, hselect, described, -⟩ := h
  simp only [Config.resolve, bind_ok_iff, config_ok_iff, pure_ok_iff]
  exact ⟨selection, select_source hselect source, c, Config.ofTable_ok_iff.2 described, rfl⟩

/-- Merging saturates a document. -/
theorem mergeFiles_saturated {base : Option Document} {selection : Selection} {own : Config}
    (selected : select (base.getD Document.empty) none = .ok selection)
    (described : Config.Describes selection.table own) (typed : s.WellTyped)
    (htold : told load files = packages.map Except.ok) :
    ∃ merged c, mergeFiles load base s files = .ok merged ∧
      Saturated s (packages.getD []) merged c ∧
      Config.Joins selection.table s (packages.getD []) c := by
  have told' : told load files = none ∧ packages.getD [] = [] ∨
      told load files = some (.ok (packages.getD [])) := by
    cases packages with
    | none => exact .inl ⟨htold, rfl⟩
    | some found => exact .inr htold
  obtain ⟨merged, hmerged, found⟩ := settings_found described typed told' (distinct_told htold)
  obtain ⟨c, hc, joins⟩ := found.exists_joins described typed
  exact ⟨_, c, mergeFiles_ok_iff.2 ⟨selection, merged, selected, hmerged, rfl⟩,
    ⟨⟨.nested, merged⟩, select_placed _ s merged none, hc, found.absorbed typed⟩, joins⟩

/-- Merging a saturated document with the same settings keeps it saturated, and changes its
libraries only. -/
theorem Saturated.step {d : Document} {c : Config} (typed : s.WellTyped)
    (htold : told load files = packages.map Except.ok) (h : Saturated s (packages.getD []) d c) :
    ∃ d' c', mergeFiles load (some d) s files = .ok d' ∧ Saturated s (packages.getD []) d' c' ∧
      c.LoadsAlike c' := by
  obtain ⟨selection, hselect, described, absorbed⟩ := h
  have selected : select ((some d).getD Document.empty) none = .ok selection := hselect
  obtain ⟨d', c', hmerge, saturated, joins⟩ :=
    mergeFiles_saturated selected described typed htold
  obtain rfl := eq_of_absorbed described joins absorbed
  have known {key : Text} {v : Option Value} (he : (key, v) ∈ s.lists) :
      textsOf v ⊆ ((selection.table.given? key).bind Value.texts?).getD [] := absorbed.list _ he
  refine ⟨d', _, hmerge, saturated, ⟨_, _, _, rfl⟩, Kotlin.librariesFor_append ?_ ?_ ?_⟩
  · rw [described.jvmLibraries.eq_getD]
    exact known (by simp [Supplied.lists])
  · rw [described.androidLibraries.eq_getD]
    exact known (by simp [Supplied.lists])
  · rw [described.sharedLibraries.eq_getD]
    exact known (by simp [Supplied.lists])

/-- Merges a document with the same settings a number of times. -/
def mergeAgain (load : α → Except Failure Document) (s : Supplied) (files : List α) :
    Nat → Document → Except Failure Document
  | 0, d => .ok d
  | n + 1, d => do mergeAgain load s files n (← mergeFiles load (some d) s files)

/-- Saturated documents stay saturated, however often they are merged. -/
theorem Saturated.run {d : Document} {c : Config} (typed : s.WellTyped)
    (htold : told load files = packages.map Except.ok) (h : Saturated s (packages.getD []) d c)
    (n : Nat) :
    ∃ d' c', mergeAgain load s files n d = .ok d' ∧ Saturated s (packages.getD []) d' c' ∧
      c.LoadsAlike c' := by
  induction n generalizing d c with
  | zero => exact ⟨d, c, rfl, h, .refl c⟩
  | succ n ih =>
    obtain ⟨d', c', hmerge, saturated, alike⟩ := h.step typed htold
    obtain ⟨d'', c'', hagain, saturated', alike'⟩ := ih saturated
    exact ⟨d'', c'', bind_ok_iff.2 ⟨d', hmerge, hagain⟩, saturated', alike.trans alike'⟩

end Run

/-- Once a document is merged with settings, merging it with the same ones, however often, ends
well and changes nothing about the build: the configuration differs in the lists of libraries only,
every platform loads the same ones, and the same sources are generated. -/
theorem merge_again [Stack] {α : Type} {load : α → Except Failure Document} {base : Option Document}
    {s : Supplied} {files : List α} {once : Document} {source : Option Text} {own : Config}
    (accepted : Config.resolve (base.getD Document.empty) false source = .ok own)
    (typed : s.WellTyped) (first : mergeFiles load base s files = .ok once) (force : Bool) :
    ∃ c, Config.resolve once force source = .ok c ∧ ∀ n, ∃ again c',
      mergeAgain load s files n once = .ok again ∧
      Config.resolve again force source = .ok c' ∧
      c.LoadsAlike c' ∧
      ∀ emitStub i, Bundle.generate emitStub c' i = Bundle.generate emitStub c i := by
  obtain ⟨selection, hselect, described⟩ := Config.resolve_ok_iff.1 accepted
  obtain ⟨selection', settled, -, hsettings, -⟩ := mergeFiles_ok_iff.1 first
  obtain ⟨packages, -, -, -, -, htold, -, -⟩ := settings_ok_iff.1 hsettings
  obtain ⟨merged, c, hmerge, saturated, -⟩ :=
    mergeFiles_saturated (select_source hselect none) described typed htold
  obtain rfl := Except.ok.inj (first.symm.trans hmerge)
  refine ⟨_, saturated.resolve force source, fun n => ?_⟩
  obtain ⟨again, c', hagain, saturated', alike⟩ := saturated.run typed htold n
  have built : (if force then c.forced else c).LoadsAlike (if force then c'.forced else c') := by
    cases force with
    | false => exact alike
    | true => exact alike.forced
  exact ⟨again, _, hagain, saturated'.resolve force source, built, built.generate_eq⟩

/-- Supplied libraries, one of them twice. -/
def shelved : Supplied :=
  { targets := some (.list none [.text "native", .text "jvm"])
    sharedLibraries := some (.list none [.text "m", .text "m"]) }

/-- The targets are listed once more with every merge, and so are the libraries. -/
theorem merge_again_flatBase :
    ∃ once c, mergeFiles (fun _ : Unit => .ok (sibling (.text "kept"))) (some flatBase) shelved
        [()] = .ok once ∧
      Config.resolve once false none = .ok c ∧ ∀ n, ∃ again c',
      mergeAgain (fun _ : Unit => .ok (sibling (.text "kept"))) shelved [()] n once = .ok again ∧
      Config.resolve again false none = .ok c' ∧
      c.LoadsAlike c' ∧
      ∀ emitStub i, Bundle.generate emitStub c' i = Bundle.generate emitStub c i := by
  have accepted : Config.resolve ((some flatBase).getD Document.empty) false none =
      .ok { packageName := some "own", targets := [.native] } := by rfl
  have typed : shelved.WellTyped := by
    refine ⟨by simp [shelved], by simp [shelved], ?_, ?_, by simp [shelved]⟩
    · intro v hv
      obtain rfl : v = .list none [.text "m", .text "m"] := by simpa [shelved] using hv
      rfl
    · intro v hv
      obtain rfl := Option.some.inj hv
      exact ⟨["native", "jvm"], [.native, .jvm], rfl, .cons (by decide) (.cons (by decide) .nil)⟩
  obtain ⟨once, first⟩ : ∃ once, mergeFiles (fun _ : Unit => .ok (sibling (.text "kept")))
      (some flatBase) shelved [()] = .ok once := exists_of_isOk (by decide +kernel)
  obtain ⟨c, hc, again⟩ := merge_again accepted typed first false
  exact ⟨once, c, first, hc, again⟩

end Bindery.Merge
