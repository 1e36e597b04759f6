import Mathlib
import Bindery.Proofs.Config.Alike
import Bindery.Proofs.Config.Saving
import Bindery.Proofs.Merge.Composing
import Bindery.Proofs.Merge.Repeating

/-!
# A merged document is read back by all its readers

Merging a plain document and plain supplied settings gives a plain document that tells its settings,
whatever they say (`mergeFiles_holds`). Once it is saved, the document that is loaded is alike,
resolves to the same configuration, and tells other components the package of its crate and those
that it refers to (`save_merged`).
-/

namespace Bindery

open Outcome

/-- Supplied values of the kinds that their settings ask for: texts, truth values, lists of texts,
and a table of plain values. Nothing is asked of what the texts say. -/
structure Supplied.Plain (s : Supplied) : Prop where
  texts : ∀ v, some v ∈ [s.crateName, s.packageRoot, s.packageName, s.cdylibName,
    s.targetVersion] → v.text?.isSome
  flags : ∀ v, some v ∈ [s.multiplatform, s.immutableRecords, s.omitChecksums,
    s.disableJavaCleaner, s.serializableTypes, s.pascalCaseEnums] → v.bool?.isSome
  lists : ∀ v, some v ∈ [s.targets, s.jvmLibraries, s.androidLibraries, s.sharedLibraries] →
    v.texts?.isSome
  customTypes : ∀ v, s.customTypes = some v → v.Plain ∧ v.table?.isSome

namespace Merge

/-! ## Merged documents are plain -/

section Plain

/-- What is present is plain when its keys differ and its parts are plain. -/
theorem present_plain {entries : List (Text × Option Value)}
    (nodup : (entries.map Prod.fst).Nodup) (parts : ∀ e ∈ entries, ∀ v, e.2 = some v → v.Plain) :
    Table.Plain (present entries) := by
  refine ⟨⟨fun k hk => ?_, ?_⟩, fun e he => ?_⟩
  · obtain ⟨e, he, rfl⟩ := List.mem_map.1 hk
    obtain ⟨f, -, h⟩ := List.mem_filterMap.1 he
    obtain ⟨v, -, rfl⟩ := Option.map_eq_some_iff.1 h
    exact ⟨f.1, rfl⟩
  · rw [List.Nodup, List.pairwise_map] at nodup
    rw [List.Nodup, List.pairwise_map, present, List.pairwise_filterMap]
    refine nodup.imp fun {f f'} apart e he e' he' same => apart ?_
    obtain ⟨v, -, rfl⟩ := Option.map_eq_some_iff.1 he
    obtain ⟨v', -, rfl⟩ := Option.map_eq_some_iff.1 he'
    exact Scalar.text.inj (Value.scalar.inj same)
  · obtain ⟨f, hf, h⟩ := List.mem_filterMap.1 he
    obtain ⟨v, hv, rfl⟩ := Option.map_eq_some_iff.1 h
    exact parts f hf v hv

/-- Packages without a crate twice make a plain table. -/
theorem packageTable_plain {found : Packages} (distinct : Assoc.Distinct found) :
    Table.Plain (packageTable found) where
  named := (Table.named_iff_distinct key_of_packageTable).2
    (Assoc.distinct_map Value.same_text distinct)
  parts e he := by
    obtain ⟨f, -, rfl⟩ := List.mem_map.1 he
    exact .text f.2

/-- The entries of a plain value are plain. -/
theorem entriesOf_plain {v : Option Value} (h : ∀ w, v = some w → w.Plain) :
    Table.Plain (entriesOf v) := by
  cases v with
  | none => exact .nil
  | some w =>
    cases ht : w.table? with
    | none =>
      rw [entriesOf, Option.bind_some, ht]
      exact .nil
    | some t =>
      rw [entriesOf, Option.bind_some, ht]
      exact (h w rfl).of_table? ht

variable {own : Table} {own' : Config} {s : Supplied} {packages : Option Packages}
variable {ls : List (Text × Option Value)} {ct ep : Option Table} {version : Option Value}

/-- Single values that are supplied are plain. -/
theorem plain_of_single (given : s.Plain) : ∀ e ∈ s.singles, ∀ v, e.2 = some v → v.Plain :=
  forall_singles (fun v hv => .of_text? (given.texts v hv)) fun v hv =>
    .of_bool? (given.flags v hv)

/-- So are lists that are merged of plain ones. -/
theorem plain_of_lists (described : Config.Describes own own') (given : s.Plain)
    (h : lists own s = .ok ls) : ∀ e ∈ ls, ∀ v, e.2 = some v → v.Plain := by
  intro e he v hv
  obtain ⟨e', he', items, hitems, rfl⟩ := exists_of_mem_lists h he
  obtain ⟨items', hitems', texts, -⟩ :=
    mergeList_texts (own_lists described e' he') (forall_lists given.lists e' he')
  obtain rfl := Except.ok.inj (hitems.symm.trans hitems')
  obtain ⟨xs, hxs⟩ := Option.isSome_iff_exists.1 (texts v hv)
  obtain ⟨mark, rfl⟩ := Value.texts?_eq_some.1 hxs
  exact .list_text mark xs

/-- What two tables are combined to is their union. -/
theorem entriesOf_mergeTable {a b : Option Value} {entries : Option Table}
    (ha : ∀ v, a = some v → v.table?.isSome) (hb : ∀ v, b = some v → v.table?.isSome)
    (distinct : Assoc.Distinct (entriesOf b)) (h : mergeTable a b = .ok entries) :
    entriesOf (entries.map (Value.table none)) = Assoc.union (entriesOf a) (entriesOf b) := by
  obtain ⟨united, hunited, hu⟩ := mergeTable_tables ha hb distinct
  obtain rfl := Except.ok.inj (h.symm.trans hunited)
  exact hu

/-- A table that was united from plain ones is plain. -/
theorem plain_of_tables {a b : Option Value} {entries : Option Table}
    (ha : ∀ v, a = some v → v.Plain ∧ v.table?.isSome)
    (hb : ∀ v, b = some v → v.Plain ∧ v.table?.isSome) (h : mergeTable a b = .ok entries) :
    ∀ v, entries.map (Value.table none) = some v → v.Plain := by
  have right := entriesOf_plain fun v hv => (hb v hv).1
  have united := entriesOf_mergeTable (fun v hv => (ha v hv).2) (fun v hv => (hb v hv).2)
    right.named.distinct h
  intro v hv
  obtain ⟨t, rfl, rfl⟩ := Option.map_eq_some_iff.1 hv
  obtain rfl : t = Assoc.union (entriesOf a) (entriesOf b) := united
  exact ((entriesOf_plain fun v hv => (ha v hv).1).union right).value none

/-- External packages that are read are a table. -/
theorem table?_of_packages {xs : Packages} {key : Text}
    (h : own.GivesOr key Reader.textEntries? [] xs) :
    ∀ v, own.given? key = some v → v.table?.isSome := by
  intro v hv
  obtain ⟨ys, hys⟩ := Option.isSome_iff_exists.1 (h.isSome hv)
  obtain ⟨t, ht, -⟩ := Option.bind_eq_some_iff.1 hys
  exact ht ▸ rfl

/-- The packages of other components, as a table to be united with another one. -/
theorem entriesOf_found (packages : Option Packages) :
    entriesOf (packages.map fun found => .table none (packageTable found)) =
      packageTable (packages.getD []) := by
  cases packages <;> rfl

/-- The external packages of merged settings are those of the base, and then those of other
components. -/
theorem Settled.tells (h : Settled own s packages ls ct ep version)
    (described : Config.Describes own own') (distinct : Assoc.Distinct (packages.getD [])) :
    (present (assembled own s ls ct ep version)).GivesOr "external_packages" Reader.textEntries? []
      (Assoc.union own'.externalPackages (packages.getD [])) := by
  have tables : ∀ w, (packages.map fun found => Value.table none (packageTable found)) = some w →
      w.table?.isSome := by
    intro w hw
    obtain ⟨found, -, rfl⟩ := Option.map_eq_some_iff.1 hw
    rfl
  have apart : Assoc.Distinct
      (entriesOf (packages.map fun found => Value.table none (packageTable found))) := by
    rw [entriesOf_found]
    exact (packageTable_plain distinct).named.distinct
  have united := entriesOf_mergeTable (table?_of_packages described.externalPackages) tables apart
    h.externalPackages
  rw [entriesOf_found, entriesOf_packages described.externalPackages] at united
  exact exists_packages h.given?_externalPackages united

/-- Settings that are merged from plain ones are plain. -/
theorem Settled.plain (h : Settled own s packages ls ct ep version) (plain : own.Plain)
    (described : Config.Describes own own') (given : s.Plain)
    (distinct : Assoc.Distinct (packages.getD [])) :
    Table.Plain (present (assembled own s ls ct ep version)) := by
  have ownTables {key : Text} (tables : ∀ v, own.given? key = some v → v.table?.isSome) :
      ∀ v, own.given? key = some v → v.Plain ∧ v.table?.isSome :=
    fun v hv => ⟨plain.given? hv, tables v hv⟩
  refine present_plain (h.keys ▸ nodup_settingKeys) (forall_assembled (fun _ _ => plain.given?)
    (plain_of_single given) (plain_of_lists described given h.lists) ?_ ?_ ?_)
  · rintro t rfl
    obtain ⟨_, _, hentries, -⟩ := described.customTypes
    exact plain_of_tables (ownTables fun _ => hentries.isSome) given.customTypes h.customTypes _ rfl
  · rintro t rfl
    refine plain_of_tables (ownTables (table?_of_packages described.externalPackages))
      (fun w hw => ?_) h.externalPackages _ rfl
    obtain ⟨found, rfl, rfl⟩ := Option.map_eq_some_iff.1 hw
    exact ⟨(packageTable_plain distinct).value none, rfl⟩
  · rintro v rfl
    exact .of_text? (given.texts v (by simp [Supplied.version?_eq_some h.version]))

/-- A plain document with plain settings in their place is plain. -/
theorem placed_plain {base settled : Table} (plain : base.Plain) (given : s.Plain)
    (settings : settled.Plain) : Table.Plain (placed base s settled) := by
  have name : ∀ v, s.crateName = some v → v.Plain := fun v hv =>
    .of_text? (given.texts v (by simp [hv]))
  have root : ∀ v, s.packageRoot = some v → v.Plain := fun v hv =>
    .of_text? (given.texts v (by simp [hv]))
  have bindings : Table.Plain (entriesOf (base.get? "bindings")) :=
    entriesOf_plain fun v => plain.get?
  rw [placed_eq]
  exact ((plain.replace _ name).replace _ root).put _
    ((bindings.put "kotlin" (settings.value none)).value none)

end Plain

/-! ## What a merged document holds -/

/-- The crate of a merged document is the one that is supplied. -/
theorem get?_crateName_placed (base : Table) (s : Supplied) (settled : Table) :
    (placed base s settled).get? "crate_name" = s.crateName := by
  rw [placed_eq, Table.get?_put_of_ne (by decide), Table.get?_replace_of_ne (by decide),
    Table.get?_replace_self]

/-- The settings of a merged document, the package of its crate and the packages of others. -/
structure Holds (m : Document) (s : Supplied) (settled : Table) (package : Option Text)
    (packages : Packages) : Prop where
  plain : m.Plain
  crateName : m.get? "crate_name" = s.crateName
  selected : ∀ source, select m source = .ok ⟨.nested, settled⟩
  package : settled.Gives "package_name" Value.text? package
  packages : settled.GivesOr "external_packages" Reader.textEntries? [] packages

section Holds

variable {α : Type} {load : α → Except Failure Document} {files : List α}
variable {base : Option Document} {s : Supplied} {source : Option Text} {own : Config}
variable {m : Document}

/-- A merged document tells its settings, whatever they say. -/
theorem mergeFiles_holds
    (accepted : Config.resolve (base.getD Document.empty) false source = .ok own)
    (plain : (base.getD Document.empty).Plain) (given : s.Plain)
    (merged : mergeFiles load base s files = .ok m) :
    ∃ settled package packages, Holds m s settled package packages := by
  obtain ⟨selection, settled, hselect, hsettings, rfl⟩ := mergeFiles_ok_iff.1 merged
  obtain ⟨packages, ls, ct, ep, version, htold, h, rfl⟩ := settings_ok_iff.1 hsettings
  obtain ⟨selection', hselect', described⟩ := Config.resolve_ok_iff.1 accepted
  obtain rfl := Except.ok.inj ((select_source hselect' none).symm.trans hselect)
  have settledPlain := h.plain (select_plain hselect plain) described given (distinct_told htold)
  have supplied : ∀ w, s.packageName = some w → w.text?.isSome := fun w hw =>
    given.texts w (by simp [hw])
  have single : (Text.ofString "package_name", s.packageName) ∈ s.singles := by
    simp [Supplied.singles]
  obtain ⟨package, hpackage, -⟩ := exists_text
    (h.given?_single single fun w hw => isNull_of_text (supplied w hw))
    (fun w hw => described.packageName.isSome hw) supplied
  exact ⟨_, package, _, placed_plain plain given settledPlain, get?_crateName_placed _ _ _,
    select_placed _ s _, hpackage, h.tells described (distinct_told htold)⟩

end Holds

/-! ## What a document tells other components -/

/-- Null is neither a text nor a table, so it counts as nothing in any case. -/
theorem given?_bind {α : Type} {decode : Value → Option α} (null : decode .null = none) (t : Table)
    (key : Text) : (t.given? key).bind decode = (t.get? key).bind decode := by
  unfold Table.given?
  cases t.get? key with
  | none => rfl
  | some v =>
    rw [Option.filter_some]
    split
    · rfl
    · rename_i isNull
      obtain rfl : v = .null := by
        cases v with
        | scalar c => cases c <;> simp_all [Value.isNull]
        | _ => simp [Value.isNull] at isNull
      exact null.symm

/-- A table of packages shows these packages. -/
theorem shownEntry_packageTable (packages : Packages) :
    (packageTable packages).mapM shownEntry = .ok packages := by
  rw [mapM_ok_iff, packageTable, List.forall₂_map_left_iff]
  exact List.forall₂_same.2 fun _ _ => rfl

section Tells

variable {d : Document} {settled : Table} {package : Option Text} {packages : Packages}
variable {source : Option Text}

/-- A document that names its crate and has nested settings tells the package of its crate and those
that it refers to. -/
theorem contribution_of_nested (h : select d source = .ok ⟨.nested, settled⟩)
    (hp : settled.Gives "package_name" Value.text? package)
    (he : settled.GivesOr "external_packages" Reader.textEntries? [] packages) :
    contribution d = .ok (((d.get? "crate_name").bind Value.text?).map fun crate =>
      (package.map fun name => (crate, name)).toList ++ packages) := by
  obtain ⟨-, ⟨⟩⟩ | ⟨mark, _, nested, ⟨⟩⟩ := select_ok_iff.1 h
  have there : d.nested?.bind Value.table? = some settled := by rw [nested]; rfl
  have own : (settled.get? "package_name").bind Value.text? = package := by
    rw [← given?_bind rfl, hp.eq_bind]
  have others : ((settled.get? "external_packages").bind Value.table?).getD [] =
      packageTable packages := by
    rw [← given?_bind rfl]
    exact entriesOf_packages he
  unfold contribution
  unfold Document.nested? at there
  rw [there]
  cases (d.get? "crate_name").bind Value.text? with
  | none => rfl
  | some crate =>
    dsimp only
    rw [own, others, shownEntry_packageTable]
    rfl

/-- What is harvested from the file of one such document. -/
theorem harvest_single {α : Type} {load : α → Except Failure Document}
    {skip : α → Except Failure Unit} {file : α} (hskip : ∀ file, skip file = .ok ())
    (loaded : load file = .ok d) (h : select d source = .ok ⟨.nested, settled⟩)
    (hp : settled.Gives "package_name" Value.text? package)
    (he : settled.GivesOr "external_packages" Reader.textEntries? [] packages) :
    harvest load skip [file] = .ok (match (d.get? "crate_name").bind Value.text? with
      | some crate => Assoc.union (package.map fun name => (crate, name)).toList packages
      | none => []) := by
  refine (harvest_ok_iff hskip).2
    ⟨_, .cons ⟨d, loaded, contribution_of_nested h hp he⟩ .nil, ?_⟩
  cases (d.get? "crate_name").bind Value.text? with
  | none => rfl
  | some crate =>
    show Assoc.union [] ((package.map fun name => (crate, name)).toList ++ packages ++ []) = _
    rw [List.append_nil, Assoc.union_append, Assoc.union_nil_left]
    cases package with
    | none => exact .nil
    | some name => exact List.pairwise_singleton ..

end Tells

/-! ## Saving and reading back -/

/-- A merged document that is saved is read back by all its readers: what is loaded is alike and
resolves alike, and what other components harvest from it is the package of its crate, when it names
one, and then the packages that it refers to under other names. -/
theorem save_merged [Stack] {α : Type} {load : α → Except Failure Document} {files : List α}
    {base : Option Document} {s : Supplied} {source : Option Text} {own : Config} {m : Document}
    {host : Host} {tree : FileTree} {path : Path} {written : Notation} {text : String}
    (accepted : Config.resolve (base.getD Document.empty) false source = .ok own)
    (plain : (base.getD Document.empty).Plain) (given : s.Plain)
    (merged : mergeFiles load base s files = .ok m)
    (ending : Notation.ofEnding? path.ending = some written)
    (home : host.expand path = .ok path)
    (writable : (tree.writeText host.cwd path []).2 = .ok ())
    (dumped : m.toText written path.name = .ok (Text.ofString text))
    (undone : m.Plain → written.Undoes m) :
    ∃ settled package packages tree' m' packages',
      Holds m s settled package packages ∧
      m.save host path tree = (tree', .ok ()) ∧
      Document.load host tree' path = .ok m' ∧ m.Alike m' ∧
      (∀ force source, Config.EndsAlike (Config.resolve m force source)
        (Config.resolve m' force source)) ∧
      packages.Perm packages' ∧
      (∀ crate, s.crateName = some (.text crate) →
        harvest (Document.load host tree') (fun _ => .ok ()) [path] =
          .ok (Assoc.union (package.map fun name => (crate, name)).toList packages')) ∧
      (s.crateName = none →
        harvest (Document.load host tree') (fun _ => .ok ()) [path] = .ok []) := by
  obtain ⟨settled, package, packages, holds⟩ := mergeFiles_holds accepted plain given merged
  have full : m ≠ [] := by
    rintro rfl
    have selected := holds.selected none
    cases selected
  obtain ⟨tree', m', saved, loaded, alike⟩ :=
    Document.load_save ending home writable dumped (undone holds.plain) full
  -- What the loaded document selects, and what its settings say.
  obtain ⟨settled', selected', same⟩ := select_alike (holds.selected none) holds.plain alike
  have settledPlain := select_plain (holds.selected none) holds.plain
  have package' := holds.package.alike same settledPlain.named fun _ _ => Value.Alike.text?_eq
  obtain ⟨packages', hpackages', perm⟩ := holds.packages.packages_alike settledPlain.named same
  have crate : (m'.get? "crate_name").bind Value.text? = s.crateName.bind Value.text? := by
    rw [← alike.get?_text? holds.plain.named, holds.crateName]
  have harvested : harvest (Document.load host tree') (fun _ => .ok ()) [path] = .ok _ :=
    harvest_single (fun _ => rfl) loaded selected' package' hpackages'
  rw [crate] at harvested
  refine ⟨settled, package, packages, tree', m', packages', holds, saved, loaded, alike,
    Config.resolve_alike holds.plain alike, perm, fun crate hcrate => ?_, fun hcrate => ?_⟩
  · rw [harvested, hcrate]
    rfl
  · rw [harvested, hcrate]
    rfl

/-! ## One document, and two that are not read back -/

/-- A flat document that has its bindings in front of its settings. -/
def turnedBase : Document := [
  (.text "bindings", .table none []), (.text "package_name", .text "own")]

/-- The name of a crate and nothing else. -/
def shop : Supplied := { crateName := some (.text "shop") }

/-- What the two are merged to, with what one other document tells. -/
def shopDocument : Document := [
  (.text "bindings", .table none [(.text "kotlin", .table none [
    (.text "package_name", .text "own"),
    (.text "external_packages", .table none [(.text "other", .text "kept")])])]),
  (.text "package_name", .text "own"),
  (.text "crate_name", .text "shop")]

/-- The merged document in TOML, where tables stand last. -/
def shopText : String :=
  "package_name = \"own\"\ncrate_name = \"shop\"\n\n" ++
    "[bindings.kotlin]\npackage_name = \"own\"\n\n" ++
    "[bindings.kotlin.external_packages]\nother = \"kept\"\n"

/-- A host with a home below its root. -/
def homelyHost : Host where
  cwd := ⟨.root, []⟩
  home := ⟨.root, ["home"]⟩
  respond := fun _ _ => .notFound

theorem turnedBase_plain : turnedBase.Plain := by
  refine ⟨(Table.named_iff_distinct ?_).2 (by unfold Assoc.Distinct; decide +kernel), ?_⟩
  · simp [turnedBase]
  · intro e he
    simp only [turnedBase, List.mem_cons, List.not_mem_nil, or_false] at he
    rcases he with rfl | rfl
    · exact Table.Plain.nil.value none
    · exact .text _

theorem shop_plain : shop.Plain := by
  refine ⟨?_, by simp [shop], by simp [shop], by simp [shop]⟩
  intro v hv
  obtain rfl : v = .text "shop" := by simpa [shop] using hv
  rfl

/-- The document has this text in TOML. -/
theorem toText_shopDocument (source : Text) :
    shopDocument.toText .toml source = .ok (Text.ofString shopText) := by
  have written : Toml.Writes (Toml.write shopDocument) (Text.ofString shopText) := by cbv
  unfold Document.toText
  rw [written]

/-- And the text is read as the document. -/
theorem shopDocument_undone : Notation.toml.Undoes shopDocument := by
  have unique : ∀ source s, shopDocument.toText .toml source = .ok (Text.ofString s) →
      s = shopText := fun source s h =>
    Text.ofString_injective (Except.ok.inj (h.symm.trans (toText_shopDocument source)))
  have read : Document.valueOf .toml shopText = .ok (.table none [
      (.text "package_name", .text "own"), (.text "crate_name", .text "shop"),
      (.text "bindings", .table (some 1) [(.text "kotlin", .table (some 2) [
        (.text "package_name", .text "own"),
        (.text "external_packages", .table (some 3) [(.text "other", .text "kept")])])])]) := by
    cbv
  constructor
  · intro source s h
    rw [unique source s h]
    decide +kernel
  · intro source s h
    rw [unique source s h]
    -- The entries of the document in the order in which they are written.
    refine ⟨_, read, .of_entries (List.perm_append_singleton _ _).symm ?_⟩
    refine .cons ⟨rfl, .scalar _⟩ (.cons ⟨rfl, .scalar _⟩ (.cons ⟨rfl, ?_⟩ .nil))
    refine .of_entries (.refl _) (.cons ⟨rfl, .of_entries (.refl _) ?_⟩ .nil)
    refine .cons ⟨rfl, .scalar _⟩ (.cons ⟨rfl, .of_entries (.refl _) ?_⟩ .nil)
    exact .cons ⟨rfl, .scalar _⟩ .nil

/-- The document is written with its entries in another order, and read back. -/
theorem save_merged_shop :
    ∃ settled package packages tree' m' packages',
      Holds shopDocument shop settled package packages ∧
      shopDocument.save homelyHost ⟨.here, ["out", "m.TOML"]⟩ (.dir []) = (tree', .ok ()) ∧
      Document.load homelyHost tree' ⟨.here, ["out", "m.TOML"]⟩ = .ok m' ∧
      shopDocument.Alike m' ∧
      (∀ force source, Config.EndsAlike (Config.resolve shopDocument force source)
        (Config.resolve m' force source)) ∧
      packages.Perm packages' ∧
      (∀ crate, shop.crateName = some (.text crate) →
        harvest (Document.load homelyHost tree') (fun _ => .ok ())
          [⟨.here, ["out", "m.TOML"]⟩] =
          .ok (Assoc.union (package.map fun name => (crate, name)).toList packages')) ∧
      (shop.crateName = none →
        harvest (Document.load homelyHost tree') (fun _ => .ok ())
          [⟨.here, ["out", "m.TOML"]⟩] = .ok []) := by
  have accepted : Config.resolve ((some turnedBase).getD Document.empty) false none =
      .ok { packageName := some "own" } := by rfl
  have merged : mergeFiles (fun _ : Unit => .ok (sibling (.text "kept"))) (some turnedBase) shop
      [()] = .ok shopDocument := by rfl
  exact save_merged accepted turnedBase_plain shop_plain merged (by decide +kernel) (by rfl)
    (by decide +kernel)
    (toText_shopDocument _) fun _ => shopDocument_undone

/-- A package name that is a lone surrogate. -/
def broken : Supplied := { packageName := some (.text [.surrogate 0]) }

def brokenDocument : Document := [
  (.text "bindings", .table none [(.text "kotlin", .table none [
    (.text "package_name", .text [.surrogate 0])])])]

/-- A file can be written at each of two paths. What holds a surrogate is still not saved there, as
its text has no encoding. What is saved below a directory named like a home is not what is loaded:
only the loader takes the path to be below the home. -/
theorem save_merged_fails :
    (Config.resolve Document.empty false none = .ok {} ∧ Document.empty.Plain ∧ broken.Plain ∧
      mergeFiles (fun _ : Unit => .ok []) none broken [] = .ok brokenDocument ∧
      (FileTree.writeText (.dir []) homelyHost.cwd ⟨.here, ["m.toml"]⟩ []).2 = .ok () ∧
      (brokenDocument.save homelyHost ⟨.here, ["m.toml"]⟩ (.dir [])).2 =
        .error (.file ⟨.unencodable ⟨0xD800, 34, 1⟩, ⟨.here, ["m.toml"]⟩⟩)) ∧
    (Config.resolve turnedBase false none = .ok { packageName := some "own" } ∧
      turnedBase.Plain ∧ shop.Plain ∧
      mergeFiles (fun _ : Unit => .ok (sibling (.text "kept"))) (some turnedBase) shop [()] =
        .ok shopDocument ∧
      Notation.toml.Undoes shopDocument ∧
      ∃ tree', shopDocument.save homelyHost ⟨.here, ["~", "m.toml"]⟩ (.dir []) = (tree', .ok ()) ∧
        Document.load homelyHost tree' ⟨.here, ["~", "m.toml"]⟩ = .ok [] ∧
        ¬Table.Alike shopDocument []) := by
  refine ⟨⟨by rfl, .nil, ?_, by rfl, by decide +kernel, ?_⟩,
    ⟨by rfl, turnedBase_plain, shop_plain, by rfl, shopDocument_undone, ?_⟩⟩
  · refine ⟨?_, by simp [broken], by simp [broken], by simp [broken]⟩
    intro v hv
    obtain rfl : v = .text [.surrogate 0] := by simpa [broken] using hv
    rfl
  · cbv
  · refine ⟨_, Prod.ext rfl ?_, ?_, ?_⟩
    · cbv
    · cbv
    · rintro ⟨order, perm, ⟨⟩⟩
      exact absurd perm.length_eq (by decide)

end Merge

end Bindery
