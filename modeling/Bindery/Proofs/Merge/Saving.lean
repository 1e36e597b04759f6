import Bindery.Proofs.Config.Loading
import Bindery.Proofs.Config.Saving
import Bindery.Proofs.Merge.Composing
import Bindery.Proofs.Toml.Writing
import Bindery.Proofs.Yaml.Writing

/-!
# A document in TOML is merged and saved in either notation

What is merged with a document in TOML is made of what TOML has, if what is supplied is
(`Merge.mergeFiles_inToml`). So it has a text in TOML, as long as its whole numbers and its nesting
are within the bounds of the writer; and in YAML if it has no time of day either
(`Merge.save_of_toml`).
-/

namespace Bindery

open Outcome

/-- Supplied values of the kinds that their settings ask for: texts, truth values, lists of texts,
and a table. -/
structure Supplied.Typed (s : Supplied) : Prop where
  texts : ∀ v, some v ∈ [s.crateName, s.packageRoot, s.packageName, s.cdylibName,
    s.targetVersion] → v.text?.isSome
  flags : ∀ v, some v ∈ [s.multiplatform, s.immutableRecords, s.omitChecksums,
    s.disableJavaCleaner, s.serializableTypes, s.pascalCaseEnums] → v.bool?.isSome
  lists : ∀ v, some v ∈ [s.targets, s.jvmLibraries, s.androidLibraries, s.sharedLibraries] →
    v.texts?.isSome
  customTypes : ∀ v, s.customTypes = some v → v.table?.isSome

/-- A value that TOML has. -/
abbrev Value.InToml (v : Value) : Prop := v.Over Scalar.IsToml

abbrev Table.InToml (t : Table) : Prop := t.Over Scalar.IsToml

theorem Value.inToml_text (s : Text) : (Value.text s).InToml := .scalar trivial

theorem Value.inToml_of_text? {v : Value} (h : v.text?.isSome) : v.InToml :=
  .of_text? (fun _ => trivial) h

namespace Merge

section Values

variable {v w : Value} {a b : Option Value} {items : List Value} {t : Table}

/-! ## Lists and tables -/

/-- What a value of TOML is as a list holds values of TOML. -/
theorem asList_inToml (h : v.InToml) (listed : asList v = .ok items) : ∀ w ∈ items, w.InToml := by
  have found : v.items? = some items := by
    unfold asList at listed
    split at listed
    · rename_i found
      rw [found, Except.ok.inj listed]
    · cases listed
  cases h with
  | @scalar c hc =>
    cases c with
    | text s =>
      obtain rfl := Option.some.inj found
      simpa using fun c _ => Value.inToml_text [c]
    | bytes bs => exact hc.elim
    | _ => cases found
  | marked hc => cases found
  | list h =>
    obtain rfl := Option.some.inj found
    exact h
  | table keys h =>
    obtain rfl := Option.some.inj found
    intro w hw
    obtain ⟨e, he, rfl⟩ := List.mem_map.1 hw
    obtain ⟨key, keyed⟩ := keys e he
    exact keyed ▸ Value.inToml_text key
  | pair first second =>
    obtain rfl := Option.some.inj found
    exact List.forall_mem_cons.2 ⟨first, List.forall_mem_singleton.2 second⟩

/-- And so for a value that may not be there. -/
theorem optionAsList_inToml {xs : Option (List Value)} (ha : ∀ v, a = some v → v.InToml)
    (listed : a.mapM asList = .ok xs) : ∀ l, xs = some l → ∀ w ∈ l, w.InToml := by
  rintro l rfl
  obtain ⟨v, rfl, hl⟩ := Option.map_eq_some_iff.1 (optionMapM_ok_iff.1 listed)
  exact asList_inToml (ha v rfl) hl

/-- A list that is merged of values of TOML holds values of TOML. -/
theorem mergeList_inToml (ha : ∀ v, a = some v → v.InToml) (hb : ∀ v, b = some v → v.InToml)
    (h : mergeList a b = .ok (some items)) : ∀ w ∈ items, w.InToml := by
  rw [mergeList_eq] at h
  obtain ⟨xs, hxs, h⟩ := bind_ok_iff.1 h
  obtain ⟨ys, hys, h⟩ := bind_ok_iff.1 h
  have left := optionAsList_inToml ha hxs
  have right := optionAsList_inToml hb hys
  rcases xs with _ | xs <;> rcases ys with _ | ys
  · cases pure_ok_iff.1 h
  · obtain rfl : ys = items := Option.some.inj (pure_ok_iff.1 h)
    exact right _ rfl
  · obtain rfl : xs = items := Option.some.inj (pure_ok_iff.1 h)
    exact left _ rfl
  · obtain rfl : xs ++ ys = items := Option.some.inj (pure_ok_iff.1 h)
    exact List.forall_mem_append.2 ⟨left _ rfl, right _ rfl⟩

/-- An entry that is made of a value of TOML holds one. -/
theorem asEntry_inToml {index : Nat} {e : Value × Value} (h : v.InToml)
    (made : asEntry index v = .ok e) : e.2.InToml := by
  obtain ⟨items, hitems, made⟩ := bind_ok_iff.1 made
  have parts := asList_inToml h hitems
  split at made
  · rename_i k value
    split at made
    · rw [← pure_ok_iff.1 made]
      exact parts value (by simp)
    · exact absurd made throw_ne_ok
  · exact absurd made throw_ne_ok

/-- And so do entries that are made of a list. -/
theorem asEntries_inToml {index : Nat} (h : ∀ w ∈ items, w.InToml)
    (made : asEntries index items = .ok t) : ∀ e ∈ t, e.2.InToml := by
  induction items generalizing index t with
  | nil =>
    obtain rfl := Except.ok.inj made
    exact nofun
  | cons w items ih =>
    obtain ⟨hw, hitems⟩ := List.forall_mem_cons.1 h
    obtain ⟨e, he, made⟩ := bind_ok_iff.1 made
    obtain ⟨rest, hrest, made⟩ := bind_ok_iff.1 made
    obtain rfl := pure_ok_iff.1 made
    exact List.forall_mem_cons.2 ⟨asEntry_inToml hw he, ih hitems hrest⟩

/-- What a value is taken as a table of has values of TOML, if not always texts as keys. -/
theorem asTable_inToml (h : v.InToml) (made : asTable v = .ok t) : ∀ e ∈ t, e.2.InToml := by
  unfold asTable at made
  split at made
  · obtain rfl := Except.ok.inj made
    exact h.of_table.values
  · obtain ⟨items, hitems, made⟩ := bind_ok_iff.1 made
    obtain ⟨entries, hentries, made⟩ := bind_ok_iff.1 made
    obtain rfl := pure_ok_iff.1 made
    exact Assoc.forall_values_ofPairs (asEntries_inToml (asList_inToml h hitems) hentries)

/-- The keys of what a value is taken as a table of are texts. -/
def NamesAll (v : Value) : Prop := ∀ t, asTable v = .ok t → ∀ e ∈ t, ∃ key, e.1 = .text key

/-- A table that is merged of tables of TOML is one. -/
theorem mergeTable_inToml (ha : ∀ v, a = some v → v.InToml) (named : ∀ v, a = some v → NamesAll v)
    (hb : ∀ v, b = some v → v.InToml ∧ v.table?.isSome) (h : mergeTable a b = .ok (some t)) :
    t.InToml := by
  have left : ∀ v (u : Table), a = some v → asTable v = .ok u → u.InToml := fun v u hv hu =>
    ⟨named v hv u hu, asTable_inToml (ha v hv) hu⟩
  have right : ∀ w, b = some w → ∃ mark, ∃ u : Table, w = .table mark u ∧ u.InToml := by
    intro w hw
    obtain ⟨u, hu⟩ := Option.isSome_iff_exists.1 (hb w hw).2
    obtain ⟨mark, rfl⟩ := Value.table?_eq_some.1 hu
    exact ⟨mark, u, rfl, (hb _ hw).1.of_table⟩
  unfold mergeTable at h
  split at h
  · cases pure_ok_iff.1 h
  · obtain ⟨mark, u, rfl, hu⟩ := right _ rfl
    obtain rfl : u = t := Option.some.inj (pure_ok_iff.1 h)
    exact hu
  · obtain ⟨u, hu, h⟩ := bind_ok_iff.1 h
    obtain rfl := Option.some.inj (pure_ok_iff.1 h)
    exact left _ _ rfl hu
  · obtain ⟨mark, more, rfl, hmore⟩ := right _ rfl
    obtain ⟨u, hu, h⟩ := bind_ok_iff.1 h
    obtain rfl := Option.some.inj (pure_ok_iff.1 h)
    exact (left _ _ rfl hu).union hmore

end Values

/-! ## Merged documents -/

/-- What is present is a table of TOML when all its parts are values of TOML. -/
theorem present_inToml {entries : List (Text × Option Value)}
    (parts : ∀ e ∈ entries, ∀ v, e.2 = some v → v.InToml) : (present entries).InToml := by
  constructor
  all_goals
    intro e he
    obtain ⟨f, hf, h⟩ := List.mem_filterMap.1 he
    obtain ⟨v, hv, rfl⟩ := Option.map_eq_some_iff.1 h
  · exact ⟨f.1, rfl⟩
  · exact parts f hf v hv

section Merged

variable {own : Table} {s : Supplied} {packages : Option Packages}
variable {ls : List (Text × Option Value)} {ct ep : Option Table} {version : Option Value}

/-- Single values that are typed are values of TOML. -/
theorem inToml_of_single (typed : s.Typed) : ∀ e ∈ s.singles, ∀ v, e.2 = some v → v.InToml :=
  forall_singles (fun v hv => Value.inToml_of_text? (typed.texts v hv))
    fun v hv => .of_bool? (fun _ => trivial) (typed.flags v hv)

/-- Lists that are typed are merged to values of TOML. -/
theorem inToml_of_lists (typed : s.Typed) (held : own.InToml) (h : lists own s = .ok ls) :
    ∀ e ∈ ls, ∀ v, e.2 = some v → v.InToml := by
  have supplied : ∀ e ∈ s.lists, ∀ w, e.2 = some w → w.InToml :=
    forall_lists fun w hw => .of_texts? (fun _ => trivial) (typed.lists w hw)
  intro e he v hv
  obtain ⟨e', he', items, hitems, rfl⟩ := exists_of_mem_lists h he
  obtain ⟨l, rfl, rfl⟩ := Option.map_eq_some_iff.1 hv
  exact .list (mergeList_inToml (fun _ => held.given?) (supplied e' he') hitems)

/-- Packages make a table of TOML. -/
theorem packageTable_inToml (found : Packages) : (packageTable found).InToml := by
  constructor
  all_goals
    intro e he
    obtain ⟨f, -, rfl⟩ := List.mem_map.1 he
  · exact ⟨f.1, rfl⟩
  · exact Value.inToml_text f.2

/-- Settings merged from those of a document in TOML are in TOML, where its tables have texts as
keys and the supplied custom types are in TOML. -/
theorem Settled.inToml (h : Settled own s packages ls ct ep version) (typed : s.Typed)
    (held : own.InToml) (customs : ∀ v, s.customTypes = some v → v.InToml)
    (named : ∀ key ∈ (["custom_types", "external_packages"] : List Text), ∀ v,
      own.given? key = some v → NamesAll v) :
    (present (assembled own s ls ct ep version)).InToml := by
  refine present_inToml (forall_assembled (fun _ _ => held.given?) (inToml_of_single typed)
    (inToml_of_lists typed held h.lists) ?_ ?_ ?_)
  · rintro t rfl
    exact (mergeTable_inToml (fun _ => held.given?) (named _ (by simp))
      (fun w hw => ⟨customs w hw, typed.customTypes w hw⟩) h.customTypes).value none
  · rintro t rfl
    refine (mergeTable_inToml (fun _ => held.given?) (named _ (by simp)) (fun w hw => ?_)
      h.externalPackages).value none
    obtain ⟨found, rfl, rfl⟩ := Option.map_eq_some_iff.1 hw
    exact ⟨(packageTable_inToml found).value none, rfl⟩
  · rintro v rfl
    exact Value.inToml_of_text? (typed.texts v (by simp [Supplied.version?_eq_some h.version]))

/-- Settings of TOML placed in a table of TOML make one. -/
theorem placed_inToml {base settled : Table} (held : base.InToml) (typed : s.Typed)
    (settings : settled.InToml) : (placed base s settled).InToml := by
  have name : ∀ v, s.crateName = some v → v.InToml := fun v hv =>
    Value.inToml_of_text? (typed.texts v (by simp [hv]))
  have root : ∀ v, s.packageRoot = some v → v.InToml := fun v hv =>
    Value.inToml_of_text? (typed.texts v (by simp [hv]))
  have bindings : (((base.get? "bindings").bind Value.table?).getD []).InToml := by
    cases there : (base.get? "bindings").bind Value.table? with
    | none => exact .nil
    | some t =>
      obtain ⟨v, hv, ht⟩ := Option.bind_eq_some_iff.1 there
      exact (held.get? hv).of_table? ht
  rw [placed_eq]
  exact ((held.replace _ name).replace _ root).put _
    ((bindings.put "kotlin" (settings.value none)).value none)

/-- The settings of a document of TOML are a table of TOML. -/
theorem select_inToml {d : Document} {source : Option Text} {selection : Selection}
    (h : select d source = .ok selection) (held : d.InToml) : selection.table.InToml := by
  rcases select_ok_iff.1 h with ⟨-, rfl⟩ | ⟨mark, settings, hd, rfl⟩
  · exact held
  · obtain ⟨bindings, there, hd⟩ := Option.bind_eq_some_iff.1 hd
    obtain ⟨v, hv, ht⟩ := Option.bind_eq_some_iff.1 there
    exact (((held.get? hv).of_table? ht).get? hd).of_table

/-- The tables of settings in a document, those that would be united with others, have texts as
keys. -/
def Named (d : Document) : Prop :=
  ∀ selection, select d none = .ok selection →
    ∀ key ∈ (["custom_types", "external_packages"] : List Text), ∀ v,
      selection.table.given? key = some v → NamesAll v

/-- A document merged of values of TOML is one. -/
theorem mergeFiles_inToml {α : Type} {load : α → Except Failure Document} {files : List α}
    {d m : Document} (held : d.InToml) (typed : s.Typed)
    (customs : ∀ v, s.customTypes = some v → v.InToml) (named : Named d)
    (merged : mergeFiles load (some d) s files = .ok m) : m.InToml := by
  obtain ⟨selection, settled, hselect, hsettings, rfl⟩ := mergeFiles_ok_iff.1 merged
  obtain ⟨packages, ls, ct, ep, version, -, h, rfl⟩ := settings_ok_iff.1 hsettings
  exact placed_inToml held typed
    (h.inToml typed (select_inToml hselect held) customs (named selection hselect))

end Merged

end Merge

/-! ## Saving -/

namespace Document

variable {host : Host} {tree : FileTree} {path : Path} {written : Notation} {d : Document}

/-- The lists and tables of a document are not too many around one another to be written. -/
def Light [Stack] : Notation → Document → Prop
  | .toml, d => Toml.entriesWeight d ≤ Toml.heaviest
  | .yaml, d => Yaml.Outline.collectionWeight * Value.entryDepth d ≤ Yaml.Outline.heaviest

/-- A document has a text in TOML when it is made of what TOML has. -/
theorem exists_toText_toml [Stack] (held : Table.InToml d)
    (short : ∀ c ∈ Value.entryScalars d, c.IsShort)
    (light : d.Light .toml) (source : Text) : ∃ text, d.toText .toml source = .ok text := by
  have formed : Table.Over Toml.HasForm d :=
    ((held.value none).and (v := .table none d) short).of_table
  obtain ⟨text, written⟩ := Toml.write_succeeds formed light
  refine ⟨text, ?_⟩
  unfold toText
  rw [written]

/-- A document has a text in YAML when its scalars have and it is not too heavy. -/
theorem exists_toText_yaml [Stack] (formed : ∀ c ∈ Value.entryScalars d, Yaml.HasForm c)
    (light : d.Light .yaml) (source : Text) :
    ∃ s : String, d.toText .yaml source = .ok (Text.ofString s) := by
  obtain ⟨s, written⟩ := Yaml.write_succeeds formed light
  refine ⟨s, ?_⟩
  unfold toText
  rw [written]
  rfl

/-- A text that can be encoded is saved where a file can be written. -/
theorem save_of_textFor [Stack] {text : Text} {bytes : ByteArray}
    (dumped : d.textFor path = .ok text) (encodes : Text.encode text = .ok bytes)
    (writable : (tree.writeText host.cwd path []).2 = .ok ()) :
    ∃ tree', d.save host path tree = (tree', .ok ()) ∧ tree'.Holds host.cwd path bytes := by
  obtain ⟨tree', saved⟩ := FileTree.writeText_of_writable writable encodes
  obtain ⟨bytes', encodes', holds, -⟩ := FileTree.writeText_ok saved
  obtain rfl := Except.ok.inj (encodes.symm.trans encodes')
  refine ⟨tree', ?_, holds⟩
  unfold save
  rw [dumped]
  dsimp only
  rw [saved]
  rfl

end Document

namespace Merge

/-- What is merged with a document in TOML is saved in either notation: in TOML if what is supplied
is in TOML, in YAML if no time of day is in the merged document. -/
theorem save_of_toml [Stack] {α : Type} {load : α → Except Failure Document} {files : List α}
    {host : Host} {tree tree' : FileTree} {source output : Path} {d m : Document} {s : Supplied}
    {written : Notation}
    (toml : ∀ p, host.expand source = .ok p → Document.notationOf p = .toml)
    (loaded : Document.load host tree source = .ok d) (typed : s.Typed)
    (merged : mergeFiles load (some d) s files = .ok m)
    (ending : Notation.ofEnding? output.ending = some written)
    (short : ∀ c ∈ Value.entryScalars m, c.IsShort) (light : m.Light written)
    (customs : written = .toml → ∀ v, s.customTypes = some v → v.InToml)
    (named : written = .toml → Named d)
    (timeless : written = .yaml → ∀ c ∈ Value.entryScalars m, c.kind ≠ .time)
    (writable : (tree'.writeText host.cwd output []).2 = .ok ()) :
    ∃ text, m.textFor output = .ok text ∧
      (written = .yaml → ∃ bytes, Text.encode text = .ok bytes) ∧
      ∀ bytes, Text.encode text = .ok bytes →
        ∃ saved, m.save host output tree' = (saved, .ok ()) ∧
          saved.Holds host.cwd output bytes := by
  have dumps : ∃ text, m.toText written output.name = .ok text ∧
      (written = .yaml → ∃ bytes, Text.encode text = .ok bytes) := by
    cases written with
    | toml =>
      have held := mergeFiles_inToml (Document.load_over toml loaded) typed (customs rfl)
        (named rfl) merged
      obtain ⟨text, dumped⟩ := Document.exists_toText_toml held short light output.name
      exact ⟨text, dumped, nofun⟩
    | yaml =>
      obtain ⟨s, dumped⟩ := Document.exists_toText_yaml
        (fun c hc => ⟨short c hc, timeless rfl c hc⟩) light output.name
      exact ⟨_, dumped, fun _ => ⟨_, Text.encode_ofString s⟩⟩
  obtain ⟨text, dumped, encodes⟩ := dumps
  have dumped : m.textFor output = .ok text := by
    unfold Document.textFor
    rw [ending]
    exact dumped
  exact ⟨text, dumped, encodes,
    fun bytes encoded => Document.save_of_textFor dumped encoded writable⟩

/-! ## A document with a time of day -/

def clockText : String := "t = 01:02:03\n"

def clockFiles : FileTree := .dir [("u.toml", .file clockText.toUTF8)]

def clockDocument : Document := [(.text "t", .marked 1 (.time ⟨1, 2, 3, 0⟩))]

/-- What is merged of it with settings that are not there but for these. -/
def clockWith (settings : Table) : Document := clockDocument ++ [
  (.text "bindings", .table none [(.text "kotlin", .table none settings)])]

/-- The document with the time of day is loaded. -/
theorem load_clock :
    Document.load Document.topHost clockFiles ⟨.here, ["u.toml"]⟩ = .ok clockDocument := by
  have decoded : FileTree.textOf clockText.toUTF8 = .ok clockText := by decide +kernel
  have holds : clockFiles.Holds Document.topHost.cwd ⟨.here, ["u.toml"]⟩ clockText.toUTF8 :=
    ⟨by decide +kernel, by decide +kernel⟩
  have written : Document.notationOf ⟨.here, ["u.toml"]⟩ = .toml := by decide +kernel
  have visible : Text.isAllBlank clockText = false := by decide +kernel
  have read : Document.valueOf .toml clockText = .ok (.table none clockDocument) := by cbv
  rw [Document.load_of_text (by decide +kernel) holds decoded, written]
  unfold Document.ofText
  rw [visible, read]
  rfl

theorem typed_nothing : Supplied.Typed {} where
  texts := by simp
  flags := by simp
  lists := by simp
  customTypes := by simp

/-- Merging nothing into it keeps the time of day. -/
theorem merged_clock : mergeFiles (fun _ : Unit => .ok Document.empty) (some clockDocument) {} [] =
    .ok (clockWith []) := by
  rfl

/-- Custom types of which one has a null for its type. -/
def nullType : Value := .table none [(.text "Tag", .table none [(.text "type_name", .null)])]

theorem typed_nullType : Supplied.Typed { customTypes := some nullType } where
  texts := by simp
  flags := by simp
  lists := by simp
  customTypes := by simp [nullType, Value.table?]

/-- Merging a custom type that is null keeps it null. -/
theorem merged_nullType : mergeFiles (fun _ : Unit => .ok Document.empty) (some clockDocument)
    { customTypes := some nullType } [] =
      .ok (clockWith [(.text "custom_types", nullType)]) := by
  rfl

/-- The document with a time of day is saved in TOML. -/
theorem save_of_toml_clock :
    ∃ text, (clockWith []).textFor ⟨.here, ["m.toml"]⟩ = .ok text ∧
      ∀ bytes, Text.encode text = .ok bytes → ∃ saved,
        (clockWith []).save Document.topHost ⟨.here, ["m.toml"]⟩ clockFiles = (saved, .ok ()) ∧
          saved.Holds Document.topHost.cwd ⟨.here, ["m.toml"]⟩ bytes := by
  have toml : ∀ p, Document.topHost.expand ⟨.here, ["u.toml"]⟩ = .ok p →
      Document.notationOf p = .toml := by
    intro p expands
    obtain rfl := Except.ok.inj expands
    decide +kernel
  have named : Named clockDocument := by
    intro selection selected key hkey v hv
    have flat : select clockDocument none = .ok ⟨.flat, clockDocument⟩ := by rfl
    obtain rfl := Except.ok.inj (flat.symm.trans selected)
    simp only [List.mem_cons, List.not_mem_nil, or_false] at hkey
    rcases hkey with rfl | rfl <;> cases hv
  have short : ∀ c ∈ Value.entryScalars (clockWith []), c.IsShort := by
    intro c hc
    simp only [clockWith, clockDocument, List.singleton_append, Value.entryScalars, Value.scalars,
      List.mem_append, List.mem_cons, List.not_mem_nil, or_false] at hc
    rcases hc with (rfl | rfl) | (rfl | rfl) <;> trivial
  have writable :
      (clockFiles.writeText Document.topHost.cwd ⟨.here, ["m.toml"]⟩ []).2 = .ok () := by
    decide +kernel
  have ending : Notation.ofEnding? (Path.mk .here ["m.toml"]).ending = some .toml := by
    decide +kernel
  have light : (clockWith []).Light .toml := by
    show Toml.entriesWeight _ ≤ Toml.heaviest
    decide
  obtain ⟨text, dumped, -, saves⟩ := save_of_toml toml load_clock typed_nothing merged_clock ending
    short light nofun (fun _ => named) nofun writable
  exact ⟨text, dumped, saves⟩

/-- Of a document in TOML nothing is saved in YAML where it holds a time of day, and nothing in TOML
where a supplied custom type holds a null. -/
theorem merged_not_saved :
    Document.load Document.topHost clockFiles ⟨.here, ["u.toml"]⟩ = .ok clockDocument ∧
    (Supplied.Typed {} ∧
      mergeFiles (fun _ : Unit => .ok Document.empty) (some clockDocument) {} [] =
        .ok (clockWith []) ∧
      (clockFiles.writeText Document.topHost.cwd ⟨.here, ["m.yml"]⟩ []).2 = .ok () ∧
      ((clockWith []).save Document.topHost ⟨.here, ["m.yml"]⟩ clockFiles).2 =
        .error (.fault .unwritable)) ∧
    Supplied.Typed { customTypes := some nullType } ∧
      mergeFiles (fun _ : Unit => .ok Document.empty) (some clockDocument)
        { customTypes := some nullType } [] = .ok (clockWith [(.text "custom_types", nullType)]) ∧
      (clockFiles.writeText Document.topHost.cwd ⟨.here, ["m.toml"]⟩ []).2 = .ok () ∧
      ((clockWith [(.text "custom_types", nullType)]).save Document.topHost ⟨.here, ["m.toml"]⟩
        clockFiles).2 = .error (.config ⟨.unwritable (.kind .null), some "m.toml"⟩) :=
  ⟨load_clock, ⟨typed_nothing, merged_clock, by decide +kernel, by decide +kernel⟩, typed_nullType,
    merged_nullType, by decide +kernel, by decide +kernel⟩

end Merge

end Bindery
