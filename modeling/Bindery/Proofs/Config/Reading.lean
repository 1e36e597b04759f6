import Bindery.Config.Document
import Bindery.Config.Resolve
import Bindery.Proofs.Outcome

/-!
# What a resolved configuration says about its document

Resolving goes through the settings one by one. `Config.Describes` says for every setting what
the table holds there and what the configuration makes of it, without the order in which they
are read and without errors; `ofTable_ok_iff` says that resolving ends well exactly then. The
same is done for the entries of the table of custom types (`CustomType.Describes`).
-/

namespace Bindery

open Outcome

section Settings

variable {α : Type}

/-- What stands under a key is read as `a`: nothing when nothing, or null, stands there. -/
def Table.Gives (t : Table) (key : Text) (decode : Value → Option α) (a : Option α) : Prop :=
  (t.given? key).map decode = a.map some

/-- What stands under a key is read as `a`, and as `default` when nothing stands there. -/
def Table.GivesOr (t : Table) (key : Text) (decode : Value → Option α) (default a : α) : Prop :=
  ∃ given, t.Gives key decode given ∧ given.getD default = a

/-- A setting is given as nothing where it is not there, and else as what its value decodes to. -/
theorem Table.gives_iff {t : Table} {key : Text} {decode : Value → Option α} {a : Option α} :
    t.Gives key decode a ↔
      (t.given? key = none ∧ a = none) ∨
        ∃ v x, t.given? key = some v ∧ decode v = some x ∧ a = some x := by
  unfold Table.Gives
  cases t.given? key <;> cases a <;> simp

/-- A setting can be read when what stands there, if anything does, can be decoded. -/
theorem Table.exists_gives {t : Table} {key : Text} {decode : Value → Option α}
    (h : ∀ v, t.given? key = some v → (decode v).isSome) : ∃ a, t.Gives key decode a := by
  cases ht : t.given? key with
  | none => exact ⟨none, Table.gives_iff.2 (.inl ⟨ht, rfl⟩)⟩
  | some v =>
    obtain ⟨x, hx⟩ := Option.isSome_iff_exists.1 (h v ht)
    exact ⟨some x, Table.gives_iff.2 (.inr ⟨v, x, ht, hx, rfl⟩)⟩

/-- A setting that is given can be decoded. -/
theorem Table.Gives.isSome {t : Table} {key : Text} {decode : Value → Option α} {a : Option α}
    (h : t.Gives key decode a) {v : Value} (hv : t.given? key = some v) : (decode v).isSome := by
  rcases Table.gives_iff.1 h with ⟨hn, -⟩ | ⟨w, x, hw, hx, -⟩
  · simp [hn] at hv
  · rw [← Option.some.inj (hw.symm.trans hv), hx]
    rfl

/-- And it is given as that. -/
theorem Table.Gives.eq_bind {t : Table} {key : Text} {decode : Value → Option α} {a : Option α}
    (h : t.Gives key decode a) : a = (t.given? key).bind decode := by
  rcases Table.gives_iff.1 h with ⟨hn, rfl⟩ | ⟨v, x, hv, hx, rfl⟩
  · rw [hn, Option.bind_none]
  · rw [hv, Option.bind_some, hx]

/-- A setting with a default is given when its value, if there is one, can be decoded. -/
theorem Table.givesOr_of_isSome {t : Table} {key : Text} {decode : Value → Option α} {default : α}
    (h : ∀ v, t.given? key = some v → (decode v).isSome) :
    t.GivesOr key decode default (((t.given? key).bind decode).getD default) := by
  obtain ⟨a, ha⟩ := Table.exists_gives h
  exact ⟨a, ha, by rw [ha.eq_bind]⟩

/-- A setting with a default that is given can be decoded. -/
theorem Table.GivesOr.isSome {t : Table} {key : Text} {decode : Value → Option α} {default a : α}
    (h : t.GivesOr key decode default a) {v : Value} (hv : t.given? key = some v) :
    (decode v).isSome := by
  obtain ⟨given, hgiven, -⟩ := h
  exact hgiven.isSome hv

/-- And it is given as that, or as its default. -/
theorem Table.GivesOr.eq_getD {t : Table} {key : Text} {decode : Value → Option α} {default a : α}
    (h : t.GivesOr key decode default a) : a = ((t.given? key).bind decode).getD default := by
  obtain ⟨given, hgiven, rfl⟩ := h
  rw [← hgiven.eq_bind]

end Settings

theorem Value.text?_eq_some {v : Value} {s : Text} : v.text? = some s ↔ v = .text s := by
  unfold Value.text?
  split <;> simp_all

theorem Value.bool?_eq_some {v : Value} {b : Bool} : v.bool? = some b ↔ v = .bool b := by
  cases v with
  | scalar s => cases s <;> simp [Value.bool?]
  | _ => simp [Value.bool?]

theorem Value.texts?_eq_some {v : Value} {xs : List Text} :
    v.texts? = some xs ↔ ∃ mark, v = .list mark (xs.map Value.text) := by
  cases v <;> simp [Value.texts?, mapM_some_iff_of_encode Value.text?_eq_some]

theorem Value.table?_eq_some {v : Value} {t : Table} :
    v.table? = some t ↔ ∃ mark, v = .table mark t := by
  cases v <;> simp [Value.table?]

/-- An entry is read as a pair of texts only if it is one. -/
theorem Reader.textEntry?_eq_some {e : Value × Value} {x : Text × Text} :
    Reader.textEntry? e = some x ↔ e = (.text x.1, .text x.2) := by
  obtain ⟨k, v⟩ := e
  obtain ⟨a, b⟩ := x
  unfold Reader.textEntry?
  split <;> simp_all

/-- Where decoding undoes `encode`, what is read is what stands there. -/
theorem Table.gives_iff_of_encode {α : Type} {decode : Value → Option α} {encode : α → Value}
    (decodes : ∀ {v x}, decode v = some x ↔ v = encode x) {t : Table} {key : Text}
    {a : Option α} : t.Gives key decode a ↔ t.given? key = a.map encode := by
  rw [Table.gives_iff]
  constructor
  · rintro (⟨ht, rfl⟩ | ⟨v, x, ht, hx, rfl⟩)
    · exact ht
    · rw [ht, decodes.1 hx]
      rfl
  · intro ht
    cases a with
    | none => exact .inl ⟨ht, rfl⟩
    | some x => exact .inr ⟨encode x, x, ht, decodes.2 rfl, rfl⟩

namespace Reader

/-- Reading a key gives what the table gives under it. -/
theorem read_ok_iff {α : Type} {r : Reader} {key : Text} {e : Expectation}
    {decode : Value → Option α} {a : Option α} :
    r.read key e decode = .ok a ↔ r.table.Gives key decode a := by
  unfold read
  rw [Table.gives_iff]
  cases h : r.table.given? key with
  | none => simp [eq_comm]
  | some v => cases hd : decode v <;> simp [hd, eq_comm]

/-- Reading a text gives the text of the table, or none. -/
theorem text?_ok_iff {r : Reader} {key : Text} {a : Option Text} :
    r.text? key = .ok a ↔ r.table.Gives key Value.text? a :=
  read_ok_iff

/-- Reading a flag gives that of the table, or false. -/
theorem flag_ok_iff {r : Reader} {key : Text} {b : Bool} :
    r.flag key = .ok b ↔ r.table.GivesOr key Value.bool? false b := by
  simp only [flag, bind_ok_iff, pure_ok_iff, read_ok_iff, Table.GivesOr]

/-- Reading a list of texts gives that of the table, or the empty one. -/
theorem texts_ok_iff {r : Reader} {key : Text} {xs : List Text} :
    r.texts key = .ok xs ↔ r.table.GivesOr key Value.texts? [] xs := by
  simp only [texts, bind_ok_iff, pure_ok_iff, read_ok_iff, Table.GivesOr]

/-- The entries of a table whose keys and values are texts. -/
def textEntries? (v : Value) : Option (List (Text × Text)) :=
  v.table?.bind fun t => t.mapM textEntry?

/-- Reading a table of texts gives that of the table, or the empty one. -/
theorem textTable_ok_iff {r : Reader} {key : Text} {xs : List (Text × Text)} :
    r.textTable key = .ok xs ↔ r.table.GivesOr key textEntries? [] xs := by
  simp only [textTable, bind_ok_iff, pure_ok_iff, read_ok_iff, Table.GivesOr]
  rfl

/-- The targets that names stand for. -/
def TargetsOf (names : List Text) (found : List Target) : Prop :=
  List.Forall₂ (fun name target => Target.ofName? name = some target) names found

/-- Reading targets gives those that the table names, each at its first place. -/
theorem targets_ok_iff {r : Reader} {key : Text} {ts : List Target} :
    r.targets key = .ok ts ↔
      ∃ names found, r.table.GivesOr key Value.texts? [] names ∧ TargetsOf names found ∧
        Sequence.distinct found = ts := by
  simp only [targets, bind_ok_iff, pure_ok_iff, texts_ok_iff, mapM_ok_iff]
  constructor
  · rintro ⟨names, hnames, found, hfound, h⟩
    refine ⟨names, found, hnames, hfound.imp fun name target hn => ?_, h⟩
    split at hn
    · rename_i hname
      rw [hname, Except.ok.inj hn]
    · cases hn
  · rintro ⟨names, found, hnames, hfound, h⟩
    refine ⟨names, hnames, found, hfound.imp fun name target hn => ?_, h⟩
    rw [hn]

end Reader

/-- What a table says about a custom type. -/
structure CustomType.Describes (t : Table) (custom : CustomType) : Prop where
  imports : t.GivesOr "imports" Value.texts? [] custom.imports
  typeName : t.Gives "type_name" Value.text? custom.typeName
  lift : t.Gives "lift" Value.text? custom.lift
  lower : t.Gives "lower" Value.text? custom.lower

/-- An entry of the table of custom types, and the custom type it stands for under its name. -/
def CustomType.Entry (e : Value × Value) (named : Text × CustomType) : Prop :=
  e.1.shown = .ok named.1 ∧ ∃ t, e.2.table? = some t ∧ CustomType.Describes t named.2

namespace Reader

/-- Conversions are read as the table describes them. -/
theorem conversions_ok_iff {r : Reader} {custom : CustomType} :
    r.conversions = .ok custom ↔ CustomType.Describes r.table custom := by
  simp only [conversions, bind_ok_iff, pure_ok_iff, texts_ok_iff, text?_ok_iff]
  constructor
  · rintro ⟨imports, h1, typeName, h2, lift, h3, lower, h4, rfl⟩
    exact ⟨h1, h2, h3, h4⟩
  · rintro ⟨h1, h2, h3, h4⟩
    exact ⟨_, h1, _, h2, _, h3, _, h4, rfl⟩

/-- A custom type is read from its entry. -/
theorem customType_ok_iff {r : Reader} {key : Text} {e : Value × Value}
    {named : Text × CustomType} :
    r.customType key e = .ok named ↔ CustomType.Entry e named := by
  obtain ⟨k, v⟩ := e
  simp only [customType, bind_ok_iff, fault_ok_iff, CustomType.Entry]
  constructor
  · rintro ⟨name, hname, h⟩
    split at h
    · simp only [bind_ok_iff, config_ok_iff, conversions_ok_iff, pure_ok_iff] at h
      obtain ⟨custom, hcustom, rfl⟩ := h
      exact ⟨hname, _, rfl, hcustom⟩
    · exact absurd h throw_ne_ok
  · rintro ⟨hname, t, ht, hcustom⟩
    refine ⟨_, hname, ?_⟩
    cases v with
    | table mark entries =>
      cases ht
      simp only [bind_ok_iff, config_ok_iff, conversions_ok_iff, pure_ok_iff]
      exact ⟨_, hcustom, rfl⟩
    | _ => simp [Value.table?] at ht

/-- Custom types are read from their entries, in order; of two with one name the later counts. -/
theorem customTypes_ok_iff {r : Reader} {key : Text} {customs : List (Text × CustomType)} :
    r.customTypes key = .ok customs ↔
      ∃ entries found, r.table.GivesOr key Value.table? [] entries ∧
        List.Forall₂ CustomType.Entry entries found ∧ Assoc.ofPairs found = customs := by
  simp only [customTypes, bind_ok_iff, config_ok_iff, read_ok_iff]
  constructor
  · rintro ⟨given, hgiven, h⟩
    cases given with
    | none =>
      rw [pure_ok_iff] at h
      exact ⟨[], [], ⟨none, hgiven, rfl⟩, .nil, h⟩
    | some entries =>
      simp only [bind_ok_iff, mapM_ok_iff, customType_ok_iff, pure_ok_iff] at h
      obtain ⟨found, hfound, h⟩ := h
      exact ⟨entries, found, ⟨_, hgiven, rfl⟩, hfound, h⟩
  · rintro ⟨entries, found, ⟨given, hgiven, rfl⟩, hfound, h⟩
    refine ⟨given, hgiven, ?_⟩
    cases given with
    | none =>
      cases hfound
      rw [pure_ok_iff]
      exact h
    | some entries =>
      simp only [bind_ok_iff, mapM_ok_iff, customType_ok_iff, pure_ok_iff]
      exact ⟨found, hfound, h⟩

end Reader

/-- What stands where a document keeps nested settings. -/
def Document.nested? (d : Document) : Option Value :=
  ((d.get? "bindings").bind Value.table?).bind fun bindings => bindings.get? "kotlin"

/-- A document is flat when nothing stands where it would keep nested settings. -/
theorem select_ok_iff {d : Document} {source : Option Text} {selection : Selection} :
    select d source = .ok selection ↔
      (d.nested? = none ∧ selection = ⟨.flat, d⟩) ∨
        ∃ mark settings, d.nested? = some (.table mark settings) ∧
          selection = ⟨.nested, settings⟩ := by
  unfold select Document.nested?
  cases (d.get? "bindings").bind Value.table? with
  | none => simp [eq_comm]
  | some bindings =>
    rw [Option.bind_some]
    dsimp only
    cases bindings.get? "kotlin" with
    | none => simp [eq_comm]
    | some v => cases v <;> simp [eq_comm]

namespace Config

/-- A table of settings, and the configuration it is resolved to: what stands under each of the
fifteen keys, and what becomes of it. -/
structure Describes (t : Table) (c : Config) : Prop where
  packageName : t.Gives "package_name" Value.text? c.packageName
  cdylibName : t.Gives "cdylib_name" Value.text? c.cdylibName
  multiplatform : t.GivesOr "kotlin_multiplatform" Value.bool? false c.multiplatform
  targets : ∃ names found, t.GivesOr "kotlin_targets" Value.texts? [] names ∧
    Reader.TargetsOf names found ∧ Sequence.distinct found = c.targets
  externalPackages : t.GivesOr "external_packages" Reader.textEntries? [] c.externalPackages
  immutableRecords : t.GivesOr "generate_immutable_records" Value.bool? false c.immutableRecords
  omitChecksums : t.GivesOr "omit_checksums" Value.bool? false c.omitChecksums
  customTypes : ∃ entries found, t.GivesOr "custom_types" Value.table? [] entries ∧
    List.Forall₂ CustomType.Entry entries found ∧ Assoc.ofPairs found = c.customTypes
  targetVersion : t.Gives "kotlin_target_version" Value.text? c.targetVersion
  disableJavaCleaner : t.GivesOr "disable_java_cleaner" Value.bool? false c.disableJavaCleaner
  serializableTypes :
    t.GivesOr "generate_serializable_types" Value.bool? false c.serializableTypes
  pascalCaseEnums : t.GivesOr "use_pascal_case_enum_class" Value.bool? false c.pascalCaseEnums
  jvmLibraries : t.GivesOr "jvm_dynamic_library_dependencies" Value.texts? [] c.jvmLibraries
  androidLibraries :
    t.GivesOr "android_dynamic_library_dependencies" Value.texts? [] c.androidLibraries
  sharedLibraries : t.GivesOr "dynamic_library_dependencies" Value.texts? [] c.sharedLibraries

/-- A table of settings is accepted exactly when it describes a configuration. -/
theorem ofTable_ok_iff {t : Table} {source : Option Text} {c : Config} :
    ofTable t source = .ok c ↔ Describes t c := by
  simp only [ofTable, bind_ok_iff, config_ok_iff, pure_ok_iff, Reader.text?_ok_iff,
    Reader.flag_ok_iff, Reader.texts_ok_iff, Reader.textTable_ok_iff, Reader.targets_ok_iff,
    Reader.customTypes_ok_iff]
  constructor
  · rintro ⟨_, h1, _, h2, _, h3, _, h4, _, h5, _, h6, _, h7, _, h8, _, h9, _, h10, _, h11, _,
      h12, _, h13, _, h14, _, h15, rfl⟩
    exact ⟨h1, h2, h3, h4, h5, h6, h7, h8, h9, h10, h11, h12, h13, h14, h15⟩
  · rintro ⟨h1, h2, h3, h4, h5, h6, h7, h8, h9, h10, h11, h12, h13, h14, h15⟩
    exact ⟨_, h1, _, h2, _, h3, _, h4, _, h5, _, h6, _, h7, _, h8, _, h9, _, h10, _, h11, _,
      h12, _, h13, _, h14, _, h15, rfl⟩

/-- A document is accepted when the settings it selects describe a configuration. -/
theorem resolve_ok_iff {document : Table} {source : Option Text} {c : Config} :
    resolve document false source = .ok c ↔
      ∃ selection, select document source = .ok selection ∧ Describes selection.table c := by
  simp only [resolve, bind_ok_iff, config_ok_iff, ofTable_ok_iff, pure_ok_iff,
    Bool.false_eq_true, if_false, exists_eq_right]

end Config

end Bindery
