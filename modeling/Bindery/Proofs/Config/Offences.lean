import Bindery.Proofs.Assoc
import Bindery.Proofs.Config.Reading
import Bindery.Proofs.Config.Refusing
import Bindery.Proofs.Value.Text

/-!
# What a document is refused for

A document is sound when it has no settings of its own in `bindings.kotlin`, or a table of them,
and when every setting that counts is absent, null or of its form (`Document.Sound`). Sound
documents are accepted, and no others; a document that is not sound is refused for the first
setting that is wrong, in the order in which settings are read (`Document.offence?`), and the
refusal names its source and that setting (`Config.resolve_judged`).

One thing more is asked of a document. The name of a custom type need not be a text, but it has to
have one, and a whole number with too many digits has none. Such a name is met where its custom
type is read, and it is no refusal of a configuration that it ends in.
-/

namespace Bindery

open Outcome

/-! ## Sound documents -/

/-- What a setting has to be, the custom types apart. -/
inductive Form where
  | text | flag | texts | targets | textTable
  deriving DecidableEq, Repr

namespace Value

def isText : Value → Bool
  | .text _ => true
  | _ => false

/-- Whether a value names a platform. -/
def isTargetName : Value → Bool
  | .text name => (["jvm", "android", "native"] : List Text).contains name
  | _ => false

end Value

/-- Whether a value is of a form. -/
def Form.admits : Form → Value → Bool
  | .text, v => v.isText
  | .flag, .bool _ => true
  | .texts, .list _ items => items.all Value.isText
  | .targets, .list _ items => items.all Value.isTargetName
  | .textTable, .table _ entries => entries.all fun e => e.1.isText && e.2.isText
  | _, _ => false

/-- The settings that are read before the custom types. -/
def Config.settingsBefore : List (Text × Form) := [
  ("package_name", .text), ("cdylib_name", .text), ("kotlin_multiplatform", .flag),
  ("kotlin_targets", .targets), ("external_packages", .textTable),
  ("generate_immutable_records", .flag), ("omit_checksums", .flag)]

/-- The settings that are read after the custom types. -/
def Config.settingsAfter : List (Text × Form) := [
  ("kotlin_target_version", .text), ("disable_java_cleaner", .flag),
  ("generate_serializable_types", .flag), ("use_pascal_case_enum_class", .flag),
  ("jvm_dynamic_library_dependencies", .texts), ("android_dynamic_library_dependencies", .texts),
  ("dynamic_library_dependencies", .texts)]

/-- What is read of a custom type. -/
def CustomType.settings : List (Text × Form) := [
  ("imports", .texts), ("type_name", .text), ("lift", .text), ("lower", .text)]

/-- Whether a setting is absent, null or of its form. -/
def Table.allows (t : Table) (s : Text × Form) : Bool := (t.given? s.1).all s.2.admits

/-- The custom types are absent, null or a table of tables in which every setting is absent, null or
of its form. -/
def Table.SoundTypes (t : Table) : Prop :=
  ∀ v, t.given? "custom_types" = some v → ∃ mark entries, v = .table mark entries ∧
    ∀ e ∈ entries, ∃ mark inner, e.2 = .table mark inner ∧
      ∀ s ∈ CustomType.settings, Table.allows inner s = true

/-- A table in which every setting is absent, null or of its form. -/
structure Table.Sound (t : Table) : Prop where
  settings : ∀ s ∈ Config.settingsBefore ++ Config.settingsAfter, t.allows s = true
  customTypes : t.SoundTypes

/-- The names of the custom types have a text. -/
def Table.NamedTypes (t : Table) : Prop :=
  ∀ mark entries, t.given? "custom_types" = some (.table mark entries) →
    ∀ e ∈ entries, ∃ name, e.1.shown = .ok name

namespace Document

/-- The table that holds the settings of a document: a nested one, or the document itself. -/
def settings (d : Document) : Table := (d.nested?.bind Value.table?).getD d

/-- A document that keeps no nested settings or a table of them, and whose settings are of their
forms. -/
structure Sound (d : Document) : Prop where
  nested : ∀ v, d.nested? = some v → ∃ mark t, v = .table mark t
  settings : d.settings.Sound

end Document

/-! ## Offences -/

/-- What is wrong with a document. -/
inductive Offence where
  | setting (key : Text)
  /-- The name of a custom type has no text. -/
  | nameless
  deriving DecidableEq, Repr

/-- The first of some settings that is there and not of its form. -/
def Table.offenceAmong? (t : Table) (front : Text) (settings : List (Text × Form)) :
    Option Offence :=
  (settings.find? fun s => !t.allows s).map fun s => .setting (front ++ s.1)

/-- What is wrong with a custom type. -/
def CustomType.offence? (e : Value × Value) : Option Offence :=
  match e.1.shown with
  | .error _ => some .nameless
  | .ok name =>
    match e.2 with
    | .table _ t => Table.offenceAmong? t ("custom_types." ++ name ++ ".") settings
    | _ => some (.setting ("custom_types." ++ name))

namespace Table

/-- What is wrong with the first custom type with which something is wrong. -/
def customTypesOffence? (t : Table) : Option Offence :=
  match t.given? "custom_types" with
  | none => none
  | some (.table _ entries) => entries.findSome? CustomType.offence?
  | some _ => some (.setting "custom_types")

/-- The first thing that is wrong with the settings of a table, in the order in which they are
read. -/
def firstOffence? (t : Table) : Option Offence :=
  (t.offenceAmong? "" Config.settingsBefore).or
    (t.customTypesOffence?.or (t.offenceAmong? "" Config.settingsAfter))

end Table

/-- The first thing that is wrong with a document. -/
def Document.offence? (d : Document) : Option Offence :=
  if d.nested?.all fun v => v.table?.isSome then d.settings.firstOffence?
  else some (.setting nestedKey)

/-- How an offence ends the reading of a document from a source. -/
def Offence.Raises (source : Option Text) (o : Offence) : Failure → Prop
  | .config e => e.source = source ∧ ∃ key, o = .setting key ∧ e.problem.key? = some key
  | .fault f => o = .nameless ∧ f = .unconvertible .integerSize
  | _ => False

section Sound

variable {t : Table}

/-- No setting offends when each is allowed. -/
theorem Table.offenceAmong?_eq_none_iff {front : Text} {settings : List (Text × Form)} :
    t.offenceAmong? front settings = none ↔ ∀ s ∈ settings, t.allows s = true := by
  simp [offenceAmong?]

/-- A custom type does not offend when its name can be shown and its table allows each setting. -/
theorem CustomType.offence?_eq_none_iff {e : Value × Value} :
    CustomType.offence? e = none ↔ (∃ name, e.1.shown = .ok name) ∧
      ∃ mark inner, e.2 = .table mark inner ∧ ∀ s ∈ settings, Table.allows inner s = true := by
  obtain ⟨k, v⟩ := e
  unfold CustomType.offence?
  cases k.shown with
  | error f => simp
  | ok name => cases v <;> simp [Table.offenceAmong?_eq_none_iff]

/-- No custom type offends when all are sound and have names with texts. -/
theorem Table.customTypesOffence?_eq_none_iff :
    t.customTypesOffence? = none ↔ t.SoundTypes ∧ t.NamedTypes := by
  unfold customTypesOffence? SoundTypes NamedTypes
  cases t.given? "custom_types" with
  | none => simp
  | some v =>
    cases v with
    | table mark entries =>
      dsimp only
      simp only [List.findSome?_eq_none_iff, CustomType.offence?_eq_none_iff, Option.some.injEq,
        Value.table.injEq]
      constructor
      · intro fine
        refine ⟨?_, ?_⟩
        · rintro _ rfl
          exact ⟨mark, entries, rfl, fun e he => (fine e he).2⟩
        · rintro _ _ ⟨rfl, rfl⟩ e he
          exact (fine e he).1
      · rintro ⟨sound, named⟩ e he
        obtain ⟨_, _, ⟨rfl, rfl⟩, sound⟩ := sound _ rfl
        exact ⟨named _ _ ⟨rfl, rfl⟩ e he, sound e he⟩
    | _ => simp

/-- A table has no first offence when it is sound and its custom types have names with texts. -/
theorem Table.firstOffence?_eq_none_iff : t.firstOffence? = none ↔ t.Sound ∧ t.NamedTypes := by
  rw [firstOffence?, Option.or_eq_none_iff, Option.or_eq_none_iff, offenceAmong?_eq_none_iff,
    offenceAmong?_eq_none_iff, customTypesOffence?_eq_none_iff]
  constructor
  · rintro ⟨before, ⟨types, named⟩, after⟩
    exact ⟨⟨List.forall_mem_append.2 ⟨before, after⟩, types⟩, named⟩
  · rintro ⟨⟨settings, types⟩, named⟩
    obtain ⟨before, after⟩ := List.forall_mem_append.1 settings
    exact ⟨before, ⟨types, named⟩, after⟩

/-- And a document has none when its settings have none and it selects them soundly. -/
theorem Document.offence?_eq_none_iff {d : Document} :
    d.offence? = none ↔ d.Sound ∧ d.settings.NamedTypes := by
  have tables : (d.nested?.all fun v => v.table?.isSome) = true ↔
      ∀ v, d.nested? = some v → ∃ mark t, v = .table mark t := by
    rw [Option.all_eq_true]
    refine forall₂_congr fun v _ => ?_
    cases v <;> simp [Value.table?]
  unfold offence?
  split
  · rename_i nested
    rw [Table.firstOffence?_eq_none_iff]
    constructor
    · rintro ⟨sound, named⟩
      exact ⟨⟨tables.1 nested, sound⟩, named⟩
    · rintro ⟨sound, named⟩
      exact ⟨sound.settings, named⟩
  · rename_i nested
    exact iff_of_false (Option.some_ne_none _) fun sound => nested (tables.2 sound.1.nested)

end Sound

/-! ## Computations that are judged -/

section Judged

variable {ε α β : Type} {raises : Offence → ε → Prop} {o o' : Option Offence}

/-- A computation that ends well when nothing is wrong, and else fails for what is. -/
def Judged (raises : Offence → ε → Prop) (o : Option Offence) (x : Except ε α) : Prop :=
  match o with
  | none => ∃ a, x = .ok a
  | some o => ∃ e, x = .error e ∧ raises o e

theorem judged_pure (a : α) : Judged raises none (pure a) := ⟨a, rfl⟩

/-- Readings in a row are judged by the offence of the first, or else by that of the second. -/
theorem Judged.bind {x : Except ε α} {f : α → Except ε β} (hx : Judged raises o x)
    (hf : ∀ a, x = .ok a → Judged raises o' (f a)) : Judged raises (o.or o') (x >>= f) := by
  cases o with
  | none =>
    obtain ⟨a, rfl⟩ := hx
    exact hf a rfl
  | some o =>
    obtain ⟨e, rfl, he⟩ := hx
    exact ⟨e, rfl, he⟩

/-- What is made of a reading is judged as the reading is. -/
theorem Judged.map {x : Except ε α} {f : α → β} (hx : Judged raises o x) :
    Judged raises o (do return f (← x)) := by
  have judged := hx.bind (f := fun a => pure (f a)) fun a _ => judged_pure (f a)
  rwa [Option.or_none] at judged

/-- Readings of all members of a list are judged by the first member that offends. -/
theorem judged_mapM {offence? : α → Option Offence} {f : α → Except ε β}
    (hf : ∀ a, Judged raises (offence? a) (f a)) (xs : List α) :
    Judged raises (xs.findSome? offence?) (xs.mapM f) := by
  induction xs with
  | nil => exact judged_pure []
  | cons x xs ih =>
    have both : (x :: xs).findSome? offence? = (offence? x).or (xs.findSome? offence?) := by
      rw [List.findSome?_cons]
      cases offence? x <;> rfl
    rw [both, List.mapM_cons]
    exact (hf x).bind fun _ _ => ih.map

end Judged

/-! ## Reading settings -/

section Readers

variable {source : Option Text}

/-- Refusals of a configuration, told as failures. -/
theorem Judged.config {α : Type} {o : Option Offence} {x : Except ConfigError α}
    (h : Judged (fun o e => o.Raises source (.config e)) o x) :
    Judged (Offence.Raises source) o (liftM x : Except Failure α) := by
  cases o with
  | none =>
    obtain ⟨a, rfl⟩ := h
    exact ⟨a, rfl⟩
  | some o =>
    obtain ⟨e, rfl, he⟩ := h
    exact ⟨.config e, rfl, he⟩

namespace Table

variable (t : Table) (front : Text)

/-- Of several settings the first one that offends counts. -/
theorem offenceAmong?_cons (s : Text × Form) (rest : List (Text × Form)) :
    t.offenceAmong? front (s :: rest) =
      (t.offenceAmong? front [s]).or (t.offenceAmong? front rest) := by
  unfold offenceAmong?
  rw [List.find?_cons, List.find?_singleton]
  cases h : t.allows s <;> simp

/-- A single setting offends when it is given in a form that it does not admit. -/
theorem offenceAmong?_single (key : Text) (form : Form) :
    t.offenceAmong? front [(key, form)] =
      bif (t.given? key).all form.admits then none else some (.setting (front ++ key)) := by
  unfold offenceAmong? allows
  rw [List.find?_singleton]
  cases (t.given? key).all form.admits <;> rfl

end Table

namespace Reader

variable {α : Type} (t : Table) (front key : Text)

/-- Reading one setting, where what is decoded is what is of the form. -/
theorem read_judged {decode : Value → Option α} {form : Form}
    (decodes : ∀ v, (decode v).isSome = form.admits v) (expected : Expectation) :
    Judged (fun o e => o.Raises source (.config e)) (t.offenceAmong? front [(key, form)])
      (read ⟨t, source, front⟩ key expected decode) := by
  rw [Table.offenceAmong?_single]
  unfold read
  dsimp only
  cases t.given? key with
  | none => exact ⟨none, rfl⟩
  | some v =>
    rw [Option.all_some, ← decodes v]
    dsimp only
    cases decode v with
    | none => exact ⟨_, rfl, rfl, _, rfl, rfl⟩
    | some a => exact ⟨some a, rfl⟩

theorem isSome_text? (v : Value) : v.text?.isSome = v.isText := by
  cases v with
  | scalar s => cases s <;> rfl
  | _ => rfl

theorem isText_iff {v : Value} : v.isText = true ↔ ∃ s, v = .text s := by
  rw [← isSome_text?, Option.isSome_iff_exists]
  simp only [Value.text?_eq_some]

theorem isSome_bool? (v : Value) : v.bool?.isSome = Form.flag.admits v := by
  cases v with
  | scalar s => cases s <;> rfl
  | _ => rfl

/-- A value is a list of texts when the form of such lists admits it. -/
theorem isSome_texts? (v : Value) : v.texts?.isSome = Form.texts.admits v := by
  cases v with
  | list mark items =>
    show (items.mapM Value.text?).isSome = items.all Value.isText
    simp only [isSome_mapM, isSome_text?]
  | _ => rfl

/-- An entry is a pair of texts when both its parts are texts. -/
theorem isSome_textEntry? (e : Value × Value) :
    (Reader.textEntry? e).isSome = (e.1.isText && e.2.isText) := by
  rw [Bool.eq_iff_iff, Option.isSome_iff_exists, Bool.and_eq_true, isText_iff, isText_iff]
  simp only [textEntry?_eq_some]
  constructor
  · rintro ⟨x, rfl⟩
    exact ⟨⟨x.1, rfl⟩, ⟨x.2, rfl⟩⟩
  · rintro ⟨⟨k, hk⟩, ⟨s, hs⟩⟩
    exact ⟨(k, s), Prod.ext hk hs⟩

/-- A value is a table of texts when the form of such tables admits it. -/
theorem isSome_textEntries? (v : Value) :
    (textEntries? v).isSome = Form.textTable.admits v := by
  cases v with
  | table mark entries =>
    show (entries.mapM textEntry?).isSome = entries.all _
    rw [isSome_mapM]
    congr 1
    funext e
    exact isSome_textEntry? e
  | _ => rfl

/-- Reading a text is judged by its one setting. -/
theorem text?_judged :
    Judged (fun o e => o.Raises source (.config e)) (t.offenceAmong? front [(key, .text)])
      (text? ⟨t, source, front⟩ key) := by
  exact @read_judged _ _ t front key _ .text isSome_text? .text

/-- Reading a flag is judged by its one setting. -/
theorem flag_judged :
    Judged (fun o e => o.Raises source (.config e)) (t.offenceAmong? front [(key, .flag)])
      (flag ⟨t, source, front⟩ key) := by
  exact (read_judged t front key isSome_bool? .bool).map

/-- Reading a list of texts is judged by its one setting. -/
theorem texts_judged :
    Judged (fun o e => o.Raises source (.config e)) (t.offenceAmong? front [(key, .texts)])
      (texts ⟨t, source, front⟩ key) := by
  exact (read_judged t front key isSome_texts? .texts).map

/-- Reading a table of texts is judged by its one setting. -/
theorem textTable_judged :
    Judged (fun o e => o.Raises source (.config e)) (t.offenceAmong? front [(key, .textTable)])
      (textTable ⟨t, source, front⟩ key) := by
  exact (read_judged t front key isSome_textEntries? .textTable).map

/-- A text names a target when it is the name of one. -/
theorem isSome_ofName? (name : Text) :
    (Target.ofName? name).isSome = (Value.text name).isTargetName := by
  rw [Bool.eq_iff_iff, Target.ofName?, List.find?_isSome]
  constructor
  · rintro ⟨target, -, same⟩
    rw [← beq_iff_eq.1 same]
    cases target <;> decide
  · intro named
    have listed : name ∈ (["jvm", "android", "native"] : List Text) := List.contains_iff_mem.1 named
    simp only [List.mem_cons, List.not_mem_nil, or_false] at listed
    rcases listed with rfl | rfl | rfl
    · exact ⟨.jvm, by decide, by decide⟩
    · exact ⟨.android, by decide, by decide⟩
    · exact ⟨.native, by decide, by decide⟩

/-- What names a platform is a text. -/
theorem isText_of_isTargetName {v : Value} (named : v.isTargetName = true) : v.isText = true := by
  cases v with
  | scalar s =>
    cases s with
    | text name => rfl
    | _ => cases named
  | _ => cases named

/-- A list of targets is a list of texts. -/
theorem texts_of_targets {v : Value} (named : Form.targets.admits v = true) :
    Form.texts.admits v = true := by
  cases v with
  | list mark items =>
    exact List.all_eq_true.2 fun item hitem =>
      isText_of_isTargetName (List.all_eq_true.1 named item hitem)
  | _ => cases named

/-- Texts that do not all name platforms are refused for the first one that names none. -/
theorem names_judged (names : List Text) :
    Judged (fun o e => o.Raises source (.config e))
      (bif names.all fun name => (Value.text name).isTargetName then none else some (.setting key))
      (names.mapM fun name =>
        match Target.ofName? name with
        | some target => .ok target
        | none => .error (⟨.unknownTarget name key, source⟩ : ConfigError)) := by
  induction names with
  | nil => exact judged_pure []
  | cons name names ih =>
    rw [List.mapM_cons, List.all_cons, ← isSome_ofName?]
    cases Target.ofName? name with
    | none => exact ⟨_, rfl, rfl, key, rfl, rfl⟩
    | some target => exact ih.map

/-- Targets are read in two steps: as texts, and then as names of platforms. -/
theorem targets_judged :
    Judged (fun o e => o.Raises source (.config e)) (t.offenceAmong? "" [(key, .targets)])
      (targets ⟨t, source, ""⟩ key) := by
  rw [Table.offenceAmong?_single]
  unfold targets texts read
  dsimp only
  cases t.given? key with
  | none => exact ⟨[], rfl⟩
  | some v =>
    rw [Option.all_some]
    dsimp only
    cases hd : v.texts? with
    | none =>
      have other : Form.targets.admits v = false := by
        have noTexts : Form.texts.admits v = false := by
          rw [← isSome_texts?, hd]
          rfl
        refine Bool.eq_false_iff.2 fun named => ?_
        rw [texts_of_targets named] at noTexts
        cases noTexts
      rw [other]
      exact ⟨_, rfl, rfl, _, rfl, rfl⟩
    | some names =>
      obtain ⟨mark, rfl⟩ := Value.texts?_eq_some.1 hd
      have all : Form.targets.admits (.list mark (names.map .text)) =
          names.all fun name => (Value.text name).isTargetName := List.all_map
      rw [all]
      exact (names_judged key names).map

/-- Reading conversions is judged by the settings of a custom type, in order. -/
theorem conversions_judged :
    Judged (fun o e => o.Raises source (.config e)) (t.offenceAmong? front CustomType.settings)
      (conversions ⟨t, source, front⟩) := by
  unfold CustomType.settings
  rw [Table.offenceAmong?_cons, Table.offenceAmong?_cons t front _ [_, _],
    Table.offenceAmong?_cons t front _ [_]]
  refine (texts_judged ..).bind fun _ _ => ?_
  refine (text?_judged ..).bind fun _ _ => ?_
  refine (text?_judged ..).bind fun _ _ => ?_
  exact (text?_judged ..).map

/-- A custom type is judged for its name first: what is wrong with the rest is told with it. -/
theorem customType_judged (e : Value × Value) :
    Judged (Offence.Raises source) (CustomType.offence? e)
      (customType ⟨t, source, ""⟩ "custom_types" e) := by
  obtain ⟨k, v⟩ := e
  unfold CustomType.offence? customType
  dsimp only
  cases hk : k.shown with
  | error f => exact ⟨.fault f, rfl, rfl, k.shown_only f hk⟩
  | ok name =>
    cases v with
    | table mark inner => exact (conversions_judged inner _).config.map
    | _ => exact ⟨_, rfl, rfl, _, rfl, rfl⟩

/-- Reading custom types is judged by the first of them that offends. -/
theorem customTypes_judged :
    Judged (Offence.Raises source) t.customTypesOffence?
      (customTypes ⟨t, source, ""⟩ "custom_types") := by
  unfold Table.customTypesOffence? customTypes read
  dsimp only
  cases t.given? "custom_types" with
  | none => exact ⟨[], rfl⟩
  | some v =>
    cases v with
    | table mark entries => exact (judged_mapM (customType_judged t) entries).map
    | _ => exact ⟨_, rfl, rfl, _, rfl, rfl⟩

end Reader

/-- The settings of a table are judged one after the other. -/
theorem Config.ofTable_judged (t : Table) :
    Judged (Offence.Raises source) t.firstOffence? (ofTable t source) := by
  have cons (s s' : Text × Form) (rest : List (Text × Form)) :=
    Table.offenceAmong?_cons t "" s (s' :: rest)
  unfold Table.firstOffence? settingsBefore settingsAfter
  simp only [cons, Option.or_assoc]
  refine (Reader.text?_judged ..).config.bind fun _ _ => ?_
  refine (Reader.text?_judged ..).config.bind fun _ _ => ?_
  refine (Reader.flag_judged ..).config.bind fun _ _ => ?_
  refine (Reader.targets_judged ..).config.bind fun _ _ => ?_
  refine (Reader.textTable_judged ..).config.bind fun _ _ => ?_
  refine (Reader.flag_judged ..).config.bind fun _ _ => ?_
  refine (Reader.flag_judged ..).config.bind fun _ _ => ?_
  refine (Reader.customTypes_judged ..).bind fun _ _ => ?_
  refine (Reader.text?_judged ..).config.bind fun _ _ => ?_
  refine (Reader.flag_judged ..).config.bind fun _ _ => ?_
  refine (Reader.flag_judged ..).config.bind fun _ _ => ?_
  refine (Reader.flag_judged ..).config.bind fun _ _ => ?_
  refine (Reader.texts_judged ..).config.bind fun _ _ => ?_
  refine (Reader.texts_judged ..).config.bind fun _ _ => ?_
  exact (Reader.texts_judged ..).config.map

/-- A document is judged for where it keeps its settings, and then for these. -/
theorem Document.judged (d : Document) (force : Bool) (source : Option Text) :
    Judged (Offence.Raises source) d.offence? (Config.resolve d force source) := by
  unfold Config.resolve select offence? settings nested?
  cases (d.get? "bindings").bind Value.table? with
  | none => exact (Config.ofTable_judged d).map
  | some bindings =>
    rw [Option.bind_some]
    dsimp only
    cases bindings.get? "kotlin" with
    | none => exact (Config.ofTable_judged d).map
    | some v =>
      cases v with
      | table mark inner => exact (Config.ofTable_judged inner).map
      | _ => exact ⟨_, rfl, rfl, nestedKey, rfl, rfl⟩

/-- A document without an offence is resolved. -/
theorem Document.resolve_of_fine {d : Document} (fine : d.offence? = none) (force : Bool)
    (source : Option Text) : ∃ c, Config.resolve d force source = .ok c := by
  have judged := d.judged force source
  rw [fine] at judged
  exact judged

/-- A document with an offence is refused for it, whatever is forced and whatever it came from. -/
theorem Document.resolve_of_offence {d : Document} {o : Offence} (offends : d.offence? = some o)
    (force : Bool) (source : Option Text) :
    ∃ f, Config.resolve d force source = .error f ∧ o.Raises source f := by
  have judged := d.judged force source
  rw [offends] at judged
  exact judged

/-- A document is refused with an error that names its source, unless a custom type has a name
without a text. -/
theorem Config.resolve_error {d : Document} {force : Bool} {f : Failure}
    (h : resolve d force source = .error f) :
    (∃ e, f = .config e ∧ e.source = source) ∨ f = .fault (.unconvertible .integerSize) := by
  cases offends : d.offence? with
  | none =>
    obtain ⟨c, hc⟩ := Document.resolve_of_fine offends force source
    rw [h] at hc
    cases hc
  | some o =>
    obtain ⟨f', refused, raises⟩ := Document.resolve_of_offence offends force source
    obtain rfl := Except.error.inj (h.symm.trans refused)
    cases f with
    | config e => exact .inl ⟨e, rfl, raises.1⟩
    | fault f => exact .inr (congrArg Failure.fault raises.2)
    | _ => cases raises

end Readers

namespace Config

/-- The sound documents are accepted, where the names of their custom types have texts, and no
others are. What is refused is refused for the first thing that is wrong. -/
theorem resolve_judged (d : Document) (force : Bool) (source : Option Text) :
    ((∃ c, resolve d force source = .ok c) ↔ d.Sound ∧ d.settings.NamedTypes) ∧
      (¬ (d.Sound ∧ d.settings.NamedTypes) →
        ∃ o f, d.offence? = some o ∧ resolve d force source = .error f ∧ o.Raises source f) := by
  rw [← Document.offence?_eq_none_iff]
  cases offends : d.offence? with
  | none =>
    have accepted := Document.resolve_of_fine offends force source
    exact ⟨iff_of_true accepted rfl, fun other => absurd rfl other⟩
  | some o =>
    obtain ⟨f, refused, raises⟩ := Document.resolve_of_offence offends force source
    refine ⟨?_, fun _ => ⟨o, f, rfl, refused, raises⟩⟩
    rw [refused]
    exact iff_of_false nofun nofun

/-- A document with one custom type, which is named by a number. -/
def numbered (n : Nat) (custom : Value) : Document :=
  [(.text "custom_types", .table none [(.scalar (.int n), custom)])]

/-- Every other setting of the document is allowed. -/
theorem allows_numbered (n : Nat) (custom : Value) :
    ∀ s ∈ settingsBefore ++ settingsAfter, Table.allows (numbered n custom) s = true := by
  have others : ∀ s ∈ settingsBefore ++ settingsAfter,
      Key.same ("custom_types" : Text) s.1 = false := by
    decide
  intro s hs
  have absent : (numbered n custom).get? s.1 = none := by
    show (if Key.same (Value.text "custom_types") (Value.text s.1) = true then _ else _) = none
    rw [Value.same_text, others s hs]
    rfl
  show (((numbered n custom).get? s.1).filter _).all _ = true
  rw [absent]
  rfl

/-- A number with too many digits in the place of a name ends the reading with a fault. -/
theorem resolve_numbered {n : Nat} (h : leastTextless ≤ n) (custom : Value) (force : Bool)
    (source : Option Text) :
    resolve (numbered n custom) force source = .error (.fault (.unconvertible .integerSize)) := by
  have offends : (numbered n custom).offence? = some .nameless := by
    have typed : CustomType.offence? (.scalar (.int n), custom) = some .nameless := by
      rw [CustomType.offence?, Value.shown_of_textless h]
    have types : (numbered n custom).customTypesOffence? = some .nameless := by
      show [(Value.scalar (.int n), custom)].findSome? CustomType.offence? = _
      rw [List.findSome?_cons, typed]
    have before : Table.offenceAmong? (numbered n custom) "" settingsBefore = none :=
      Table.offenceAmong?_eq_none_iff.2 fun s hs =>
        allows_numbered n custom s (List.mem_append_left _ hs)
    have flat : (numbered n custom).settings = numbered n custom := rfl
    have absent : Option.all (fun v => v.table?.isSome) (numbered n custom).nested? = true := rfl
    rw [Document.offence?, if_pos absent, flat, Table.firstOffence?, before, types, Option.none_or,
      Option.some_or]
  obtain ⟨f, refused, raises⟩ := Document.resolve_of_offence offends force source
  rw [refused]
  cases f with
  | fault f => rw [raises.2]
  | config e =>
    obtain ⟨-, key, other, -⟩ := raises
    cases other
  | _ => cases raises

/-- A document may be sound and yet not be accepted: a whole number that names a custom type may be
too long to have a text. -/
theorem nameless_type_fails :
    (numbered leastTextless (.table none [])).Sound ∧
      resolve (numbered leastTextless (.table none [])) false none =
        .error (.fault (.unconvertible .integerSize)) := by
  refine ⟨⟨nofun, allows_numbered _ _, fun v given => ?_⟩, resolve_numbered (Nat.le_refl _) _ _ _⟩
  obtain rfl := Option.some.inj given
  refine ⟨none, _, rfl, fun e he => ?_⟩
  obtain rfl := List.mem_singleton.1 he
  exact ⟨none, [], rfl, by decide⟩

end Config

end Bindery
