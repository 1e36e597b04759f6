import Bindery.Proofs.Merge.Adding
import Bindery.Proofs.Merge.Repeating

/-!
# What is refused stays refused

A document that is refused for a setting is still refused for it after it was merged with well-typed
values (`Merge.refusal_kept`): single settings are taken over as they are, and lists and tables only
get members behind their own. So every setting is read with the same verdict as before
(`Config.ofTable_sameVerdict`), and the first bad one is blamed again.

Merging does not ask what it puts together. Where lists are expected it goes through whatever has
items, and where tables are expected it takes whatever consists of pairs; so this holds only of
settings that have the shape of theirs (`Table.Shaped`). A text in the place of a list is refused,
but merged it is the list of its characters (`Merge.letters_accepted`).
-/

namespace Bindery

open Outcome

namespace Outcome

variable {ε α α' β β' : Type}

/-- Both computations end well, or both fail in the same way. -/
def SameVerdict (x : Except ε α) (y : Except ε β) : Prop :=
  (fun _ => ()) <$> x = (fun _ => ()) <$> y

theorem sameVerdict_ok (a : α) (b : β) : SameVerdict (.ok a : Except ε α) (.ok b) := rfl

theorem sameVerdict_error (e : ε) : SameVerdict (.error e : Except ε α) (.error e : Except ε β) :=
  rfl

/-- What has the same verdict as a failure fails with the same error. -/
theorem SameVerdict.error {x : Except ε α} {y : Except ε β} (h : SameVerdict x y) {e : ε}
    (hx : x = .error e) : y = .error e := by
  subst hx
  cases y with
  | ok b => cases h
  | error e' => cases h; rfl

/-- Computations in a row have the same verdict when their steps have. -/
theorem SameVerdict.bind {x : Except ε α} {y : Except ε β} {f : α → Except ε α'}
    {g : β → Except ε β'} (h : SameVerdict x y)
    (hf : ∀ a b, x = .ok a → y = .ok b → SameVerdict (f a) (g b)) :
    SameVerdict (x >>= f) (y >>= g) := by
  cases x with
  | error e =>
    rw [h.error rfl]
    exact sameVerdict_error e
  | ok a =>
    cases y with
    | error e => cases h
    | ok b => exact hf a b rfl rfl

theorem SameVerdict.config {x : Except ConfigError α} {y : Except ConfigError β}
    (h : SameVerdict x y) :
    SameVerdict (liftM x : Except Failure α) (liftM y : Except Failure β) := by
  cases x with
  | error e =>
    rw [h.error rfl]
    exact sameVerdict_error _
  | ok a =>
    cases y with
    | error e => cases h
    | ok b => exact sameVerdict_ok a b

/-- Members on which a traversal does not fail can be put behind others. -/
theorem sameVerdict_mapM_append {f : α → Except ε β} {xs more : List α}
    (fine : ∀ x ∈ more, ∃ y, f x = .ok y) : SameVerdict (xs.mapM f) ((xs ++ more).mapM f) := by
  obtain ⟨ys, hys⟩ := exists_forall₂ fine
  rw [List.mapM_append, mapM_ok_iff.2 hys]
  cases xs.mapM f with
  | error e => exact sameVerdict_error e
  | ok zs => exact sameVerdict_ok _ _

end Outcome

/-! ## Settings that are read alike -/

section Blamed

variable {α : Type} {decode : Value → Option α}

/-- The kind that a setting is blamed for, when it is there and cannot be read. -/
def Value.blamed (decode : Value → Option α) (given : Option Value) : Option Kind :=
  given.bind fun v => if (decode v).isSome then none else some v.kind

/-- A key is judged alike in two tables when what it is blamed for is the same. -/
theorem Reader.read_sameVerdict {t t' : Table} {key : Text}
    (h : Value.blamed decode (t.given? key) = Value.blamed decode (t'.given? key))
    (source : Option Text) (front : Text) (expected : Expectation) :
    SameVerdict (read ⟨t, source, front⟩ key expected decode)
      (read ⟨t', source, front⟩ key expected decode) := by
  have verdict (t : Table) : (fun _ => ()) <$> read ⟨t, source, front⟩ key expected decode =
      match Value.blamed decode (t.given? key) with
      | none => .ok ()
      | some kind => .error ⟨.wrongKind (front ++ key) expected kind, source⟩ := by
    unfold read Value.blamed
    cases t.given? key with
    | none => rfl
    | some v => cases hd : decode v <;> simp [hd, Functor.map, Except.map]
  rw [SameVerdict, verdict, verdict, h]

/-- What is not there does not matter where what is put there can be read. -/
theorem Value.blamed_or {given v : Option Value} (fine : ∀ w, v = some w → (decode w).isSome) :
    Value.blamed decode (given.or v) = Value.blamed decode given := by
  cases given with
  | some w => rfl
  | none =>
    cases v with
    | none => rfl
    | some w => simp [blamed, fine w rfl]

end Blamed

/-- A setting with members behind its own, each of which satisfies `P`. `wrap` makes a value of
members. -/
inductive Continues {α : Type} (wrap : Mark → List α → Value) (P : α → Prop) :
    Option Value → Option Value → Prop where
  | absent : Continues wrap P none none
  | fresh {more : List α} (fine : ∀ x ∈ more, P x) :
    Continues wrap P none (some (wrap none more))
  | behind (mark : Mark) (own : List α) {more : List α} (fine : ∀ x ∈ more, P x) :
    Continues wrap P (some (wrap mark own)) (some (wrap none (own ++ more)))

namespace Continues

variable {α β γ : Type} {wrap : Mark → List α → Value} {P : α → Prop} {v v' : Option Value}

/-- Where a value is read member by member, members that can be read change no verdict. -/
theorem blamed_eq {decode : Value → Option β} (item : α → Option γ)
    (decodes : ∀ mark xs, (decode (wrap mark xs)).isSome = xs.all fun x => (item x).isSome)
    (kind : ∀ mark xs mark' xs', (wrap mark xs).kind = (wrap mark' xs').kind)
    (readable : ∀ x, P x → (item x).isSome) (h : Continues wrap P v v') :
    Value.blamed decode v = Value.blamed decode v' := by
  have all {more : List α} (fine : ∀ x ∈ more, P x) : (more.all fun x => (item x).isSome) = true :=
    List.all_eq_true.2 fun x hx => readable x (fine x hx)
  cases h with
  | absent => rfl
  | fresh fine => simp [Value.blamed, decodes, all fine]
  | @behind mark own more fine =>
    simp only [Value.blamed, Option.bind_some, decodes, List.all_append, all fine, Bool.and_true]
    rw [kind mark own none (own ++ more)]

end Continues

/-! ## Settings of each form -/

/-- A text that names a target. -/
def Value.NamesTarget (v : Value) : Prop :=
  ∃ name target, v = .text name ∧ Target.ofName? name = some target

theorem Value.NamesTarget.isSome {v : Value} (h : v.NamesTarget) : v.text?.isSome := by
  obtain ⟨name, target, rfl, -⟩ := h
  rfl

/-- An entry that a custom type can be read from. -/
def CustomType.Readable (e : Value × Value) : Prop := ∃ named, CustomType.Entry e named

/-- A list that goes on with texts is blamed as it was. -/
theorem Continues.blamed_texts {P : Value → Prop} {v v' : Option Value}
    (texts : ∀ v, P v → v.text?.isSome) (h : Continues .list P v v') :
    Value.blamed Value.texts? v = Value.blamed Value.texts? v' := by
  refine h.blamed_eq Value.text? ?_ (fun _ _ _ _ => rfl) texts
  intro mark xs
  exact isSome_mapM Value.text? xs

/-- A table that goes on with pairs of texts is blamed as it was. -/
theorem Continues.blamed_textEntries {v v' : Option Value}
    (h : Continues .table (fun e => (Reader.textEntry? e).isSome) v v') :
    Value.blamed Reader.textEntries? v = Value.blamed Reader.textEntries? v' := by
  refine h.blamed_eq Reader.textEntry? ?_ (fun _ _ _ _ => rfl) fun _ h => h
  intro mark xs
  exact isSome_mapM Reader.textEntry? xs

/-- A list of texts is given when none is there and the list is empty, or when it is there. -/
theorem Table.givesOr_texts_iff {t : Table} {key : Text} {names : List Text} :
    t.GivesOr key Value.texts? [] names ↔
      t.given? key = none ∧ names = [] ∨
        ∃ mark, t.given? key = some (.list mark (names.map .text)) := by
  simp only [GivesOr, Table.gives_iff, Value.texts?_eq_some]
  constructor
  · rintro ⟨_, ⟨hn, rfl⟩ | ⟨v, xs, hv, ⟨mark, rfl⟩, rfl⟩, rfl⟩
    · exact .inl ⟨hn, rfl⟩
    · exact .inr ⟨mark, hv⟩
  · rintro (⟨hn, rfl⟩ | ⟨mark, hv⟩)
    · exact ⟨none, .inl ⟨hn, rfl⟩, rfl⟩
    · exact ⟨some names, .inr ⟨_, names, hv, ⟨mark, rfl⟩, rfl⟩, rfl⟩

namespace Reader

variable {t t' : Table} {key : Text} (source : Option Text)

/-- A flag is judged alike in two tables in which it is blamed alike. -/
theorem flag_sameVerdict
    (h : Value.blamed Value.bool? (t.given? key) = Value.blamed Value.bool? (t'.given? key)) :
    SameVerdict (flag ⟨t, source, ""⟩ key) (flag ⟨t', source, ""⟩ key) :=
  (read_sameVerdict h source "" .bool).bind fun _ _ _ _ => sameVerdict_ok _ _

/-- And so is a list of texts. -/
theorem texts_sameVerdict
    (h : Value.blamed Value.texts? (t.given? key) = Value.blamed Value.texts? (t'.given? key)) :
    SameVerdict (texts ⟨t, source, ""⟩ key) (texts ⟨t', source, ""⟩ key) :=
  (read_sameVerdict h source "" .texts).bind fun _ _ _ _ => sameVerdict_ok _ _

/-- And a table of texts. -/
theorem textTable_sameVerdict
    (h : Value.blamed textEntries? (t.given? key) = Value.blamed textEntries? (t'.given? key)) :
    SameVerdict (textTable ⟨t, source, ""⟩ key) (textTable ⟨t', source, ""⟩ key) :=
  (read_sameVerdict h source "" .textTable).bind fun _ _ _ _ => sameVerdict_ok _ _

/-- Names of targets are put behind the names that are there. -/
theorem targets_sameVerdict (h : Continues .list Value.NamesTarget (t.given? key) (t'.given? key)) :
    SameVerdict (targets ⟨t, source, ""⟩ key) (targets ⟨t', source, ""⟩ key) := by
  refine (texts_sameVerdict source (h.blamed_texts fun _ => Value.NamesTarget.isSome)).bind
    fun names names' hnames hnames' => ?_
  obtain ⟨more, rfl, known⟩ : ∃ more, names' = names ++ more ∧
      ∀ name ∈ more, ∃ target, Target.ofName? name = some target := by
    have own := Table.givesOr_texts_iff.1 (texts_ok_iff.1 hnames)
    have all := Table.givesOr_texts_iff.1 (texts_ok_iff.1 hnames')
    have known {more : List Text} (fine : ∀ v ∈ more.map Value.text, v.NamesTarget) :
        ∀ name ∈ more, ∃ target, Target.ofName? name = some target := by
      intro name mem
      obtain ⟨_, target, ⟨⟩, found⟩ := fine _ (List.mem_map_of_mem mem)
      exact ⟨target, found⟩
    revert own all
    dsimp only
    generalize t.given? key = v at h
    generalize t'.given? key = v' at h
    cases h with
    | absent =>
      rintro (⟨-, rfl⟩ | ⟨mark, ⟨⟩⟩) (⟨-, rfl⟩ | ⟨mark, ⟨⟩⟩)
      exact ⟨[], rfl, nofun⟩
    | fresh fine =>
      rintro (⟨-, rfl⟩ | ⟨mark, ⟨⟩⟩) (⟨⟨⟩, -⟩ | ⟨mark, all⟩)
      obtain ⟨-, rfl⟩ := Value.list.inj (Option.some.inj all)
      exact ⟨names', rfl, known fine⟩
    | behind mark own fine =>
      rintro (⟨⟨⟩, -⟩ | ⟨mark, here⟩) (⟨⟨⟩, -⟩ | ⟨mark', all⟩)
      obtain ⟨-, rfl⟩ := Value.list.inj (Option.some.inj here)
      obtain ⟨-, all⟩ := Value.list.inj (Option.some.inj all)
      obtain ⟨front, more, rfl, same, rfl⟩ := List.map_eq_append_iff.1 all.symm
      obtain rfl := List.map_injective_iff.2 (fun _ _ h => by cases h; rfl) same
      exact ⟨more, rfl, known fine⟩
  refine SameVerdict.bind (sameVerdict_mapM_append fun name mem => ?_) fun _ _ _ _ =>
    sameVerdict_ok _ _
  obtain ⟨target, found⟩ := known name mem
  exact ⟨target, by rw [found]⟩

/-- Entries that custom types can be read from are put behind the entries that are there. -/
theorem customTypes_sameVerdict
    (h : Continues .table CustomType.Readable (t.given? key) (t'.given? key)) :
    SameVerdict (customTypes ⟨t, source, ""⟩ key) (customTypes ⟨t', source, ""⟩ key) := by
  have tables :
      Value.blamed Value.table? (t.given? key) = Value.blamed Value.table? (t'.given? key) := by
    generalize t.given? key = v at h
    generalize t'.given? key = v' at h
    cases h <;> rfl
  refine (read_sameVerdict tables source "" .table).config.bind
    fun given given' hgiven hgiven' => ?_
  have own := (read_ok_iff.1 (config_ok_iff.1 hgiven)).eq_bind
  have all := (read_ok_iff.1 (config_ok_iff.1 hgiven')).eq_bind
  have fine {more : Table} (readable : ∀ e ∈ more, CustomType.Readable e) :
      ∀ e ∈ more, ∃ named, customType ⟨t', source, ""⟩ key e = .ok named := by
    intro e mem
    obtain ⟨named, entry⟩ := readable e mem
    exact ⟨named, customType_ok_iff.2 entry⟩
  subst own all
  dsimp only
  generalize t.given? key = v at h
  generalize t'.given? key = v' at h
  cases h with
  | absent => exact sameVerdict_ok _ _
  | fresh readable =>
    obtain ⟨found, hfound⟩ := exists_forall₂ (fine readable)
    simp only [Option.bind_some, Value.table?, mapM_ok_iff.2 hfound]
    exact sameVerdict_ok _ _
  | behind mark own readable =>
    exact (sameVerdict_mapM_append (fine readable)).bind fun _ _ _ _ => sameVerdict_ok _ _

end Reader

/-! ## All settings -/

namespace Merge

/-- The settings that are one text. -/
def textKeys : List Text := ["package_name", "cdylib_name", "kotlin_target_version"]

/-- The settings that are one truth value. -/
def flagKeys : List Text := [
  "kotlin_multiplatform", "generate_immutable_records", "omit_checksums", "disable_java_cleaner",
  "generate_serializable_types", "use_pascal_case_enum_class"]

/-- The settings that are lists of any texts. -/
def libraryKeys : List Text := [
  "jvm_dynamic_library_dependencies", "android_dynamic_library_dependencies",
  "dynamic_library_dependencies"]

end Merge

open Merge

/-- A table whose settings are read like those of another one, each with the same verdict. -/
structure Table.Keeps (own merged : Table) : Prop where
  texts : ∀ key ∈ textKeys,
    Value.blamed Value.text? (own.given? key) = Value.blamed Value.text? (merged.given? key)
  flags : ∀ key ∈ flagKeys,
    Value.blamed Value.bool? (own.given? key) = Value.blamed Value.bool? (merged.given? key)
  libraries : ∀ key ∈ libraryKeys,
    Value.blamed Value.texts? (own.given? key) = Value.blamed Value.texts? (merged.given? key)
  targets : Continues .list Value.NamesTarget (own.given? "kotlin_targets")
    (merged.given? "kotlin_targets")
  externalPackages : Value.blamed Reader.textEntries? (own.given? "external_packages") =
    Value.blamed Reader.textEntries? (merged.given? "external_packages")
  customTypes : Continues .table CustomType.Readable (own.given? "custom_types")
    (merged.given? "custom_types")

/-- Settings that are kept are judged as before. -/
theorem Config.ofTable_sameVerdict {own merged : Table} (h : own.Keeps merged)
    (source : Option Text) : SameVerdict (ofTable own source) (ofTable merged source) := by
  have text (key : Text) (mem : key ∈ textKeys) :=
    (Reader.read_sameVerdict (h.texts key mem) source "" .text).config
  have flag (key : Text) (mem : key ∈ flagKeys) :=
    (Reader.flag_sameVerdict source (h.flags key mem)).config
  have library (key : Text) (mem : key ∈ libraryKeys) :=
    (Reader.texts_sameVerdict source (h.libraries key mem)).config
  -- The settings in the order in which they are read.
  refine (text "package_name" (by simp [textKeys])).bind fun _ _ _ _ => ?_
  refine (text "cdylib_name" (by simp [textKeys])).bind fun _ _ _ _ => ?_
  refine (flag "kotlin_multiplatform" (by simp [flagKeys])).bind fun _ _ _ _ => ?_
  refine (Reader.targets_sameVerdict source h.targets).config.bind fun _ _ _ _ => ?_
  refine (Reader.textTable_sameVerdict source h.externalPackages).config.bind fun _ _ _ _ => ?_
  refine (flag "generate_immutable_records" (by simp [flagKeys])).bind fun _ _ _ _ => ?_
  refine (flag "omit_checksums" (by simp [flagKeys])).bind fun _ _ _ _ => ?_
  refine (Reader.customTypes_sameVerdict source h.customTypes).bind fun _ _ _ _ => ?_
  refine (text "kotlin_target_version" (by simp [textKeys])).bind fun _ _ _ _ => ?_
  refine (flag "disable_java_cleaner" (by simp [flagKeys])).bind fun _ _ _ _ => ?_
  refine (flag "generate_serializable_types" (by simp [flagKeys])).bind fun _ _ _ _ => ?_
  refine (flag "use_pascal_case_enum_class" (by simp [flagKeys])).bind fun _ _ _ _ => ?_
  refine (library "jvm_dynamic_library_dependencies" (by simp [libraryKeys])).bind
    fun _ _ _ _ => ?_
  refine (library "android_dynamic_library_dependencies" (by simp [libraryKeys])).bind
    fun _ _ _ _ => ?_
  refine (library "dynamic_library_dependencies" (by simp [libraryKeys])).bind fun _ _ _ _ => ?_
  exact sameVerdict_ok _ _

/-- So is a document whose settings are kept. -/
theorem Config.resolve_sameVerdict {d d' : Document} {selection selection' : Selection}
    (selected : select d none = .ok selection) (selected' : select d' none = .ok selection')
    (h : selection.table.Keeps selection'.table) (force : Bool) (source : Option Text) :
    SameVerdict (resolve d force source) (resolve d' force source) := by
  unfold resolve
  rw [config_ok_iff.2 (select_source selected source),
    config_ok_iff.2 (select_source selected' source)]
  exact (ofTable_sameVerdict h source).bind fun _ _ _ _ => sameVerdict_ok _ _

/-- Settings that merging takes for lists are lists, and those that it takes for tables are
tables. -/
structure Table.Shaped (own : Table) : Prop where
  lists : ∀ key ∈ Text.ofString "kotlin_targets" :: libraryKeys, ∀ v, own.given? key = some v →
    ∃ mark items, v = .list mark items
  tables : ∀ key ∈ [Text.ofString "custom_types", Text.ofString "external_packages"], ∀ v,
    own.given? key = some v → ∃ mark entries, v = .table mark entries

namespace Merge

/-! ## What merging keeps -/

section Parts

variable {a b : Option Value}

/-- A merged list goes on with what was supplied. -/
theorem mergeList_continues {P : Value → Prop}
    (ha : ∀ v, a = some v → ∃ mark items, v = .list mark items)
    (hb : ∀ v, b = some v → ∃ mark items, v = .list mark items ∧ ∀ x ∈ items, P x) :
    ∃ items, mergeList a b = .ok items ∧ Continues .list P a (items.map (.list none)) := by
  cases a with
  | none =>
    cases b with
    | none => exact ⟨none, rfl, .absent⟩
    | some w =>
      obtain ⟨mark, more, rfl, fine⟩ := hb w rfl
      exact ⟨some more, rfl, .fresh fine⟩
  | some v =>
    obtain ⟨mark, own, rfl⟩ := ha v rfl
    cases b with
    | none =>
      have kept : Continues .list P (some (.list mark own)) (some (.list none (own ++ []))) :=
        .behind mark own nofun
      rw [List.append_nil] at kept
      exact ⟨some own, rfl, kept⟩
    | some w =>
      obtain ⟨mark', more, rfl, fine⟩ := hb w rfl
      exact ⟨some (own ++ more), rfl, .behind mark own fine⟩

/-- A merged table goes on with what was supplied. -/
theorem mergeTable_continues {P : Value × Value → Prop}
    (ha : ∀ v, a = some v → ∃ mark entries, v = .table mark entries)
    (hb : ∀ v, b = some v → ∃ mark entries, v = .table mark entries ∧ Assoc.Distinct entries ∧
      ∀ e ∈ entries, P e) :
    ∃ entries, mergeTable a b = .ok entries ∧ Continues .table P a (entries.map (.table none)) := by
  cases a with
  | none =>
    cases b with
    | none => exact ⟨none, rfl, .absent⟩
    | some w =>
      obtain ⟨mark, more, rfl, -, fine⟩ := hb w rfl
      exact ⟨some more, rfl, .fresh fine⟩
  | some v =>
    obtain ⟨mark, own, rfl⟩ := ha v rfl
    cases b with
    | none =>
      have kept : Continues .table P (some (.table mark own)) (some (.table none (own ++ []))) :=
        .behind mark own nofun
      rw [List.append_nil] at kept
      exact ⟨some own, rfl, kept⟩
    | some w =>
      obtain ⟨mark', more, rfl, distinct, fine⟩ := hb w rfl
      refine ⟨some (Assoc.union own more), rfl, ?_⟩
      rw [Assoc.union_eq_append_filter own distinct]
      exact .behind mark own fun e mem => fine e (List.mem_of_mem_filter mem)

end Parts

section Supplied

variable {s : Supplied}

/-- Libraries that are supplied and well typed are a list of texts. -/
theorem listed_libraries (typed : s.WellTyped) {v : Value}
    (mem : some v ∈ [s.jvmLibraries, s.androidLibraries, s.sharedLibraries]) :
    ∃ mark items, v = .list mark items ∧ ∀ x ∈ items, x.text?.isSome := by
  obtain ⟨xs, hxs⟩ := Option.isSome_iff_exists.1 (typed.libraries v mem)
  obtain ⟨mark, rfl⟩ := Value.texts?_eq_some.1 hxs
  refine ⟨mark, _, rfl, fun x hx => ?_⟩
  obtain ⟨text, -, rfl⟩ := List.mem_map.1 hx
  rfl

/-- Targets that are supplied and well typed are a list of names of targets. -/
theorem listed_targets (typed : s.WellTyped) {v : Value} (given : s.targets = some v) :
    ∃ mark items, v = .list mark items ∧ ∀ x ∈ items, x.NamesTarget := by
  obtain ⟨names, found, hnames, hfound⟩ := typed.targets v given
  obtain ⟨mark, rfl⟩ := Value.texts?_eq_some.1 hnames
  refine ⟨mark, _, rfl, fun x hx => ?_⟩
  obtain ⟨name, mem, rfl⟩ := List.mem_map.1 hx
  obtain ⟨target, htarget⟩ := exists_of_forall₂ hfound name mem
  exact ⟨name, target, rfl, htarget⟩

/-- Custom types that are supplied and well typed are a table of readable ones. -/
theorem tabled_customTypes (typed : s.WellTyped) {v : Value} (given : s.customTypes = some v) :
    ∃ mark entries, v = .table mark entries ∧ Assoc.Distinct entries ∧
      ∀ e ∈ entries, CustomType.Readable e := by
  obtain ⟨entries, hentries, distinct, readable⟩ := typed.customTypes v given
  obtain ⟨mark, rfl⟩ := Value.table?_eq_some.1 hentries
  refine ⟨mark, entries, rfl, distinct, fun e mem => ?_⟩
  obtain ⟨name, custom, -, entry⟩ := readable e mem
  exact ⟨_, entry⟩

/-- Packages that were found are a table of texts. -/
theorem tabled_packages {packages : Option Packages} (distinct : Assoc.Distinct (packages.getD []))
    {v : Value} (given : (packages.map fun found => .table none (packageTable found)) = some v) :
    ∃ mark entries, v = .table mark entries ∧ Assoc.Distinct entries ∧
      ∀ e ∈ entries, (Reader.textEntry? e).isSome := by
  obtain ⟨found, rfl, rfl⟩ := Option.map_eq_some_iff.1 given
  refine ⟨none, _, rfl, Assoc.distinct_map Value.same_text distinct, fun e mem => ?_⟩
  obtain ⟨e', -, rfl⟩ := List.mem_map.1 mem
  rfl

end Supplied

section Settings

variable {own : Table} {s : Supplied} {packages : Option Packages}
variable {ls : List (Text × Option Value)} {ct ep : Option Table} {version : Option Value}

/-- The lists of settings, each with the supplied members behind its own. -/
theorem lists_continue (shaped : own.Shaped) (typed : s.WellTyped) :
    ∃ ls, lists own s = .ok ls ∧
      (∃ e ∈ ls, e.1 = "kotlin_targets" ∧
        Continues .list Value.NamesTarget (own.given? e.1) e.2) ∧
      ∀ key ∈ libraryKeys, ∃ e ∈ ls, e.1 = key ∧
        Continues .list (fun v => v.text?.isSome) (own.given? e.1) e.2 := by
  obtain ⟨targets, htargets, keptTargets⟩ := mergeList_continues
    (shaped.lists "kotlin_targets" List.mem_cons_self) fun v => listed_targets typed
  have library {v : Option Value} (key : Text) (mem : key ∈ libraryKeys)
      (given : v ∈ [s.jvmLibraries, s.androidLibraries, s.sharedLibraries]) :=
    mergeList_continues (shaped.lists key (List.mem_cons_of_mem _ mem))
      fun w hw => listed_libraries typed (hw ▸ given)
  obtain ⟨jvm, hjvm, keptJvm⟩ := library (v := s.jvmLibraries)
    "jvm_dynamic_library_dependencies" (by simp [libraryKeys]) (by simp)
  obtain ⟨android, handroid, keptAndroid⟩ := library (v := s.androidLibraries)
    "android_dynamic_library_dependencies" (by simp [libraryKeys]) (by simp)
  obtain ⟨shared, hshared, keptShared⟩ := library (v := s.sharedLibraries)
    "dynamic_library_dependencies" (by simp [libraryKeys]) (by simp)
  refine ⟨_, lists_ok_iff.2 (.cons ⟨targets, htargets, rfl⟩ (.cons ⟨jvm, hjvm, rfl⟩
    (.cons ⟨android, handroid, rfl⟩ (.cons ⟨shared, hshared, rfl⟩ .nil)))), ?_, ?_⟩
  · exact ⟨_, List.mem_cons_self, rfl, keptTargets⟩
  · intro key mem
    simp only [libraryKeys, List.mem_cons, List.not_mem_nil, or_false] at mem
    rcases mem with rfl | rfl | rfl
    · exact ⟨_, .tail _ (.head _), rfl, keptJvm⟩
    · exact ⟨_, .tail _ (.tail _ (.head _)), rfl, keptAndroid⟩
    · exact ⟨_, .tail _ (.tail _ (.tail _ (.head _))), rfl, keptShared⟩

/-- A single setting is blamed as before: its own value counts, and a supplied one can be read. -/
theorem Settled.blamed_single {α : Type} {decode : Value → Option α}
    (h : Settled own s packages ls ct ep version) (typed : s.WellTyped) {key : Text}
    {v : Option Value} (mem : (key, v) ∈ s.singles) (fine : ∀ w, v = some w → (decode w).isSome) :
    Value.blamed decode (own.given? key) =
      Value.blamed decode ((present (assembled own s ls ct ep version)).given? key) := by
  rw [h.given?_single mem (isNull_of_single typed _ mem), Value.blamed_or fine]

/-- Merging keeps what texts are blamed for. -/
theorem Settled.keeps_texts (h : Settled own s packages ls ct ep version) (typed : s.WellTyped) :
    ∀ key ∈ textKeys, Value.blamed Value.text? (own.given? key) =
      Value.blamed Value.text? ((present (assembled own s ls ct ep version)).given? key) := by
  intro key mem
  simp only [textKeys, List.mem_cons, List.not_mem_nil, or_false] at mem
  rcases mem with rfl | rfl | rfl
  · exact h.blamed_single typed (v := s.packageName) (by simp [Supplied.singles])
      fun w hw => typed.texts w (by simp [hw])
  · exact h.blamed_single typed (v := s.cdylibName) (by simp [Supplied.singles])
      fun w hw => typed.texts w (by simp [hw])
  · obtain rfl := Except.ok.inj (h.version.symm.trans (version?_ok typed))
    rw [h.given?_version]
    exact (Value.blamed_or fun w hw => text?_of_versionGiven typed hw).symm

/-- And what flags are blamed for. -/
theorem Settled.keeps_flags (h : Settled own s packages ls ct ep version) (typed : s.WellTyped) :
    ∀ key ∈ flagKeys, Value.blamed Value.bool? (own.given? key) =
      Value.blamed Value.bool? ((present (assembled own s ls ct ep version)).given? key) := by
  have flag {key : Text} (v : Option Value) (mem : (key, v) ∈ s.singles)
      (given : v ∈ [s.multiplatform, s.immutableRecords, s.omitChecksums, s.disableJavaCleaner,
        s.serializableTypes, s.pascalCaseEnums]) :=
    h.blamed_single typed mem fun w (hw : v = some w) => typed.flags w (hw ▸ given)
  intro key mem
  simp only [flagKeys, List.mem_cons, List.not_mem_nil, or_false] at mem
  rcases mem with rfl | rfl | rfl | rfl | rfl | rfl
  · exact flag s.multiplatform (by simp [Supplied.singles]) (by simp)
  · exact flag s.immutableRecords (by simp [Supplied.singles]) (by simp)
  · exact flag s.omitChecksums (by simp [Supplied.singles]) (by simp)
  · exact flag s.disableJavaCleaner (by simp [Supplied.singles]) (by simp)
  · exact flag s.serializableTypes (by simp [Supplied.singles]) (by simp)
  · exact flag s.pascalCaseEnums (by simp [Supplied.singles]) (by simp)

/-- Merging settings in the shape of theirs with well-typed ones ends well, and keeps how they are
read. -/
theorem settings_kept (shaped : own.Shaped) (typed : s.WellTyped)
    (distinct : Assoc.Distinct (packages.getD [])) :
    ∃ ls ct ep version, Settled own s packages ls ct ep version ∧
      own.Keeps (present (assembled own s ls ct ep version)) := by
  obtain ⟨ls, hls, keptTargets, keptLibraries⟩ := lists_continue shaped typed
  obtain ⟨ct, hct, keptTypes⟩ := mergeTable_continues
    (shaped.tables "custom_types" (by simp)) fun v => tabled_customTypes typed
  obtain ⟨ep, hep, keptPackages⟩ := mergeTable_continues
    (shaped.tables "external_packages" (by simp)) fun v => tabled_packages distinct
  have settled : Settled own s packages ls ct ep s.versionGiven :=
    ⟨hls, hct, hep, version?_ok typed⟩
  refine ⟨ls, ct, ep, _, settled, settled.keeps_texts typed, settled.keeps_flags typed, ?_, ?_, ?_,
    ?_⟩
  · intro key mem
    obtain ⟨e, there, rfl, kept⟩ := keptLibraries key mem
    rw [settled.given?_of_mem_lists there]
    exact kept.blamed_texts fun _ h => h
  · obtain ⟨e, there, same, kept⟩ := keptTargets
    rw [← same, settled.given?_of_mem_lists there]
    exact kept
  · rw [settled.given?_externalPackages]
    exact keptPackages.blamed_textEntries
  · rw [settled.given?_customTypes]
    exact keptTypes

end Settings

/-! ## Merging refused documents -/

section Files

variable {α : Type} {load : α → Except Failure Document} {files : List α}

/-- Harvesting ends well, or with the refusal of a file, when every file is refused or tells
something that has a text. -/
theorem harvest_ends {skip : α → Except Failure Unit} (hskip : ∀ file, skip file = .ok ())
    (tell : ∀ file ∈ files,
      (∃ d, load file = .ok d ∧ Tellable d) ∨ ∃ e, load file = .error (.config e)) :
    (∃ found, harvest load skip files = .ok found) ∨
      ∃ e, harvest load skip files = .error (.config e) := by
  unfold harvest
  generalize ([] : Packages) = start
  induction files generalizing start with
  | nil => exact .inl ⟨start, rfl⟩
  | cons file files ih =>
    rw [List.foldlM_cons]
    rcases tell file List.mem_cons_self with ⟨d, hload, tellable⟩ | ⟨e, hload⟩
    · obtain ⟨told, htold⟩ := tellable.contribution_ok
      have step := @harvest_step α load skip start file d told hload htold (hskip file)
      rcases ih (fun f hf => tell f (List.mem_cons_of_mem _ hf)) _ with ⟨found, h⟩ | ⟨e, h⟩
      · exact .inl ⟨found, (congrArg (· >>= _) step).trans h⟩
      · exact .inr ⟨e, (congrArg (· >>= _) step).trans h⟩
    · rw [hload]
      exact .inr ⟨e, rfl⟩

/-- Files that can be told or are refused come to packages, or to a refusal. -/
theorem told_ends
    (tell : ∀ file ∈ files,
      (∃ d, load file = .ok d ∧ Tellable d) ∨ ∃ e, load file = .error (.config e)) :
    (∃ packages : Option Packages, told load files = packages.map Except.ok) ∨
      ∃ e, told load files = some (.error (.config e)) := by
  unfold told
  split
  · exact .inl ⟨none, rfl⟩
  · rcases harvest_ends (fun _ => rfl) tell with ⟨found, h⟩ | ⟨e, h⟩
    · exact .inl ⟨some found, congrArg some h⟩
    · exact .inr ⟨e, congrArg some h⟩

/-- A refused file is refused by the merge that asks it, once the lists and the custom types are
combined. -/
theorem settings_refused {own : Table} {s : Supplied} {packages : Option Packages}
    {ls : List (Text × Option Value)} {ct ep : Option Table} {version : Option Value}
    (h : Settled own s packages ls ct ep version) (e : Failure) :
    settings own s (some (.error e)) = (.error e : Except Failure Table) := by
  unfold settings
  rw [combined_ok_iff.2 h.lists, combined_ok_iff.2 h.customTypes]
  rfl

/-- Merging places what the selected settings become. -/
theorem mergeFiles_of_select {base : Option Document} {s : Supplied} {selection : Selection}
    (selected : select (base.getD Document.empty) none = .ok selection) :
    mergeFiles load base s files = placed (base.getD Document.empty) s <$>
      settings selection.table s (told load files) := by
  unfold mergeFiles merge
  dsimp only
  rw [selected]
  exact bind_pure_comp _ _

/-- A document that is refused for a setting is refused for it again after it was merged with
well-typed values and with what other files tell, unless the merge refuses it or one of the files.
This is so where its settings have the shape of theirs, and what the files tell has a text. -/
theorem refusal_kept {base : Option Document} {s : Supplied} {force : Bool} {source : Option Text}
    {e : ConfigError}
    (refused : Config.resolve (base.getD Document.empty) force source = .error (.config e))
    (typed : s.WellTyped)
    (shaped : ∀ selection, select (base.getD Document.empty) none = .ok selection →
      selection.table.Shaped)
    (tell : ∀ file ∈ files,
      (∃ d, load file = .ok d ∧ Tellable d) ∨ ∃ e, load file = .error (.config e)) :
    (∃ e, mergeFiles load base s files = .error (.config e)) ∨
      ∃ merged, mergeFiles load base s files = .ok merged ∧
        Config.resolve merged force source = .error (.config e) := by
  cases selected : select (base.getD Document.empty) none with
  | error e' =>
    left
    refine ⟨e', ?_⟩
    unfold mergeFiles merge
    dsimp only
    rw [selected]
    rfl
  | ok selection =>
    rcases told_ends tell with ⟨packages, htold⟩ | ⟨e', htold⟩
    · right
      obtain ⟨ls, ct, ep, version, settled, keeps⟩ :=
        settings_kept (shaped _ selected) typed (distinct_told htold)
      refine ⟨_, mergeFiles_ok_iff.2 ⟨selection, _, selected,
        settings_ok_iff.2 ⟨packages, ls, ct, ep, version, htold, settled, rfl⟩, rfl⟩, ?_⟩
      exact (Config.resolve_sameVerdict selected (select_placed _ s _ none) keeps force
        source).error refused
    · left
      -- The lists and the custom types are combined before any file is asked.
      obtain ⟨ls, ct, ep, version, settled, -⟩ :
          ∃ ls ct ep version, Settled selection.table s none ls ct ep version ∧ _ :=
        settings_kept (shaped _ selected) typed .nil
      refine ⟨e', ?_⟩
      rw [mergeFiles_of_select selected, htold, settings_refused settled]
      rfl

end Files

/-- A flat document with a setting of a wrong kind. -/
def misnamed : Document := [
  (.text "cdylib_name", .int 5), (.text "kotlin_targets", .list none [.text "native"])]

theorem misnamed_shaped : Table.Shaped misnamed where
  lists key mem v given := by
    simp only [libraryKeys, List.mem_cons, List.not_mem_nil, or_false] at mem
    rcases mem with rfl | rfl | rfl | rfl
    · obtain rfl := Option.some.inj (given : some (Value.list none [.text "native"]) = some v)
      exact ⟨_, _, rfl⟩
    all_goals exact nomatch (given : none = some v)
  tables key mem v given := by
    simp only [List.mem_cons, List.not_mem_nil, or_false] at mem
    rcases mem with rfl | rfl
    all_goals exact nomatch (given : none = some v)

/-- It is merged with supplied values and with what another document tells, and refused as
before. -/
theorem refusal_kept_misnamed :
    (∃ e, mergeFiles (fun _ : Unit => .ok (sibling (.text "kept"))) (some misnamed) spare [()] =
        .error (.config e)) ∨
      ∃ merged, mergeFiles (fun _ : Unit => .ok (sibling (.text "kept"))) (some misnamed) spare
          [()] = .ok merged ∧
        Config.resolve merged false none =
          .error (.config ⟨.wrongKind "cdylib_name" .text .int, none⟩) := by
  apply refusal_kept
  · rfl
  · refine ⟨by simp [spare, Value.text?], by simp [spare], by simp [spare], ?_, by simp [spare]⟩
    intro v hv
    obtain rfl := Option.some.inj hv
    exact ⟨["jvm"], [.jvm], rfl, .cons (by decide) .nil⟩
  · intro selection selected
    have flat : select misnamed none = .ok ⟨.flat, misnamed⟩ := rfl
    obtain rfl := Except.ok.inj (flat.symm.trans selected)
    exact misnamed_shaped
  · intro file _
    refine .inl ⟨_, rfl, ?_⟩
    rintro crate nested - hn e he
    obtain rfl := Option.some.inj hn
    obtain rfl := List.mem_singleton.1 he
    exact ⟨("other", "kept"), rfl⟩

/-- A text where a list is expected is refused. Merged with nothing it is the list of its
characters, and accepted. -/
theorem letters_accepted :
    ∃ e merged c,
      Config.resolve [(.text "dynamic_library_dependencies", .text "ssl")] false none =
        .error (.config e) ∧
      Supplied.WellTyped {} ∧
      mergeFiles (fun _ : Unit => .ok Document.empty)
        (some [(.text "dynamic_library_dependencies", .text "ssl")]) {} [] = .ok merged ∧
      Config.resolve merged false none = .ok c ∧ c.sharedLibraries = ["s", "s", "l"] := by
  refine ⟨_, _, _, rfl, ⟨by simp, by simp, by simp, by simp, by simp⟩, rfl, rfl, ?_⟩
  decide +kernel

end Merge

end Bindery
