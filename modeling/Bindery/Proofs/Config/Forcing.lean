import Bindery.Proofs.Config.Recognised
import Bindery.Proofs.Merge.Agreement
import Bindery.Proofs.Value.Keys

/-!
# A build for several platforms lies over a document

A run may ask for a multiplatform build whatever the documents say. That changes two settings of a
configuration and nothing else, and is no more than what the document could have said itself: the
flag, and the targets that the forced configuration has (`Config.resolve_forced`).
-/

namespace Bindery

open Outcome

/-! ## Documents with other settings -/

/-- A document with other settings in the place of its own. -/
def Document.withSettings (d : Document) (settings : Table) : Document :=
  match (d.get? "bindings").bind Value.table? with
  | none => settings
  | some bindings =>
    match bindings.get? "kotlin" with
    | none => settings
    | some _ => d.put "bindings" (.table none (bindings.put "kotlin" (.table none settings)))

/-- In a document without an inner table the settings are the document itself. -/
theorem Document.withSettings_flat {d : Document} (flat : d.nested? = none) (settings : Table) :
    d.withSettings settings = settings := by
  unfold nested? at flat
  unfold withSettings
  cases h : (d.get? "bindings").bind Value.table? with
  | none => rfl
  | some bindings =>
    rw [h, Option.bind_some] at flat
    dsimp only
    rw [flat]

/-- New settings take the place of the inner table. -/
theorem Document.nested?_withSettings {d : Document} {v : Value} (nested : d.nested? = some v)
    (settings : Table) : (d.withSettings settings).nested? = some (.table none settings) := by
  obtain ⟨bindings, hb, hv⟩ := Option.bind_eq_some_iff.1 nested
  unfold withSettings
  rw [hb]
  dsimp only
  rw [hv]
  dsimp only
  have outer := Table.get?_put_self d "bindings"
    (.table none (bindings.put "kotlin" (.table none settings)))
  have inner := Table.get?_put_self bindings "kotlin" (.table none settings)
  rw [nested?, outer]
  exact inner

/-- The settings of a document can be changed where they stand, if the changed ones do not begin to
hold nested settings. -/
theorem select_withSettings {d : Document} {source : Option Text} {s : Selection}
    (selected : select d source = .ok s) {settings : Table}
    (flat : Document.nested? settings = Document.nested? s.table) :
    select (d.withSettings settings) source = .ok { s with table := settings } := by
  rcases select_ok_iff.1 selected with ⟨hn, rfl⟩ | ⟨mark, own, hn, rfl⟩
  · rw [Document.withSettings_flat hn]
    exact select_ok_iff.2 (.inl ⟨flat.trans hn, rfl⟩)
  · exact select_ok_iff.2 (.inr ⟨none, settings, Document.nested?_withSettings hn settings, rfl⟩)

/-! ## Settings that ask for several platforms -/

/-- A table of settings that also asks for a multiplatform build, for the named targets. -/
def Table.withTargets (t : Table) (names : List Text) : Table :=
  (t.put "kotlin_multiplatform" (.bool true)).put "kotlin_targets" (.list none (names.map .text))

namespace Table

variable {t : Table} {names : List Text} {key : Text}

/-- Setting targets touches the two keys of targets only. -/
theorem get?_withTargets (flag : key ≠ "kotlin_multiplatform") (targets : key ≠ "kotlin_targets") :
    (t.withTargets names).get? key = t.get? key := by
  rw [withTargets, get?_put_of_ne targets.symm, get?_put_of_ne flag.symm]

theorem given?_withTargets (flag : key ≠ "kotlin_multiplatform")
    (targets : key ≠ "kotlin_targets") : (t.withTargets names).given? key = t.given? key := by
  rw [given?, given?, get?_withTargets flag targets]

/-- So what is given under another key stays given. -/
theorem Gives.withTargets {α : Type} {decode : Value → Option α} {a : Option α}
    (h : t.Gives key decode a) (flag : key ≠ "kotlin_multiplatform")
    (targets : key ≠ "kotlin_targets") : (t.withTargets names).Gives key decode a := by
  rwa [Gives, given?_withTargets flag targets]

theorem GivesOr.withTargets {α : Type} {decode : Value → Option α} {default a : α}
    (h : t.GivesOr key decode default a) (flag : key ≠ "kotlin_multiplatform")
    (targets : key ≠ "kotlin_targets") : (t.withTargets names).GivesOr key decode default a := by
  obtain ⟨given, hgiven, ha⟩ := h
  exact ⟨given, hgiven.withTargets flag targets, ha⟩

/-- The flag that is set is on. -/
theorem given?_withTargets_flag :
    (t.withTargets names).given? "kotlin_multiplatform" = some (.bool true) := by
  rw [given?, withTargets, get?_put_of_ne (by decide), get?_put_self]
  rfl

/-- The targets that are set are those that were named. -/
theorem given?_withTargets_targets :
    (t.withTargets names).given? "kotlin_targets" = some (.list none (names.map .text)) := by
  rw [given?, withTargets, get?_put_self]
  rfl

end Table

/-- The names that a document lists its targets by, each as often as it does. -/
def Document.targetNames (d : Document) : List Text := textsOf (d.settings.given? "kotlin_targets")

/-- The names of targets. -/
def Target.names (targets : List Target) : List Text := targets.map fun t => t.name

/-- The names of targets are read as these targets. -/
theorem Reader.targetsOf_names (targets : List Target) :
    Reader.TargetsOf (Target.names targets) targets := by
  refine List.forall₂_map_left_iff.2 (List.forall₂_same.2 fun t _ => ?_)
  cases t <;> rfl

namespace Config

variable {t : Table} {c : Config}

/-- Of a table's configuration, only the flag and the targets become others. -/
theorem Describes.withTargets (h : Describes t c) {targets : List Target}
    (once : targets.Nodup) :
    Describes (t.withTargets (Target.names targets))
      { c with multiplatform := true, targets } := by
  have named : (t.withTargets (Target.names targets)).Gives "kotlin_targets" Value.texts?
      (some (Target.names targets)) := by
    rw [Table.Gives, Table.given?_withTargets_targets]
    exact congrArg some (Value.texts?_eq_some.2 ⟨none, rfl⟩)
  obtain ⟨entries, found, hentries, hfound, customs⟩ := h.customTypes
  exact {
    packageName := h.packageName.withTargets (by decide) (by decide)
    cdylibName := h.cdylibName.withTargets (by decide) (by decide)
    multiplatform := ⟨some true, by rw [Table.Gives, Table.given?_withTargets_flag]; rfl, rfl⟩
    targets := ⟨_, targets, ⟨_, named, rfl⟩, Reader.targetsOf_names targets,
      Sequence.distinct_of_nodup once⟩
    externalPackages := h.externalPackages.withTargets (by decide) (by decide)
    immutableRecords := h.immutableRecords.withTargets (by decide) (by decide)
    omitChecksums := h.omitChecksums.withTargets (by decide) (by decide)
    customTypes := ⟨entries, found, hentries.withTargets (by decide) (by decide), hfound, customs⟩
    targetVersion := h.targetVersion.withTargets (by decide) (by decide)
    disableJavaCleaner := h.disableJavaCleaner.withTargets (by decide) (by decide)
    serializableTypes := h.serializableTypes.withTargets (by decide) (by decide)
    pascalCaseEnums := h.pascalCaseEnums.withTargets (by decide) (by decide)
    jvmLibraries := h.jvmLibraries.withTargets (by decide) (by decide)
    androidLibraries := h.androidLibraries.withTargets (by decide) (by decide)
    sharedLibraries := h.sharedLibraries.withTargets (by decide) (by decide) }

/-- The targets of a configuration have the names that its table lists, each once. -/
theorem Describes.names_targets (h : Describes t c) :
    Target.names c.targets = (textsOf (t.given? "kotlin_targets")).eraseDups := by
  obtain ⟨names, found, hnames, hfound, htargets⟩ := h.targets
  rw [← Sequence.distinct_eq_eraseDups, textsOf, ← hnames.eq_getD, ← hfound.map_name,
    ← Sequence.map_distinct Target.name_injective, htargets]
  rfl

/-- No target of a configuration stands twice. -/
theorem Describes.targets_nodup (h : Describes t c) : c.targets.Nodup := by
  obtain ⟨names, found, -, -, htargets⟩ := h.targets
  rw [← htargets]
  exact Sequence.nodup_distinct found

/-! ## The forced configuration -/

/-- Forcing twice is forcing once. -/
theorem forced_forced (c : Config) : c.forced.forced = c.forced := by
  cases h : c.targets <;> simp [forced, h, Target.all]

/-- Forcing keeps targets that are listed, and else takes all. -/
theorem targets_forced (c : Config) :
    c.forced.targets = if c.targets = [] then Target.all else c.targets := by
  simp [forced]

/-- Forcing repeats no target. -/
theorem nodup_forced (nodup : c.targets.Nodup) : c.forced.targets.Nodup := by
  rw [targets_forced]
  split
  · decide
  · exact nodup

variable {d : Document} {source : Option Text}

/-- A run that asks for a multiplatform build only changes configurations that there are. -/
theorem resolve_true (d : Document) (source : Option Text) :
    resolve d true source = (resolve d false source).map forced := by
  cases selected : select d source with
  | error e =>
    rw [resolve, resolve, selected]
    rfl
  | ok s =>
    rw [resolve_of_select selected, resolve_of_select selected]
    cases ofTable s.table source <;> rfl

/-- A document with targets set in it resolves to its configuration with these targets. -/
theorem resolve_withTargets (accepted : resolve d false source = .ok c) {targets : List Target}
    (once : targets.Nodup) :
    resolve (d.withSettings (d.settings.withTargets (Target.names targets))) false source =
      .ok { c with multiplatform := true, targets } := by
  obtain ⟨s, selected, described⟩ := resolve_ok_iff.1 accepted
  rw [Document.settings_of_select selected]
  have flat : Document.nested? (s.table.withTargets (Target.names targets)) =
      Document.nested? s.table := by
    rw [Document.nested?, Table.get?_withTargets (by decide) (by decide)]
    rfl
  exact resolve_ok_iff.2 ⟨_, select_withSettings selected flat, described.withTargets once⟩

/-- Asking for a multiplatform build fails where resolving does, and in the same way. Else it
changes the flag and the targets: without it, these are the document's, each where it stands first;
with it they are the same if there are any, and all else. The document that says so itself resolves
to this configuration, whether or not the run asks for it. -/
theorem resolve_forced (d : Document) (source : Option Text) :
    (∀ f, resolve d true source = .error f ↔ resolve d false source = .error f) ∧
    ∀ c, resolve d false source = .ok c → ∃ targets,
      resolve d true source = .ok { c with multiplatform := true, targets } ∧
      Target.names c.targets = d.targetNames.eraseDups ∧
      Target.names targets =
        (if d.targetNames = [] then (["jvm", "android", "native"] : List Text)
          else d.targetNames.eraseDups) ∧
      ∀ force, resolve (d.withSettings (d.settings.withTargets (Target.names targets))) force
        source = resolve d true source := by
  constructor
  · intro f
    rw [resolve_true]
    cases resolve d false source <;> simp [Except.map]
  · intro c accepted
    have forces : resolve d true source = .ok c.forced := by
      rw [resolve_true, accepted]
      rfl
    obtain ⟨s, selected, described⟩ := resolve_ok_iff.1 accepted
    have names : Target.names c.targets = d.targetNames.eraseDups := by
      rw [Document.targetNames, Document.settings_of_select selected, described.names_targets]
    have edited := resolve_withTargets accepted (nodup_forced described.targets_nodup)
    refine ⟨c.forced.targets, forces, names, ?_, fun force => ?_⟩
    · rw [targets_forced]
      cases named : d.targetNames with
      | nil =>
        have none : c.targets = [] := List.map_eq_nil_iff.1 (named ▸ names)
        rw [if_pos none, if_pos rfl]
        rfl
      | cons name rest =>
        have some : c.targets ≠ [] := by
          intro none
          rw [named, none, List.eraseDups_cons] at names
          cases names
        rw [if_neg some, if_neg (List.cons_ne_nil _ _), names, named]
    · rw [forces]
      cases force with
      | false => exact edited
      | true =>
        rw [resolve_true, edited]
        exact congrArg Except.ok c.forced_forced

/-- Nested settings that select a target twice. -/
def repeating : Document := nest [
  (.text "cdylib_name", .text "core"),
  (.text "kotlin_targets", .list none [.text "native", .text "jvm", .text "native"])]

/-- The document that selects a target twice is forced to the targets it has, and the empty one to
all; one with a setting that is refused is refused either way. -/
theorem resolve_forced_repeating :
    resolve repeating false none =
        .ok { cdylibName := some (Text.ofString "core"), targets := [.native, .jvm] } ∧
      (∃ targets, resolve repeating true none = .ok
          { cdylibName := some (Text.ofString "core"), multiplatform := true, targets } ∧
        Target.names targets = (["native", "jvm"] : List Text)) ∧
      (∀ force, resolve (repeating.withSettings
          (repeating.settings.withTargets ["native", "jvm"])) force none =
        resolve repeating true none) ∧
      resolve [] false none = .ok {} ∧
      (∃ targets, resolve [] true none = .ok { multiplatform := true, targets } ∧
        Target.names targets = (["jvm", "android", "native"] : List Text)) ∧
      ∃ f, resolve refusedTagged false none = .error f ∧
        resolve refusedTagged true none = .error f := by
  obtain ⟨-, repeats⟩ := resolve_forced repeating none
  obtain ⟨targets, forces, -, names, edited⟩ := repeats _ rfl
  have twice : Target.names targets = (["native", "jvm"] : List Text) := names.trans (by decide)
  rw [twice] at edited
  obtain ⟨-, empty⟩ := resolve_forced [] none
  obtain ⟨all, forces', -, names', -⟩ := empty _ rfl
  have three : Target.names all = (["jvm", "android", "native"] : List Text) :=
    names'.trans (by decide)
  obtain ⟨refused, -⟩ := resolve_forced refusedTagged none
  exact ⟨rfl, ⟨targets, forces, twice⟩, edited, rfl, ⟨all, forces', three⟩, _, rfl,
    (refused _).2 rfl⟩

end Config

end Bindery
