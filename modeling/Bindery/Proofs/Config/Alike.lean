import Mathlib.Data.List.Nodup
import Mathlib.Data.List.Perm.Basic
import Bindery.Proofs.Merge.Settings
import Bindery.Proofs.Value.Alike

/-!
# Equal documents resolve to equal configurations

A table of settings may have its entries in another order, and so may the tables in it. All it
resolves to is the same, but for the order in which external packages and custom types are listed
(`Config.Describes.alike`), and that carries over to whole documents (`Config.resolve_alike`).
-/

namespace Bindery

open Outcome

/-- Two configurations with the same settings; external packages and custom types may be listed in
another order. -/
structure Config.Alike (c c' : Config) : Prop where
  settings : ∃ packages customs,
    c' = { c with externalPackages := packages, customTypes := customs }
  externalPackages : c.externalPackages.Perm c'.externalPackages
  customTypes : c.customTypes.Perm c'.customTypes

/-- The configurations of multiplatform builds are alike too. -/
theorem Config.Alike.forced {c c' : Config} (h : c.Alike c') : c.forced.Alike c'.forced := by
  obtain ⟨⟨packages, customs, rfl⟩, hpackages, hcustoms⟩ := h
  exact ⟨⟨packages, customs, rfl⟩, hpackages, hcustoms⟩

/-! ## One setting -/

section Setting

variable {α : Type} {t t' : Table} {key : Text} {decode : Value → Option α}

/-- What a table gives, a table alike it gives too, when the value is read the same in both. -/
theorem Table.Gives.alike {a : Option α} (given : t.Gives key decode a) (h : t.Alike t')
    (named : t.Named) (same : ∀ v w, Value.Alike v w → decode v = decode w) :
    t'.Gives key decode a := by
  have held := h.given? named key
  unfold Table.Gives at given ⊢
  generalize t.given? key = v, t'.given? key = w at held given
  cases held with
  | none => exact given
  | some alike => rwa [Option.map_some, ← same _ _ alike]

/-- The same with a default. -/
theorem Table.GivesOr.alike {default a : α} (given : t.GivesOr key decode default a)
    (h : t.Alike t') (named : t.Named) (same : ∀ v w, Value.Alike v w → decode v = decode w) :
    t'.GivesOr key decode default a := by
  obtain ⟨x, hx, rfl⟩ := given
  exact ⟨x, hx.alike h named same, rfl⟩

/-- Entries that are alike are read as the same pair of texts. -/
theorem Reader.textEntry?_eq {e e' : Value × Value} (h : Value.AlikeEntry e e') :
    Reader.textEntry? e = Reader.textEntry? e' := by
  obtain ⟨k, v⟩ := e
  obtain ⟨k', w⟩ := e'
  obtain ⟨rfl, alike⟩ : k = k' ∧ Value.Alike v w := h
  apply Option.ext
  rintro ⟨a, b⟩
  rw [textEntry?_eq_some, textEntry?_eq_some, Prod.mk.injEq, Prod.mk.injEq,
    ← Value.text?_eq_some (v := v), alike.text?_eq, Value.text?_eq_some]

/-- What the entries of a table of texts are read as. -/
theorem Reader.textEntries?_alike {v w : Value} {xs : List (Text × Text)} (h : Value.Alike v w)
    (read : Reader.textEntries? v = some xs) :
    ∃ ys, Reader.textEntries? w = some ys ∧ xs.Perm ys := by
  obtain ⟨t, ht, hxs⟩ := Option.bind_eq_some_iff.1 read
  obtain ⟨t', ht', order, perm, parts⟩ := exists_of_rel_some (ht ▸ h.table?_rel)
  have same : order.mapM textEntry? = t'.mapM textEntry? :=
    mapM_eq_of_forall₂ (parts.imp fun _ _ => textEntry?_eq)
  obtain ⟨ys, hys, sorted⟩ := exists_of_rel_some (hxs ▸ mapM_some_perm perm)
  exact ⟨ys, Option.bind_eq_some_iff.2 ⟨t', ht', same ▸ hys⟩, sorted⟩

/-- A custom type that a table describes is described by a table alike it. -/
theorem CustomType.Describes.alike {t t' : Table} {custom : CustomType} (h : Describes t custom)
    (alike : t.Alike t') (named : t.Named) : Describes t' custom where
  imports := h.imports.alike alike named fun _ _ => Value.Alike.texts?_eq
  typeName := h.typeName.alike alike named fun _ _ => Value.Alike.text?_eq
  lift := h.lift.alike alike named fun _ _ => Value.Alike.text?_eq
  lower := h.lower.alike alike named fun _ _ => Value.Alike.text?_eq

/-- An entry alike one of a custom type is one of the same custom type. -/
theorem CustomType.Entry.alike {e e' : Value × Value} {named : Text × CustomType}
    (h : Entry e named) (alike : Value.AlikeEntry e e') (plain : e.2.Plain) : Entry e' named := by
  obtain ⟨hname, t, ht, described⟩ := h
  obtain ⟨key, parts⟩ := alike
  obtain ⟨t', ht', same⟩ := exists_of_rel_some (ht ▸ parts.table?_rel)
  exact ⟨key ▸ hname, t', ht', described.alike same (plain.of_table? ht).named⟩

/-- What is read from a table of texts under its keys has different keys. -/
theorem Table.Named.nodup_texts {β : Type} {t : Table} {found : List (Text × β)} (named : t.Named)
    (h : List.Forall₂ (fun e f => e.1 = Value.text f.1) t found) : (found.map Prod.fst).Nodup := by
  have keys : t.map Prod.fst = (found.map Prod.fst).map Value.text := by
    clear named
    induction h with
    | nil => rfl
    | cons he _ ih => rw [List.map_cons, List.map_cons, List.map_cons, ih, he]
  have nodup := named.nodup
  rw [keys] at nodup
  exact List.Nodup.of_map _ nodup

/-- Custom types in a table of texts have different names. -/
theorem nodup_names {t : Table} {found : List (Text × CustomType)} (named : t.Named)
    (h : List.Forall₂ CustomType.Entry t found) : (found.map Prod.fst).Nodup := by
  have entries := (List.forall₂_and_left t found).2 ⟨fun _ => named.exists_text, h⟩
  refine named.nodup_texts (entries.imp ?_)
  rintro e f ⟨⟨key, hkey⟩, hname, -⟩
  rw [hkey] at hname ⊢
  rw [Except.ok.inj hname]

end Setting

/-! ## All settings -/

variable {t t' : Table} {c : Config}

/-- The external packages of tables that are alike, in whichever order they are read. -/
theorem Table.GivesOr.packages_alike {packages : List (Text × Text)}
    (h : t.GivesOr "external_packages" Reader.textEntries? [] packages) (named : t.Named)
    (same : t.Alike t') :
    ∃ packages', t'.GivesOr "external_packages" Reader.textEntries? [] packages' ∧
      packages.Perm packages' := by
  obtain ⟨given, hgiven, rfl⟩ := h
  have held := same.given? named "external_packages"
  rcases Table.gives_iff.1 hgiven with ⟨hn, rfl⟩ | ⟨v, xs, hv, hx, rfl⟩
  · have hn' := eq_none_of_rel (hn ▸ held)
    exact ⟨[], ⟨none, Table.gives_iff.2 (.inl ⟨hn', rfl⟩), rfl⟩, .refl _⟩
  · obtain ⟨w, hw, alike⟩ := exists_of_rel_some (hv ▸ held)
    obtain ⟨ys, hys, perm⟩ := Reader.textEntries?_alike alike hx
    exact ⟨ys, ⟨some ys, Table.gives_iff.2 (.inr ⟨w, ys, hw, hys, rfl⟩), rfl⟩, perm⟩

/-- The custom types of tables that are alike. -/
theorem Table.GivesOr.customTypes_alike {entries : Table} {found : List (Text × CustomType)}
    (h : t.GivesOr "custom_types" Value.table? [] entries)
    (hfound : List.Forall₂ CustomType.Entry entries found) (plain : t.Plain) (same : t.Alike t') :
    ∃ entries' found', t'.GivesOr "custom_types" Value.table? [] entries' ∧
      List.Forall₂ CustomType.Entry entries' found' ∧
      (Assoc.ofPairs found).Perm (Assoc.ofPairs found') := by
  obtain ⟨given, hgiven, rfl⟩ := h
  have held := same.given? plain.named "custom_types"
  rcases Table.gives_iff.1 hgiven with ⟨hn, rfl⟩ | ⟨v, xs, hv, hx, rfl⟩
  · have hn' := eq_none_of_rel (hn ▸ held)
    cases hfound
    exact ⟨[], [], ⟨none, Table.gives_iff.2 (.inl ⟨hn', rfl⟩), rfl⟩, .nil, .refl _⟩
  · rw [Option.getD_some] at hfound
    obtain ⟨w, hw, alike⟩ := exists_of_rel_some (hv ▸ held)
    have entries := (plain.given? hv).of_table? hx
    obtain ⟨ys, hys, order, perm, parts⟩ := exists_of_rel_some (hx ▸ alike.table?_rel)
    obtain ⟨found', hfound', perm'⟩ := exists_perm_forall₂ hfound perm parts
      fun e custom e' he hcustom he' => hcustom.alike he' (entries.parts e he)
    have nodup := nodup_names entries.named hfound
    refine ⟨ys, found', ⟨some ys, Table.gives_iff.2 (.inr ⟨w, ys, hw, hys, rfl⟩), rfl⟩, hfound', ?_⟩
    rwa [Assoc.ofPairs_of_nodup nodup, Assoc.ofPairs_of_nodup ((perm'.map _).nodup_iff.1 nodup)]

/-- Tables that are alike describe alike configurations. -/
theorem Config.Describes.alike (h : Describes t c) (plain : t.Plain) (same : t.Alike t') :
    ∃ c', Describes t' c' ∧ c.Alike c' := by
  have named := plain.named
  obtain ⟨names, targets, hnames, htargets⟩ := h.targets
  obtain ⟨packages, hpackages, sorted⟩ := h.externalPackages.packages_alike named same
  obtain ⟨entries, found, hentries, hfound, hc⟩ := h.customTypes
  obtain ⟨entries', found', hentries', hfound', sorted'⟩ :=
    hentries.customTypes_alike hfound plain same
  refine ⟨{ c with externalPackages := packages, customTypes := Assoc.ofPairs found' }, ?_,
    ⟨⟨packages, _, rfl⟩, sorted, hc ▸ sorted'⟩⟩
  exact {
    packageName := h.packageName.alike same named fun _ _ => Value.Alike.text?_eq
    cdylibName := h.cdylibName.alike same named fun _ _ => Value.Alike.text?_eq
    multiplatform := h.multiplatform.alike same named fun _ _ => Value.Alike.bool?_eq
    targets :=
      ⟨names, targets, hnames.alike same named fun _ _ => Value.Alike.texts?_eq, htargets⟩
    externalPackages := hpackages
    immutableRecords := h.immutableRecords.alike same named fun _ _ => Value.Alike.bool?_eq
    omitChecksums := h.omitChecksums.alike same named fun _ _ => Value.Alike.bool?_eq
    customTypes := ⟨entries', found', hentries', hfound', rfl⟩
    targetVersion := h.targetVersion.alike same named fun _ _ => Value.Alike.text?_eq
    disableJavaCleaner := h.disableJavaCleaner.alike same named fun _ _ => Value.Alike.bool?_eq
    serializableTypes := h.serializableTypes.alike same named fun _ _ => Value.Alike.bool?_eq
    pascalCaseEnums := h.pascalCaseEnums.alike same named fun _ _ => Value.Alike.bool?_eq
    jvmLibraries := h.jvmLibraries.alike same named fun _ _ => Value.Alike.texts?_eq
    androidLibraries := h.androidLibraries.alike same named fun _ _ => Value.Alike.texts?_eq
    sharedLibraries := h.sharedLibraries.alike same named fun _ _ => Value.Alike.texts?_eq }

/-! ## Documents -/

/-- The inner table of a plain document is plain. -/
theorem Table.Plain.nested? {d : Document} (plain : d.Plain) {v : Value}
    (h : d.nested? = some v) : v.Plain := by
  obtain ⟨bindings, hbindings, hv⟩ := Option.bind_eq_some_iff.1 h
  obtain ⟨w, hw, ht⟩ := Option.bind_eq_some_iff.1 hbindings
  exact ((plain.get? hw).of_table? ht).get? hv

/-- Documents that are alike have inner tables that are alike, or none. -/
theorem Table.Alike.nested? {d d' : Document} (same : d.Alike d') (plain : d.Plain) :
    Option.Rel Value.Alike d.nested? d'.nested? := by
  have held := same.get?_table? plain.named "bindings"
  unfold Document.nested?
  cases hb : (d.get? "bindings").bind Value.table? with
  | none =>
    rw [hb] at held
    rw [eq_none_of_rel held]
    exact .none
  | some bindings =>
    rw [hb] at held
    obtain ⟨bindings', hb', alike⟩ := exists_of_rel_some held
    obtain ⟨v, hv, ht⟩ := Option.bind_eq_some_iff.1 hb
    rw [hb']
    exact alike.get? ((plain.get? hv).of_table? ht).named "kotlin"

/-- The settings that a plain document selects are plain. -/
theorem select_plain {d : Document} {source : Option Text} {selection : Selection}
    (h : select d source = .ok selection) (plain : d.Plain) : selection.table.Plain := by
  rcases select_ok_iff.1 h with ⟨-, rfl⟩ | ⟨mark, settings, hd, rfl⟩
  · exact plain
  · exact (plain.nested? hd).of_table

/-- Documents that are alike have one shape and select alike settings. -/
theorem select_alike {d d' : Document} {source : Option Text} {selection : Selection}
    (h : select d source = .ok selection) (plain : d.Plain) (same : d.Alike d') :
    ∃ settings, select d' source = .ok ⟨selection.shape, settings⟩ ∧
      selection.table.Alike settings := by
  have held := same.nested? plain
  rcases select_ok_iff.1 h with ⟨hd, rfl⟩ | ⟨mark, settings, hd, rfl⟩
  · exact ⟨d', select_ok_iff.2 (.inl ⟨eq_none_of_rel (hd ▸ held), rfl⟩), same⟩
  · obtain ⟨v, hv, alike⟩ := exists_of_rel_some (hd ▸ held)
    obtain ⟨mark', settings', rfl, inner⟩ := alike.exists_table
    exact ⟨settings', select_ok_iff.2 (.inr ⟨_, _, hv, rfl⟩), inner⟩

/-- How resolving ends: with alike configurations, or with a refusal of both documents. -/
inductive Config.EndsAlike : Except Failure Config → Except Failure Config → Prop where
  | accepted {c c' : Config} (alike : c.Alike c') : EndsAlike (.ok c) (.ok c')
  | refused (e e' : Failure) : EndsAlike (.error e) (.error e')

/-- A document alike one that is resolved is resolved as well, to a configuration alike. -/
theorem Config.resolve_ok_alike {d d' : Document} {force : Bool} {source : Option Text}
    (h : Config.resolve d force source = .ok c) (plain : d.Plain) (same : d.Alike d') :
    ∃ c', Config.resolve d' force source = .ok c' ∧ c.Alike c' := by
  simp only [Config.resolve, bind_ok_iff, config_ok_iff, pure_ok_iff, ofTable_ok_iff] at h ⊢
  obtain ⟨selection, hselect, own, described, rfl⟩ := h
  obtain ⟨settings, hselect', alike⟩ := select_alike hselect plain same
  obtain ⟨own', described', alike'⟩ := described.alike (select_plain hselect plain) alike
  refine ⟨_, ⟨_, hselect', own', described', rfl⟩, ?_⟩
  cases force with
  | false => exact alike'
  | true => exact alike'.forced

/-- A plain document may have its entries in another order: it resolves to the same settings. -/
theorem Config.resolve_alike {d d' : Document} (plain : d.Plain) (same : d.Alike d')
    (force : Bool) (source : Option Text) :
    EndsAlike (Config.resolve d force source) (Config.resolve d' force source) := by
  cases h : Config.resolve d force source with
  | ok c =>
    obtain ⟨c', h', alike⟩ := resolve_ok_alike h plain same
    rw [h']
    exact .accepted alike
  | error e =>
    cases h' : Config.resolve d' force source with
    | ok c' =>
      obtain ⟨c, hc, -⟩ := resolve_ok_alike h' (same.plain plain) same.symm
      rw [hc] at h
      cases h
    | error e' => exact .refused e e'

end Bindery
