import Bindery.Proofs.Config.Offences
import Bindery.Proofs.Value.Equal

/-!
# What counts in a document

Resolving looks at fifteen keys of the table that a document selects, and at four keys of every
table among the custom types. Tables that hold the same there (`Table.SameSettings`) are read in the
same way, setting by setting, up to the error that a reading ends in (`Config.ofTable_same`).
Everything else in a document only decides which table is selected: beside a nested table nothing
counts, and a table means the same nested as on its own (`Config.resolve_recognised`).
-/

namespace Bindery

open Outcome

/-! ## Tables that hold the same -/

/-- Two tables hold the same under some keys: equal values, or nothing but null. -/
def Table.SameUnder (keys : List Text) (t t' : Table) : Prop :=
  ∀ key ∈ keys, Option.Rel Value.Equal (t.given? key) (t'.given? key)

/-- Two entries for a custom type of one name: tables with the same in what is read of them, or
equal values that are no tables. -/
inductive CustomType.SameEntry : Value × Value → Value × Value → Prop where
  | table {k k' : Value} {mark mark' : Mark} {t t' : Table} (name : k.shown = k'.shown)
      (same : Table.SameUnder (settings.map Prod.fst) t t') :
      SameEntry (k, .table mark t) (k', .table mark' t')
  | other {k k' v v' : Value} (name : k.shown = k'.shown) (noTable : v.table? = none)
      (same : Value.Equal v v') : SameEntry (k, v) (k', v')

/-- Two values that say the same of custom types. -/
inductive Value.SameTypes : Value → Value → Prop where
  | table {mark mark' : Mark} {t t' : Table} (entries : List.Forall₂ CustomType.SameEntry t t') :
      SameTypes (.table mark t) (.table mark' t')
  | other {v v' : Value} (noTable : v.table? = none) (same : Value.Equal v v') : SameTypes v v'

/-- Two tables with the same settings. -/
structure Table.SameSettings (t t' : Table) : Prop where
  settings : SameUnder ((Config.settingsBefore ++ Config.settingsAfter).map Prod.fst) t t'
  customTypes : Option.Rel Value.SameTypes (t.given? "custom_types") (t'.given? "custom_types")

/-- The external packages that a table lists. -/
def Table.packages? (t : Table) : Option (List (Text × Text)) :=
  (t.given? "external_packages").bind Reader.textEntries?

/-- Two configurations with the same settings; external packages may be listed in another order. -/
structure Config.Same (c c' : Config) : Prop where
  settings : ∃ packages, c' = { c with externalPackages := packages }
  externalPackages : c.externalPackages.Perm c'.externalPackages

/-- Forcing keeps configurations the same. -/
theorem Config.Same.forced {c c' : Config} (h : c.Same c') : c.forced.Same c'.forced := by
  obtain ⟨⟨packages, rfl⟩, perm⟩ := h
  exact ⟨⟨packages, rfl⟩, perm⟩

/-- An entry says the same as itself. -/
theorem CustomType.SameEntry.refl (e : Value × Value) : SameEntry e e := by
  obtain ⟨k, v⟩ := e
  cases h : v.table? with
  | none => exact .other rfl h (.refl v)
  | some t =>
    obtain ⟨mark, rfl⟩ := Value.table?_eq_some.1 h
    refine .table rfl fun key _ => ?_
    cases t.given? key with
    | none => exact .none
    | some v => exact .some (.refl v)

theorem Table.SameSettings.refl (t : Table) : t.SameSettings t := by
  constructor
  · intro key _
    cases t.given? key with
    | none => exact .none
    | some v => exact .some (.refl v)
  · cases t.given? "custom_types" with
    | none => exact .none
    | some v =>
      cases h : v.table? with
      | none => exact .some (.other h (.refl v))
      | some t =>
        obtain ⟨mark, rfl⟩ := Value.table?_eq_some.1 h
        exact .some (.table (List.forall₂_same.2 fun e _ => .refl e))

/-! ## Reading the same settings -/

namespace Reader

variable {t t' : Table} {source : Option Text} {front key : Text}

section Held

variable (held : Option.Rel Value.Equal (t.given? key) (t'.given? key))

include held

/-- Where equal values are decoded alike they are read alike, and are refused with one error. -/
theorem read_same {α β : Type} {R : α → β → Prop} {decode : Value → Option α}
    {decode' : Value → Option β}
    (decodes : ∀ v w, Value.Equal v w → Option.Rel R (decode v) (decode' w))
    (expected : Expectation) :
    SameEnd (Option.Rel R) (read ⟨t, source, front⟩ key expected decode)
      (read ⟨t', source, front⟩ key expected decode') := by
  unfold read
  dsimp only
  generalize t.given? key = v, t'.given? key = w at held
  cases held with
  | none => exact .ok .none
  | @some v w equal =>
    have decoded := decodes v w equal
    dsimp only
    rw [equal.kind_eq]
    generalize decode v = a, decode' w = b at decoded
    cases decoded with
    | none => exact .error _
    | some related => exact .ok (.some related)

/-- Tables with the same under a key are read the same there, whatever stands under the others. -/
theorem read_eq {α : Type} {decode : Value → Option α}
    (decodes : ∀ v w, Value.Equal v w → decode v = decode w) (expected : Expectation) :
    read ⟨t, source, front⟩ key expected decode =
      read ⟨t', source, front⟩ key expected decode := by
  unfold read
  dsimp only
  generalize t.given? key = v, t'.given? key = w at held
  cases held with
  | none => rfl
  | some equal =>
    dsimp only
    rw [decodes _ _ equal, equal.kind_eq]

theorem text?_eq : text? ⟨t, source, front⟩ key = text? ⟨t', source, front⟩ key :=
  read_eq held (fun _ _ => Value.Equal.text?_eq) .text

theorem flag_eq : flag ⟨t, source, front⟩ key = flag ⟨t', source, front⟩ key := by
  rw [flag, flag, read_eq held fun _ _ => Value.Equal.bool?_eq]

theorem texts_eq : texts ⟨t, source, front⟩ key = texts ⟨t', source, front⟩ key := by
  rw [texts, texts, read_eq held fun _ _ => Value.Equal.texts?_eq]

theorem targets_eq : targets ⟨t, source, front⟩ key = targets ⟨t', source, front⟩ key := by
  rw [targets, targets, texts_eq held]

/-- Tables of texts are read the same up to their order. -/
theorem textTable_same :
    SameEnd List.Perm (textTable ⟨t, source, front⟩ key) (textTable ⟨t', source, front⟩ key) := by
  refine (read_same held (fun _ _ => textEntries?_rel) .textTable).bind
    fun given given' related => ?_
  cases related with
  | none => exact .ok (.refl [])
  | some perm => exact .ok perm

end Held

/-- Tables with the same settings of a custom type have the same conversions. -/
theorem conversions_eq (same : Table.SameUnder (CustomType.settings.map Prod.fst) t t') :
    conversions ⟨t, source, front⟩ = conversions ⟨t', source, front⟩ := by
  unfold conversions
  rw [texts_eq (same "imports" (by decide)), text?_eq (same "type_name" (by decide)),
    text?_eq (same "lift" (by decide)), text?_eq (same "lower" (by decide))]

/-- What is no table is refused as a custom type. -/
theorem customType_of_noTable (r : Reader) {k v : Value} (noTable : v.table? = none) :
    r.customType key (k, v) = ((liftM k.shown : Except Failure Text) >>= fun name => throw
      (.config ⟨.wrongKind (r.keyFront ++ key ++ "." ++ name) .table v.kind, r.source⟩)) := by
  cases v <;> first | rfl | cases noTable

/-- The same entries are the same custom types. -/
theorem customType_eq {e e' : Value × Value} (same : CustomType.SameEntry e e') :
    customType ⟨t, source, front⟩ key e = customType ⟨t', source, front⟩ key e' := by
  cases same with
  | table name same =>
    unfold customType
    dsimp only
    rw [name]
    simp only [conversions_eq same]
  | other name noTable same =>
    have noTable' := same.table?_eq_none noTable
    rw [customType_of_noTable _ noTable, customType_of_noTable _ noTable', name, same.kind_eq]

/-- Tables with the same custom types under a key are read the same there. -/
theorem customTypes_eq
    (held : Option.Rel Value.SameTypes (t.given? key) (t'.given? key)) :
    customTypes ⟨t, source, front⟩ key = customTypes ⟨t', source, front⟩ key := by
  unfold customTypes read
  dsimp only
  generalize t.given? key = v, t'.given? key = w at held
  cases held with
  | none => rfl
  | some same =>
    cases same with
    | table entries =>
      have each (e e' : Value × Value) (same : CustomType.SameEntry e e') :
          customType ⟨t, source, front⟩ key e = customType ⟨t', source, front⟩ key e' :=
        customType_eq same
      have found := mapM_eq_of_forall₂ (entries.imp each)
      exact congrArg (fun x => x >>= fun found => pure (Assoc.ofPairs found)) found
    | other noTable same =>
      dsimp only
      rw [noTable, same.table?_eq_none noTable, same.kind_eq]
      rfl

end Reader

namespace Config

variable {t t' : Table}

/-- Tables with the same settings are read in the same way. -/
theorem ofTable_same (same : t.SameSettings t') (source : Option Text) :
    SameEnd Config.Same (ofTable t source) (ofTable t' source) := by
  have held (key : Text) (listed : key ∈ (settingsBefore ++ settingsAfter).map Prod.fst) :=
    same.settings key listed
  -- One step for each setting, in the order in which they are read.
  refine .bind_eq (congrArg liftM (Reader.text?_eq (held _ (by decide)))) fun _ => ?_
  refine .bind_eq (congrArg liftM (Reader.text?_eq (held _ (by decide)))) fun _ => ?_
  refine .bind_eq (congrArg liftM (Reader.flag_eq (held _ (by decide)))) fun _ => ?_
  refine .bind_eq (congrArg liftM (Reader.targets_eq (held _ (by decide)))) fun _ => ?_
  refine ((Reader.textTable_same (held _ (by decide))).mapError _).bind
    fun packages packages' perm => ?_
  refine .bind_eq (congrArg liftM (Reader.flag_eq (held _ (by decide)))) fun _ => ?_
  refine .bind_eq (congrArg liftM (Reader.flag_eq (held _ (by decide)))) fun _ => ?_
  refine .bind_eq (Reader.customTypes_eq same.customTypes) fun _ => ?_
  refine .bind_eq (congrArg liftM (Reader.text?_eq (held _ (by decide)))) fun _ => ?_
  refine .bind_eq (congrArg liftM (Reader.flag_eq (held _ (by decide)))) fun _ => ?_
  refine .bind_eq (congrArg liftM (Reader.flag_eq (held _ (by decide)))) fun _ => ?_
  refine .bind_eq (congrArg liftM (Reader.flag_eq (held _ (by decide)))) fun _ => ?_
  refine .bind_eq (congrArg liftM (Reader.texts_eq (held _ (by decide)))) fun _ => ?_
  refine .bind_eq (congrArg liftM (Reader.texts_eq (held _ (by decide)))) fun _ => ?_
  refine .bind_eq (congrArg liftM (Reader.texts_eq (held _ (by decide)))) fun _ => ?_
  exact .ok ⟨⟨packages', rfl⟩, perm⟩

/-- Where external packages are listed in one order too, the configurations are equal. -/
theorem ofTable_eq {source : Option Text} (same : t.SameSettings t')
    (listed : t.packages? = t'.packages?) : ofTable t source = ofTable t' source := by
  have ends := ofTable_same same source
  cases h : ofTable t source with
  | error e =>
    rw [h] at ends
    generalize ofTable t' source = y at ends
    cases ends
    rfl
  | ok c =>
    cases h' : ofTable t' source with
    | error e =>
      rw [h, h'] at ends
      cases ends
    | ok c' =>
      rw [h, h'] at ends
      obtain ⟨⟨⟨packages, rfl⟩, -⟩⟩ := ends
      have packages_eq := (ofTable_ok_iff.1 h).externalPackages.eq_getD
      have packages_eq' := (ofTable_ok_iff.1 h').externalPackages.eq_getD
      have same : packages = c.externalPackages :=
        packages_eq'.trans ((congrArg (·.getD []) listed.symm).trans packages_eq.symm)
      rw [same]

end Config

/-! ## Documents -/

/-- Where the names of the custom types have texts, something else is wrong with a table first. -/
theorem Table.NamedTypes.firstOffence?_ne {t : Table} (named : t.NamedTypes) :
    t.firstOffence? ≠ some .nameless := by
  have among (t : Table) (front : Text) (settings : List (Text × Form)) :
      t.offenceAmong? front settings ≠ some .nameless := by
    simp [offenceAmong?]
  have types : t.customTypesOffence? ≠ some .nameless := by
    unfold customTypesOffence?
    split
    · simp
    · rename_i mark entries given
      intro nameless
      obtain ⟨e, he, offends⟩ := List.exists_of_findSome?_eq_some nameless
      obtain ⟨name, hname⟩ := named mark entries given e he
      unfold CustomType.offence? at offends
      rw [hname] at offends
      dsimp only at offends
      split at offends
      · exact among _ _ _ offends
      · cases offends
    · simp
  rw [firstOffence?, Ne, Option.or_eq_some_iff, Option.or_eq_some_iff]
  have before := among t "" Config.settingsBefore
  have after := among t "" Config.settingsAfter
  tauto

/-- The settings of a document are the table that it selects. -/
theorem Document.settings_of_select {d : Document} {source : Option Text} {s : Selection}
    (h : select d source = .ok s) : d.settings = s.table := by
  unfold settings
  rcases select_ok_iff.1 h with ⟨flat, rfl⟩ | ⟨mark, nested, found, rfl⟩
  · rw [flat]
    rfl
  · rw [found]
    rfl

namespace Config

variable {d d' : Document} {force : Bool} {source : Option Text} {s s' : Selection}

/-- A document resolves as the table that it selects, forced or not. -/
theorem resolve_of_select (h : select d source = .ok s) : resolve d force source =
    (ofTable s.table source >>= fun c => pure (if force then c.forced else c)) := by
  rw [resolve, h]
  rfl

/-- Only the selected table counts. -/
theorem resolve_eq_of_select (h : select d source = .ok s) (h' : select d' source = .ok s')
    (same : s.table = s'.table) : resolve d force source = resolve d' force source := by
  rw [resolve_of_select h, resolve_of_select h', same]

/-- Tables with the same settings resolve in the same way. -/
theorem resolve_same (h : select d source = .ok s) (h' : select d' source = .ok s')
    (same : s.table.SameSettings s'.table) :
    SameEnd Config.Same (resolve d force source) (resolve d' force source) := by
  rw [resolve_of_select h, resolve_of_select h']
  refine (ofTable_same same source).bind fun c c' same => ?_
  cases force with
  | false => exact .ok same
  | true => exact .ok same.forced

/-- A document is refused as a configuration where the names of its custom types have texts. -/
theorem resolve_error_config (h : select d source = .ok s) (named : s.table.NamedTypes)
    {f : Failure} (refused : resolve d force source = .error f) : ∃ e, f = .config e := by
  cases offends : d.offence? with
  | none =>
    obtain ⟨c, accepted⟩ := Document.resolve_of_fine offends force source
    rw [refused] at accepted
    cases accepted
  | some o =>
    obtain ⟨f', refused', raises⟩ := Document.resolve_of_offence offends force source
    obtain rfl := Except.error.inj (refused.symm.trans refused')
    cases f with
    | config e => exact ⟨e, rfl⟩
    | fault f =>
      obtain ⟨rfl, -⟩ := raises
      unfold Document.offence? at offends
      rw [Document.settings_of_select h] at offends
      split at offends
      · exact absurd offends named.firstOffence?_ne
      · cases offends
    | _ => cases raises

/-- Only the recognised keys of the selected table count. Where two documents have the same there,
they resolve in the same way, up to the order in which external packages are listed, and what they
are refused with is an error of a configuration if the custom types have names with texts. Beside a
nested table nothing counts, and a document that is flat means the same nested in another. -/
theorem resolve_recognised (force : Bool) (source : Option Text) :
    (∀ (d d' : Document) (s s' : Selection), select d source = .ok s → select d' source = .ok s' →
      s.table.SameSettings s'.table →
        SameEnd Config.Same (resolve d force source) (resolve d' force source) ∧
        (s.table.packages? = s'.table.packages? →
          resolve d force source = resolve d' force source) ∧
        (s.table.NamedTypes → ∀ f, resolve d force source = .error f → ∃ e, f = .config e)) ∧
    (∀ (d d' : Document) (mark mark' : Mark) (t : Table), d.nested? = some (.table mark t) →
      d'.nested? = some (.table mark' t) → resolve d force source = resolve d' force source) ∧
    ∀ (d d' : Document) (mark : Mark), d.nested? = none → d'.nested? = some (.table mark d) →
      resolve d' force source = resolve d force source := by
  refine ⟨fun d d' s s' h h' same => ⟨resolve_same h h' same, fun listed => ?_, fun named f =>
    resolve_error_config h named⟩, fun d d' mark mark' t h h' => ?_, fun d d' mark flat h' => ?_⟩
  · rw [resolve_of_select h, resolve_of_select h', ofTable_eq same listed]
  · have selected : select d source = .ok ⟨.nested, t⟩ := select_ok_iff.2 (.inr ⟨mark, t, h, rfl⟩)
    have selected' : select d' source = .ok ⟨.nested, t⟩ :=
      select_ok_iff.2 (.inr ⟨mark', t, h', rfl⟩)
    exact resolve_eq_of_select selected selected' rfl
  · have selected : select d source = .ok ⟨.flat, d⟩ := select_ok_iff.2 (.inl ⟨flat, rfl⟩)
    have selected' : select d' source = .ok ⟨.nested, d⟩ :=
      select_ok_iff.2 (.inr ⟨mark, d, h', rfl⟩)
    exact resolve_eq_of_select selected' selected rfl

/-- A document with nothing but nested settings. -/
def nest (t : Table) : Document :=
  [(.text "bindings", .table none [(.text "kotlin", .table none t)])]

/-- A target and a custom type, with more in it than is read. -/
def tagged : Table := [
  (.text "kotlin_targets", .list none [.text "jvm"]),
  (.text "custom_types", .table none [
    (.text "tag", .table none [(.text "type_name", .text "Tag"), (.text "note", .text "own")])]),
  (.text "verbose", .bool true)]

/-- The same target and custom type in another order. -/
def tagged' : Table := [
  (.text "custom_types", .table none [
    (.text "tag", .table none [(.text "lift", .null), (.text "type_name", .text "Tag")])]),
  (.text "cdylib_name", .null),
  (.text "kotlin_targets", .list none [.text "jvm"])]

/-- The two documents have the same settings. -/
theorem sameSettings_tagged : tagged.SameSettings tagged' := by
  constructor
  · intro key listed
    simp only [settingsBefore, settingsAfter, List.map_cons, List.map_nil,
      List.cons_append, List.nil_append, List.mem_cons, List.not_mem_nil, or_false] at listed
    rcases listed with rfl | rfl | rfl | rfl | rfl | rfl | rfl | rfl | rfl | rfl | rfl | rfl | rfl |
      rfl
    all_goals first | exact .none | exact .some (.refl _)
  · refine .some (.table (.cons (.table rfl fun key listed => ?_) .nil))
    simp only [CustomType.settings, List.map_cons, List.map_nil, List.mem_cons, List.not_mem_nil,
      or_false] at listed
    rcases listed with rfl | rfl | rfl | rfl
    all_goals first | exact .none | exact .some (.refl _)

/-- The same with a setting that is refused. -/
def refusedTagged : Table := (.text "omit_checksums", .text "yes") :: tagged

/-- Their custom types have names with texts. -/
theorem namedTypes_refusedTagged : refusedTagged.NamedTypes := by
  intro mark entries given e he
  cases given
  obtain rfl := List.mem_singleton.1 he
  exact ⟨"tag", rfl⟩

/-- The flat document resolves as the other one does nested, beside whatever else, and as it does
nested itself. With a setting that is refused it ends in an error of a configuration. -/
theorem resolve_recognised_tagged :
    tagged.SameSettings tagged' ∧
      resolve tagged true none = resolve (nest tagged') true none ∧
      resolve ((.text "kotlin_targets", .bool false) :: nest tagged') true none =
        resolve (nest tagged') true none ∧
      resolve (nest tagged) true none = resolve tagged true none ∧
      refusedTagged.NamedTypes ∧
      ∃ e, resolve refusedTagged true none = .error (.config e) := by
  obtain ⟨recognised, nested, flat⟩ := resolve_recognised true none
  have selected : select tagged none = .ok ⟨.flat, tagged⟩ := rfl
  have selected' : select (nest tagged') none = .ok ⟨.nested, tagged'⟩ := rfl
  obtain ⟨-, equal, -⟩ := recognised _ _ _ _ selected selected' sameSettings_tagged
  have selected'' : select refusedTagged none = .ok ⟨.flat, refusedTagged⟩ := rfl
  obtain ⟨-, -, named⟩ := recognised _ _ _ _ selected'' selected'' (.refl _)
  have refused : resolve refusedTagged true none =
      .error (.config ⟨.wrongKind "omit_checksums" .bool .text, none⟩) := rfl
  obtain ⟨e, he⟩ := named namedTypes_refusedTagged _ refused
  exact ⟨sameSettings_tagged, equal rfl, nested _ _ none none tagged' rfl rfl,
    flat tagged (nest tagged) none rfl rfl, namedTypes_refusedTagged, e, refused.trans (he ▸ rfl)⟩

/-- A document may give neither a configuration nor an error of one: the name of its custom type has
no text. -/
theorem numbered_neither :
    select (numbered leastTextless (.table none [])) none =
        .ok ⟨.flat, numbered leastTextless (.table none [])⟩ ∧
      Table.SameSettings (numbered leastTextless (.table none []))
        (numbered leastTextless (.table none [])) ∧
      (∀ c, resolve (numbered leastTextless (.table none [])) false none ≠ .ok c) ∧
      ∀ e, resolve (numbered leastTextless (.table none [])) false none ≠ .error (.config e) := by
  rw [resolve_numbered (Nat.le_refl _)]
  exact ⟨rfl, .refl _, nofun, nofun⟩

end Config

end Bindery
