import Bindery.Proofs.Merge.Stages

/-!
# Adding supplied settings

Supplied settings can be added: what the first ones have counts, except for the name of the crate
and the package root, lists stand one after another and tables are united (`Supplied.plus`). A list
or a table of a document that was combined with two supplied ones in turn was combined with their
sum (`mergeList_add`, `mergeTable_add`).
-/

namespace Bindery

open Outcome

/-! ## Adding settings -/

/-- Two lists, one after another. -/
def Value.joinLists : Option Value → Option Value → Option Value :=
  Option.merge fun v w => .list none (v.items?.getD [] ++ w.items?.getD [])

/-- Two tables, united. -/
def Value.joinTables : Option Value → Option Value → Option Value :=
  Option.merge fun v w => .table none (Assoc.union (v.table?.getD []) (w.table?.getD []))

namespace Supplied

/-- The settings of both: the first ones count, but for what is told of the crate itself, which is
that of the second ones. A version that is blank counts as none. -/
def plus (s s' : Supplied) : Supplied where
  crateName := s'.crateName
  packageRoot := s'.packageRoot
  packageName := s.packageName.or s'.packageName
  cdylibName := s.cdylibName.or s'.cdylibName
  multiplatform := s.multiplatform.or s'.multiplatform
  targets := Value.joinLists s.targets s'.targets
  immutableRecords := s.immutableRecords.or s'.immutableRecords
  omitChecksums := s.omitChecksums.or s'.omitChecksums
  customTypes := Value.joinTables s.customTypes s'.customTypes
  targetVersion :=
    match s.version? with
    | .ok (some v) => some v
    | _ => s'.targetVersion
  disableJavaCleaner := s.disableJavaCleaner.or s'.disableJavaCleaner
  serializableTypes := s.serializableTypes.or s'.serializableTypes
  pascalCaseEnums := s.pascalCaseEnums.or s'.pascalCaseEnums
  jvmLibraries := Value.joinLists s.jvmLibraries s'.jvmLibraries
  androidLibraries := Value.joinLists s.androidLibraries s'.androidLibraries
  sharedLibraries := Value.joinLists s.sharedLibraries s'.sharedLibraries

instance : Add Supplied := ⟨plus⟩

variable {s s' : Supplied}

/-- Lists that are supplied together are the joined lists. -/
theorem lists_add : (s + s').lists =
    s.lists.zipWith (fun e e' => (e.1, Value.joinLists e.2 e'.2)) s'.lists := rfl

/-- Of single values supplied together the first counts. -/
theorem singles_add : (s + s').singles =
    s.singles.zipWith (fun e e' => (e.1, e.2.or e'.2)) s'.singles := rfl

theorem version?_eq_some {v : Value} (h : s.version? = .ok (some v)) :
    s.targetVersion = some v := by
  unfold version? at h
  split at h
  · cases h
  · rename_i w hw
    obtain ⟨blank, -, h⟩ := bind_ok_iff.1 h
    rw [pure_ok_iff] at h
    split at h
    · cases h
    · rw [← h]
      exact (Option.filter_eq_some_iff.1 hw).1

theorem version?_congr (h : s.targetVersion = s'.targetVersion) : s.version? = s'.version? := by
  unfold version?
  rw [h]

/-- Of versions supplied together the first one counts. -/
theorem version?_add {v v' : Option Value} (h : s.version? = .ok v) (h' : s'.version? = .ok v') :
    (s + s').version? = .ok (v.or v') := by
  cases v with
  | none =>
    have second : (s + s').targetVersion = s'.targetVersion := by
      show (match s.version? with
        | .ok (some v) => some v
        | _ => s'.targetVersion) = s'.targetVersion
      rw [h]
    rw [version?_congr second, h']
    rfl
  | some v =>
    have first : (s + s').targetVersion = s.targetVersion := by
      show (match s.version? with
        | .ok (some v) => some v
        | _ => s'.targetVersion) = s.targetVersion
      rw [h, version?_eq_some h]
    rw [version?_congr first, h]
    rfl

end Supplied

namespace Merge

/-! ## One setting -/

/-- Two lists are merged by putting the one behind the other. -/
theorem mergeList_eq (a b : Option Value) :
    mergeList a b = (do
      let xs ← a.mapM asList
      let ys ← b.mapM asList
      return Option.merge (· ++ ·) xs ys) := by
  cases a with
  | none =>
    cases b with
    | none => rfl
    | some w =>
      show (do return some (← asList w)) = _
      cases h : asList w <;> simp [h]
  | some v =>
    cases b with
    | none =>
      show (do return some (← asList v)) = _
      cases h : asList v <;> simp [h]
    | some w =>
      show (do return some ((← asList v) ++ (← asList w))) = _
      cases h : asList v <;> cases h' : asList w <;> simp [h, h'] <;> rfl

theorem listed_list (items : Option (List Value)) :
    (items.map (Value.list none)).mapM asList = .ok items := by
  cases items <;> rfl

/-- Joined lists merge as the lists they join. -/
theorem listed_join {a b : Option Value} {xs ys : Option (List Value)}
    (ha : a.mapM asList = .ok xs) (hb : b.mapM asList = .ok ys) :
    (Value.joinLists a b).mapM asList = .ok (Option.merge (· ++ ·) xs ys) := by
  have items {v : Value} {items : List Value} (h : asList v = .ok items) :
      v.items? = some items := by
    unfold asList at h
    split at h
    · rename_i items' hitems
      rw [hitems, Except.ok.inj h]
    · cases h
  rw [optionMapM_ok_iff] at ha hb
  cases a with
  | none =>
    obtain rfl : xs = none := by simpa using ha.symm
    rw [Value.joinLists, Option.merge_none_left, Option.merge_none_left, optionMapM_ok_iff, hb]
  | some v =>
    cases b with
    | none =>
      obtain rfl : ys = none := by simpa using hb.symm
      rw [Value.joinLists, Option.merge_none_right, Option.merge_none_right, optionMapM_ok_iff, ha]
    | some w =>
      obtain ⟨xs, rfl, hv⟩ := Option.map_eq_some_iff.1 ha.symm
      obtain ⟨ys, rfl, hw⟩ := Option.map_eq_some_iff.1 hb.symm
      rw [Value.joinLists, Option.merge, items hv.symm, items hw.symm]
      rfl

/-- A list that two supplied ones were added to, one after the other, had their sum added to it. -/
theorem mergeList_add {own a b : Option Value} {items items' : Option (List Value)}
    (h : mergeList own a = .ok items)
    (h' : mergeList (items.map (Value.list none)) b = .ok items') :
    mergeList own (Value.joinLists a b) = .ok items' := by
  simp only [mergeList_eq, bind_ok_iff, pure_ok_iff] at h h' ⊢
  obtain ⟨us, hus, vs, hvs, rfl⟩ := h
  obtain ⟨xs, hxs, ws, hws, rfl⟩ := h'
  obtain rfl := Except.ok.inj (hxs.symm.trans (listed_list _))
  refine ⟨us, hus, _, listed_join hvs hws, ?_⟩
  cases us <;> cases vs <;> cases ws <;> simp [Option.merge]

/-- A value that is a table of names, if it is there. -/
def NamedTable (v : Option Value) : Prop :=
  ∀ w, v = some w → ∃ t, w.table? = some t ∧ ∀ e ∈ t, ∃ name, e.1 = Value.text name

/-- Two tables are merged by uniting their entries. -/
theorem mergeTable_eq (a : Option Value) {b : Option Value} (named : NamedTable b) :
    mergeTable a b = (do
      let t ← a.mapM asTable
      return Option.merge Assoc.union t (b.bind Value.table?)) := by
  cases b with
  | none =>
    cases a with
    | none => rfl
    | some v =>
      show (do return some (← asTable v)) = _
      cases h : asTable v <;> simp [h]
  | some w =>
    obtain ⟨u, hu, -⟩ := named w rfl
    obtain ⟨mark, rfl⟩ := Value.table?_eq_some.1 hu
    cases a with
    | none => rfl
    | some v =>
      show (do let t ← asTable v; return some (Assoc.union t u)) = _
      cases h : asTable v <;> simp [h, Value.table?]

theorem tabled_table (entries : Option Table) :
    (entries.map (Value.table none)).mapM asTable = .ok entries := by
  cases entries <;> rfl

/-- Joined tables are named when both are, and hold the united entries. -/
theorem NamedTable.join {a b : Option Value} (ha : NamedTable a) (hb : NamedTable b) :
    NamedTable (Value.joinTables a b) ∧ (Value.joinTables a b).bind Value.table? =
      Option.merge Assoc.union (a.bind Value.table?) (b.bind Value.table?) := by
  cases a with
  | none => simpa [Value.joinTables] using hb
  | some v =>
    cases b with
    | none => simpa [Value.joinTables] using ha
    | some w =>
      obtain ⟨t, ht, names⟩ := ha v rfl
      obtain ⟨u, hu, names'⟩ := hb w rfl
      obtain ⟨mark, rfl⟩ := Value.table?_eq_some.1 ht
      obtain ⟨mark', rfl⟩ := Value.table?_eq_some.1 hu
      refine ⟨fun w hw => ?_, rfl⟩
      obtain rfl := Option.some.inj hw
      exact ⟨_, rfl, Assoc.forall_union names names'⟩

/-- Tables of names are united from either side. -/
theorem union_union_of_named (left : Table) {mid right : Table}
    (names : ∀ e ∈ mid, ∃ name, e.1 = Value.text name)
    (names' : ∀ e ∈ right, ∃ name, e.1 = Value.text name) :
    Assoc.union left (Assoc.union mid right) = Assoc.union (Assoc.union left mid) right := by
  apply Assoc.union_union
  intro e he e' he' same
  obtain ⟨name, hname⟩ := names' e he
  obtain ⟨name', hname'⟩ : ∃ name, e'.1 = Value.text name :=
    (List.mem_append.1 he').elim (names e') (names' e')
  rw [hname, hname', Value.same_text] at same
  rw [hname, hname', beq_iff_eq.1 same]

/-- A table that two supplied ones were added to, one after the other, had their sum added to it. -/
theorem mergeTable_add {own a b : Option Value} {entries entries' : Option Table}
    (ha : NamedTable a) (hb : NamedTable b) (h : mergeTable own a = .ok entries)
    (h' : mergeTable (entries.map (Value.table none)) b = .ok entries') :
    mergeTable own (Value.joinTables a b) = .ok entries' := by
  obtain ⟨hab, both⟩ := ha.join hb
  simp only [mergeTable_eq _ ha, mergeTable_eq _ hb, mergeTable_eq _ hab, bind_ok_iff,
    pure_ok_iff] at h h' ⊢
  obtain ⟨t, ht, rfl⟩ := h
  obtain ⟨u, hu, rfl⟩ := h'
  obtain rfl := Except.ok.inj (hu.symm.trans (tabled_table _))
  refine ⟨t, ht, ?_⟩
  rw [both]
  cases a with
  | none => simp
  | some v =>
    cases b with
    | none => simp
    | some w =>
      obtain ⟨_, hv, names⟩ := ha v rfl
      obtain ⟨_, hw, names'⟩ := hb w rfl
      rw [Option.bind_some, Option.bind_some, hv, hw]
      cases t with
      | none => rfl
      | some t => exact congrArg some (union_union_of_named t names names')

end Merge

end Bindery
