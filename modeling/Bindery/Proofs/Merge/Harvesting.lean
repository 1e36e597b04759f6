import Bindery.Proofs.Merge.Stages

/-!
# Harvesting, file by file

The packages that a list of files tells are those of its first part, united with those of the rest
(`harvested_append`): every file is asked on its own (`telling`), and of what they tell of a crate
the first counts. So the value of a crate is the one that the first file that names it gives
(`get?_harvested`), files that were there already add nothing, nor does one that names no new crate,
and the first file that cannot be told of is the one that harvesting fails with.
-/

namespace Bindery

open Outcome

/-- The text of an entry's value, when its key is shown as the name of a crate. -/
def Merge.packageIn? (crate : Text) (e : Value × Value) : Option Text :=
  if e.1.shown.toOption = some crate then e.2.shown.toOption else none

/-- The package that a document gives to a crate, when it names its own crate and has a table of
nested settings: the package of these settings if it is its own crate, else that of the first of its
external packages with this name. -/
def Document.packageOf? (d : Document) (crate : Text) : Option Text :=
  match (d.get? "crate_name").bind Value.text?, d.nested?.bind Value.table? with
  | some own, some nested =>
    (if own = crate then (nested.get? "package_name").bind Value.text? else none).or
      ((entriesOf (nested.get? "external_packages")).findSome? (Merge.packageIn? crate))
  | _, _ => none

namespace Merge

variable {α : Type} {load : α → Except Failure Document}

/-- What files tell, where nothing is done about those that tell nothing. -/
def harvested (load : α → Except Failure Document) (files : List α) : Except Failure Packages :=
  harvest load (fun _ => .ok ()) files

/-- The packages that one file tells. -/
def telling (load : α → Except Failure Document) (file : α) : Except Failure Packages :=
  (load file).bind fun d => ((contribution d).mapError Failure.fault).map (·.getD [])

/-- One step of harvesting adds what a file tells. -/
theorem tell_eq (found : Packages) (file : α) :
    (do match ← combined (contribution (← load file)) with
      | some told => return Assoc.union found told
      | none =>
        (.ok () : Except Failure Unit)
        return found : Except Failure Packages) = (telling load file).map (Assoc.union found) := by
  unfold telling
  cases load file with
  | error f => rfl
  | ok d =>
    simp only [bind, Except.bind]
    cases contribution d with
    | error f => rfl
    | ok told => cases told <;> rfl

/-- What is harvested are the packages that the files tell, united in order. -/
theorem harvested_eq (files : List α) :
    harvested load files =
      (files.mapM (telling load)).map fun tolds => Assoc.union [] tolds.flatten := by
  unfold harvested harvest
  suffices ∀ start, List.foldlM (m := Except Failure) _ start files =
      (files.mapM (telling load)).map fun tolds => Assoc.union start tolds.flatten from this []
  induction files with
  | nil => exact fun start => rfl
  | cons file files ih =>
    intro start
    rw [List.foldlM_cons, List.mapM_cons]
    refine (congrArg (· >>= _) (tell_eq start file)).trans ?_
    cases telling load file with
    | error e => rfl
    | ok told =>
      show List.foldlM _ (Assoc.union start told) files = _
      rw [ih]
      cases files.mapM (telling load) with
      | error e => rfl
      | ok tolds => exact congrArg Except.ok (Assoc.union_append start told _).symm

/-! ## What one file tells -/

/-- A file tells what its document contributes. -/
theorem telling_ok_iff {file : α} {found : Packages} :
    telling load file = .ok found ↔
      ∃ d told, load file = .ok d ∧ contribution d = .ok told ∧ told.getD [] = found := by
  unfold telling
  cases load file with
  | error f => simp [Except.bind]
  | ok d => cases tells : contribution d <;> simp [tells, Except.bind, Except.mapError, Except.map]

/-- A file with a document that can be told tells something. -/
theorem telling_of_tellable {file : α} {d : Document} (loaded : load file = .ok d)
    (tells : Tellable d) : ∃ found, telling load file = .ok found := by
  obtain ⟨told, htold⟩ := tells.contribution_ok
  exact ⟨_, telling_ok_iff.2 ⟨d, told, loaded, htold, rfl⟩⟩

/-- What is shown of entries under a crate is the first entry for it. -/
theorem get?_of_shown {entries : Table} {shown : Packages} {crate : Text}
    (h : List.Forall₂ (fun e entry => shownEntry e = .ok entry) entries shown) :
    Assoc.get? crate shown = entries.findSome? (packageIn? crate) := by
  induction h with
  | nil => rfl
  | @cons e entry rest shown he _ ih =>
    obtain ⟨k, hk, he⟩ := bind_ok_iff.1 he
    obtain ⟨v, hv, he⟩ := bind_ok_iff.1 he
    obtain rfl := pure_ok_iff.1 he
    rw [List.findSome?_cons, packageIn?, hk, hv]
    by_cases same : k = crate
    · simp [Assoc.get?, Key.same, same, Except.toOption]
    · simp [Assoc.get?, Key.same, same, Except.toOption, ih]

/-- A document contributes for a crate the package that it has for it. -/
theorem get?_contribution {d : Document} {told : Option Packages}
    (h : contribution d = .ok told) (crate : Text) :
    Assoc.get? crate (told.getD []) = d.packageOf? crate := by
  unfold contribution at h
  unfold Document.packageOf? Document.nested?
  dsimp only at h
  cases hcrate : (d.get? "crate_name").bind Value.text? with
  | none =>
    rw [hcrate] at h
    obtain rfl := Except.ok.inj h
    rfl
  | some own =>
    cases hnested : (((d.get? "bindings").bind Value.table?).bind
        fun bindings => bindings.get? "kotlin").bind Value.table? with
    | none =>
      rw [hcrate, hnested] at h
      obtain rfl := Except.ok.inj h
      rfl
    | some nested =>
      rw [hcrate, hnested] at h
      obtain ⟨shown, hshown, h⟩ := bind_ok_iff.1 h
      obtain rfl := pure_ok_iff.1 h
      rw [Option.getD_some, Assoc.get?_append, get?_of_shown (mapM_ok_iff.1 hshown)]
      dsimp only
      congr 1
      cases (nested.get? "package_name").bind Value.text? with
      | none => simp [Assoc.get?]
      | some package => simp [Assoc.get?, Key.same]

/-- A file tells of a crate what its document has for it. -/
theorem get?_telling {file : α} {found : Packages} (h : telling load file = .ok found)
    (crate : Text) :
    Assoc.get? crate found = (load file).toOption.bind (·.packageOf? crate) := by
  obtain ⟨d, told, loaded, tells, rfl⟩ := telling_ok_iff.1 h
  rw [get?_contribution tells, loaded]
  rfl

/-! ## What several files tell -/

/-- A harvest ends well when every file tells its packages. -/
theorem harvested_ok_iff {files : List α} {found : Packages} :
    harvested load files = .ok found ↔ ∃ tolds,
      List.Forall₂ (fun file told => telling load file = .ok told) files tolds ∧
        Assoc.union [] tolds.flatten = found := by
  rw [harvested_eq]
  refine map_ok_iff.trans ?_
  simp only [mapM_ok_iff]

/-- What two lists of files tell is what the first one tells, united with what the second one does.
-/
theorem harvested_append (files files' : List α) :
    harvested load (files ++ files') = do
      let found ← harvested load files
      let found' ← harvested load files'
      return Assoc.union found found' := by
  rw [harvested_eq, harvested_eq, harvested_eq, List.mapM_append]
  cases files.mapM (telling load) with
  | error f => rfl
  | ok tolds =>
    cases files'.mapM (telling load) with
    | error f => rfl
    | ok tolds' =>
      refine congrArg Except.ok ?_
      show Assoc.union [] (tolds ++ tolds').flatten = _
      rw [List.flatten_append, Assoc.union_append, packages_union_union, Assoc.union_nil_right]

/-- Each crate has the package that the first file gives it that names it. -/
theorem get?_harvested {files : List α} {found : Packages} (h : harvested load files = .ok found)
    (crate : Text) :
    Assoc.get? crate found =
      files.findSome? fun file => (load file).toOption.bind (·.packageOf? crate) := by
  obtain ⟨tolds, tell, rfl⟩ := harvested_ok_iff.1 h
  rw [Assoc.get?_union, Assoc.get?_flatten, Assoc.get?, Option.none_or]
  clear h
  induction tell with
  | nil => rfl
  | cons told _ ih => rw [List.findSome?_cons, List.findSome?_cons, ih, get?_telling told]

/-! ## Files that add nothing -/

/-- A file can be left out when every crate that it names is known already. -/
theorem harvested_known {files : List α} {found told : Packages} {file : α}
    (h : harvested load files = .ok found) (tells : telling load file = .ok told)
    (known : ∀ e ∈ told, Assoc.has e.1 found = true) (files' : List α) :
    harvested load (files ++ file :: files') = harvested load (files ++ files') := by
  have one : harvested load [file] = .ok (Assoc.union [] told) :=
    harvested_ok_iff.2 ⟨[told], .cons tells .nil, by simp⟩
  have same : harvested load (files ++ [file]) = .ok found := by
    rw [harvested_append, h, one]
    refine congrArg Except.ok ?_
    rw [packages_union_union, Assoc.union_nil_right, Assoc.union_of_has known]
  rw [List.append_cons, harvested_append, same, harvested_append files, h]

/-- Every crate that a file tells of is known after the harvest. -/
theorem known_of_mem {files : List α} {found told : Packages} {file : α}
    (h : harvested load files = .ok found) (mem : file ∈ files)
    (tells : telling load file = .ok told) :
    ∀ e ∈ told, Assoc.has e.1 found = true := by
  intro e he
  have there : Assoc.has e.1 told = true := Assoc.has_of_mem (Text.same_self e.1) he
  rw [Assoc.has, get?_telling tells] at there
  rw [Assoc.has, get?_harvested h, List.findSome?_isSome_iff]
  exact ⟨file, mem, there⟩

/-- Files that were there already change nothing, in whatever number and order they come again. -/
theorem harvested_again {files again : List α} (there : again ⊆ files) (files' : List α) :
    harvested load (files ++ again ++ files') = harvested load (files ++ files') := by
  cases h : harvested load files with
  | error f => rw [List.append_assoc, harvested_append, harvested_append files files', h]; rfl
  | ok found =>
    induction again with
    | nil => rw [List.append_nil]
    | cons file again ih =>
      obtain ⟨mem, there⟩ := List.cons_subset.1 there
      obtain ⟨tolds, all, -⟩ := harvested_ok_iff.1 h
      obtain ⟨told, tells⟩ := exists_of_forall₂ all file mem
      rw [← ih there, List.append_assoc, List.cons_append, List.append_assoc]
      exact harvested_known h tells (known_of_mem h mem tells) (again ++ files')

/-! ## Files that cannot be told of -/

/-- A harvest fails as the first file does that cannot be told. -/
theorem harvested_error_iff {files : List α} {f : Failure} :
    harvested load files = .error f ↔ FailsFirst (telling load) files f := by
  rw [harvested_eq, ← mapM_error_iff]
  cases files.mapM (telling load) <;> simp [Except.map]

/-- Harvesting takes lists of files to packages, and appending to the union that merging makes, in
which the left packages stay in front and count. Files that are loaded, with all that they tell
shown, are harvested: each crate gets the package that the first file gives it that names it. Files
that come again change nothing, and a file that names no new crate can be left out. Behind files
that are loaded and shown, a file that is not loaded fails with its own failure. -/
theorem harvested_homomorphism (load : α → Except Failure Document) :
    harvested load [] = .ok [] ∧
    (∀ files files', harvested load (files ++ files') = do
      let found ← harvested load files
      let found' ← harvested load files'
      return Assoc.union found found') ∧
    (∀ found found' : Packages, mergeTable (some (.table none (packageTable found)))
      (some (.table none (packageTable found'))) =
        .ok (some (packageTable (Assoc.union found found')))) ∧
    (∀ files, (∀ file ∈ files, ∃ d, load file = .ok d ∧ Tellable d) →
      ∃ found, harvested load files = .ok found ∧ ∀ crate, Assoc.get? crate found =
        files.findSome? fun file => (load file).toOption.bind (·.packageOf? crate)) ∧
    (∀ files again files', again ⊆ files →
      harvested load (files ++ again ++ files') = harvested load (files ++ files')) ∧
    (∀ files file files' d found, harvested load files = .ok found → load file = .ok d →
      Tellable d → (∀ crate, d.packageOf? crate ≠ none → Assoc.has crate found = true) →
      harvested load (files ++ file :: files') = harvested load (files ++ files')) ∧
    ∀ files file files' f, (∀ before ∈ files, ∃ d, load before = .ok d ∧ Tellable d) →
      load file = .error f → harvested load (files ++ file :: files') = .error f := by
  refine ⟨rfl, harvested_append, fun found found' => ?_, fun files tell => ?_,
    fun files again files' there => harvested_again there files', ?_, ?_⟩
  · rw [packageTable_union]
    rfl
  · have each : ∀ file ∈ files, ∃ told, telling load file = .ok told := by
      intro file mem
      obtain ⟨d, loaded, tells⟩ := tell file mem
      exact telling_of_tellable loaded tells
    obtain ⟨tolds, all⟩ := exists_forall₂ each
    have found := harvested_ok_iff.2 ⟨tolds, all, rfl⟩
    exact ⟨_, found, get?_harvested found⟩
  · intro files file files' d found h loaded tells known
    obtain ⟨told, htold⟩ := telling_of_tellable loaded tells
    refine harvested_known h htold (fun e he => known e.1 ?_) files'
    have named := Assoc.has_of_mem (Text.same_self e.1) he
    rw [Assoc.has, get?_telling htold, loaded] at named
    exact Option.isSome_iff_ne_none.1 named
  · intro files file files' f tell failed
    refine harvested_error_iff.2 ⟨files, file, files', rfl, fun before mem => ?_, ?_⟩
    · obtain ⟨d, loaded, tells⟩ := tell before mem
      exact telling_of_tellable loaded tells
    · rw [telling, failed]
      rfl

theorem tellable_sibling (package : Text) : Tellable (sibling (.text package)) := by
  rintro crate nested - hn e he
  obtain rfl := Option.some.inj hn
  obtain rfl := List.mem_singleton.1 he
  exact ⟨("other", package), rfl⟩

theorem packageOf?_sibling (package crate : Text) :
    (sibling (.text package)).packageOf? crate =
      if Text.ofString "other" = crate then some package else none := by
  show (if Text.ofString "sibling" = crate then none else none).or
    (List.findSome? (packageIn? crate) [(.text "other", .text package)]) = _
  rw [ite_self, Option.none_or, List.findSome?_singleton, packageIn?]
  show (if some (Text.ofString "other") = some crate then some package else none) = _
  simp only [Option.some.injEq]

/-- A file that is loaded as a document with a package for another crate. -/
def shared (package : Value) : Except Failure Document := .ok (sibling package)

/-- A file that is not well formed. -/
def unparsed : Except Failure Document := .error (.config ⟨.malformed .toml, some "broken.toml"⟩)

/-- Two documents name the same crate: the first one counts, and the second one, or the first one
again, can be left out. A file that is not well formed is blamed behind a document that is fine. -/
theorem harvested_homomorphism_siblings :
    harvested id [shared (.text "first"), shared (.text "second")] = .ok [("other", "first")] ∧
      harvested id ([shared (.text "first")] ++ [shared (.text "first")] ++ [unparsed]) =
        harvested id ([shared (.text "first")] ++ [unparsed]) ∧
      harvested id ([shared (.text "first")] ++ shared (.text "second") :: []) =
        harvested id ([shared (.text "first")] ++ []) ∧
      harvested id ([shared (.text "first")] ++ unparsed :: []) =
        .error (.config ⟨.malformed .toml, some "broken.toml"⟩) := by
  obtain ⟨-, -, -, firstNamed, again, known, firstFailed⟩ :=
    harvested_homomorphism (id : Except Failure Document → Except Failure Document)
  have fine : ∀ file ∈ [shared (.text "first"), shared (.text "second")],
      ∃ d, id file = .ok d ∧ Tellable d := by
    intro file mem
    rcases List.mem_cons.1 mem with rfl | mem
    · exact ⟨_, rfl, tellable_sibling "first"⟩
    · exact ⟨_, List.mem_singleton.1 mem, tellable_sibling "second"⟩
  obtain ⟨found, hfound, first⟩ := firstNamed _ fine
  have there : Assoc.get? (Text.ofString "other") found = some (Text.ofString "first") :=
    first "other"
  have one : harvested id [shared (.text "first")] = .ok [("other", "first")] := rfl
  refine ⟨rfl, again _ [shared (.text "first")] _ (by simp), ?_, firstFailed _ _ _ _ ?_ rfl⟩
  · refine known _ _ [] _ _ one rfl (tellable_sibling "second") fun crate named => ?_
    rw [packageOf?_sibling] at named
    obtain rfl : Text.ofString "other" = crate := by
      by_contra other
      exact named (if_neg other)
    rfl
  · intro file mem
    exact fine file (by simp_all)

/-- A file whose package has no text cannot be told. -/
theorem telling_shared {v : Value} {f : Fault} (textless : v.shown = .error f) :
    telling id (shared v) = .error (.fault f) := by
  show ((contribution (sibling v)).mapError Failure.fault).map (·.getD []) = _
  rw [contribution_sibling textless]
  rfl

/-- A package that is a whole number with too many digits cannot be shown. A file with one is loaded
and names no crate that is not known, but it cannot be left out; nor is the file that is not well
formed blamed when it comes first. -/
theorem harvested_textless :
    harvested id [shared (.text "first")] = .ok [("other", "first")] ∧
      harvested id [shared (.text "first"), shared (.int leastTextless)] =
        .error (.fault (.unconvertible .integerSize)) ∧
      harvested id [shared (.int leastTextless), unparsed] =
        .error (.fault (.unconvertible .integerSize)) := by
  have failed : telling id (shared (.int leastTextless)) =
      .error (.fault (.unconvertible .integerSize)) :=
    telling_shared (Value.shown_of_textless (Nat.le_refl _))
  refine ⟨rfl, harvested_error_iff.2 ⟨[_], _, [], rfl, ?_, failed⟩,
    harvested_error_iff.2 ⟨[], _, [_], rfl, by simp, failed⟩⟩
  intro file mem
  rw [List.mem_singleton.1 mem]
  exact telling_of_tellable rfl (tellable_sibling "first")

end Merge

end Bindery
