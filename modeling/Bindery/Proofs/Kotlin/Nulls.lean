import Mathlib.Data.List.Flatten
import Bindery.Proofs.Kotlin.Variants
import Bindery.Proofs.Text.Pieces
import Bindery.Proofs.Value.Keys

/-!
# Attributes that are null

An attribute of a function, a record or an enum that need not be there may be null instead. For the
result of a function that is the same. But a list that is null cannot be gone through, so that
nothing is generated where one stands, and a checksum that is null is compared like any other where
checksums are compared at all. What is generated with the nulls and without them is told apart by
this and nothing else (`Bundle.null_attributes`).
-/

namespace Bindery

open Outcome

/-- The attributes of functions, records and enums that need not be there. -/
def Interface.optionalKeys : List Text :=
  ["arguments", "return_type", "checksum", "fields", "variants"]

/-- `t'` is `t` without some of the optional attributes that are null there. -/
def Table.Cleared (t t' : Table) : Prop :=
  ∀ key, t'.get? key = t.get? key ∨
    key ∈ Interface.optionalKeys ∧ t.get? key = some .null ∧ t'.get? key = none

/-- Tables that have the same under a key, one by one. -/
def Table.KeptUnder (key : Text) (ts ts' : List Table) : Prop :=
  ts'.map (·.get? key) = ts.map (·.get? key)

namespace Interface

/-- `i'` is `i` without some of the optional attributes of its items that are null there. -/
structure Cleared (i i' : Interface) : Prop where
  component : i'.component = i.component
  crateName : i'.crateName = i.crateName
  functions : List.Forall₂ Table.Cleared i.functions i'.functions
  records : List.Forall₂ Table.Cleared i.records i'.records
  enums : List.Forall₂ Table.Cleared i.enums i'.enums

/-- The lists that the items of an interface have are those of another one. -/
structure KeepsLists (i i' : Interface) : Prop where
  arguments : Table.KeptUnder "arguments" i.functions i'.functions
  fields : Table.KeptUnder "fields" i.records i'.records
  variants : Table.KeptUnder "variants" i.enums i'.enums

/-- What depends on the names alone is the same without the nulls. -/
theorem Cleared.same_names {α : Type} {i i' : Interface} (h : i.Cleared i') {g : Interface → α}
    (items : ∀ fs rs es, g ⟨i.component, i.crateName, fs, rs, es⟩ = g i) : g i' = g i := by
  obtain ⟨component, crateName, fs, rs, es⟩ := i'
  obtain ⟨rfl, rfl, -, -, -⟩ := h
  exact items fs rs es

end Interface

/-! ## Items without their nulls -/

namespace Table

variable {t t' : Table} {ts ts' : List Table} {key : Text}

/-- Removing a null under an optional key clears a table. -/
theorem cleared_erase (optional : key ∈ Interface.optionalKeys) (null : t.get? key = some .null) :
    Cleared t (t.erase key) := by
  intro key'
  by_cases h : key = key'
  · subst h
    exact .inr ⟨optional, null, get?_erase_self t key⟩
  · exact .inl (get?_erase_of_ne h t)

/-- Under every other key a cleared table has what it had. -/
theorem Cleared.get?_eq (h : Cleared t t') (needed : key ∉ Interface.optionalKeys) :
    t'.get? key = t.get? key :=
  (h key).resolve_right fun gone => needed gone.1

/-- Read with null for what is not there, nothing has changed. -/
theorem Cleared.valueUnder_eq (h : Cleared t t') (key : Text) :
    Kotlin.valueUnder t' key = Kotlin.valueUnder t key := by
  unfold Kotlin.valueUnder
  rcases h key with same | ⟨-, null, gone⟩
  · rw [same]
  · rw [null, gone]
    rfl

/-- Tables keep what is under a key when each does. -/
theorem keptUnder_cons : KeptUnder key (t :: ts) (t' :: ts') ↔
    t'.get? key = t.get? key ∧ KeptUnder key ts ts' := by
  rw [KeptUnder, List.map_cons, List.map_cons, List.cons.injEq, KeptUnder]

/-- What needs a list under a key holds with a null there for no item, and without it where it holds
of the items that have kept what they had. -/
theorem Cleared.holds_iff {P : Table → Prop} (h : Cleared t t')
    (needs : P t → ∃ items, Kotlin.itemsUnder t key = .ok items)
    (same : t'.get? key = t.get? key → (P t' ↔ P t)) :
    P t ↔ t'.get? key = t.get? key ∧ P t' := by
  rcases h key with kept | ⟨-, null, gone⟩
  · rw [same kept]
    exact (and_iff_right kept).symm
  · have fails : ¬ P t := by
      intro hp
      obtain ⟨items, there⟩ := needs hp
      rw [Kotlin.itemsUnder, null] at there
      cases there
    exact iff_of_false fails fun ⟨kept, _⟩ => by simp [null, gone] at kept

/-- What holds of tables only if they keep a key holds of all when all keep it and it holds of the
cleared ones. -/
theorem forall_iff_of_cleared {P : Table → Prop} (cleared : List.Forall₂ Cleared ts ts')
    (each : ∀ t t', Cleared t t' → (P t ↔ t'.get? key = t.get? key ∧ P t')) :
    (∀ t ∈ ts, P t) ↔ KeptUnder key ts ts' ∧ ∀ t ∈ ts', P t := by
  induction cleared with
  | nil => simp [KeptUnder]
  | cons h _ ih =>
    rw [List.forall_mem_cons, List.forall_mem_cons, ih, each _ _ h, keptUnder_cons]
    exact and_and_and_comm

/-- Where all items have kept what they had under a key, so has what is made of them. -/
theorem mapM_of_cleared {g : Table → Except Fault Text} (cleared : List.Forall₂ Cleared ts ts')
    (kept : KeptUnder key ts ts')
    (each : ∀ t t', Cleared t t' → t'.get? key = t.get? key → g t' = g t) :
    ts'.mapM g = ts.mapM g := by
  induction cleared with
  | nil => rfl
  | cons h _ ih =>
    obtain ⟨same, kept⟩ := keptUnder_cons.1 kept
    rw [List.mapM_cons, List.mapM_cons, each _ _ h same, ih kept]

end Table

namespace Kotlin

variable {c : Config} {customs : List (Text × CustomType)} {i i' : Interface} {p : Platform}
  {t t' : Table}

/-! ## What can be generated -/

/-- A named item that goes through a list of its own, with what comes of both. -/
def listed (key : Text) (rest : Text → List Value → Except Fault Text) (t : Table) :
    Except Fault Text :=
  nameToSpell (.table none t) >>= fun name => itemsUnder t key >>= rest name

/-- A list that is kept is written as before. -/
theorem listed_of_cleared {key : Text} (rest : Text → List Value → Except Fault Text)
    (h : t.Cleared t') (same : t'.get? key = t.get? key) :
    listed key rest t' = listed key rest t := by
  have name : t'.get? "name" = t.get? "name" := h.get?_eq (by decide +kernel)
  simp only [listed, nameToSpell, itemsUnder, Value.table?, Option.bind_some, name, same]

/-- A list can be written when no null stands in its place and it can be without the nulls. -/
theorem listed_iff_of_cleared {key : Text} (rest : Text → List Value → Except Fault Text)
    (h : t.Cleared t') : (∃ s, listed key rest t = .ok s) ↔
      t'.get? key = t.get? key ∧ ∃ s, listed key rest t' = .ok s := by
  refine h.holds_iff (P := fun t => ∃ s, listed key rest t = .ok s) ?_ fun same => ?_
  · rintro ⟨_, written⟩
    obtain ⟨_, -, written⟩ := bind_ok_iff.1 written
    obtain ⟨items, there, -⟩ := bind_ok_iff.1 written
    exact ⟨items, there⟩
  · rw [listed_of_cleared rest h same]

/-- A function has a signature when its parameters are no null and it has one without the nulls. -/
theorem signature_iff_of_cleared [Stack] (h : t.Cleared t') : (∃ s, signature customs t = .ok s) ↔
    t'.get? "arguments" = t.get? "arguments" ∧ ∃ s, signature customs t' = .ok s := by
  refine h.holds_iff (P := fun t => ∃ s, signature customs t = .ok s) ?_ fun same => ?_
  · rintro ⟨_, written⟩
    obtain ⟨k, reads⟩ := exists_reads written
    obtain ⟨items, there, -⟩ := reads.parameters
    exact ⟨items, there⟩
  · have name : t'.get? "name" = t.get? "name" := h.get?_eq (by decide +kernel)
    have whole : signature customs t' = signature customs t := by
      simp only [signature, tail, resultType, nameToSpell, itemsUnder, Value.table?,
        Option.bind_some, name, same, h.valueUnder_eq]
    rw [whole]

/-- A checksum that is null has a text like any other. -/
theorem checksumsShown_iff_of_cleared (h : i.Cleared i') :
    i.ChecksumsShown ↔ i'.ChecksumsShown := by
  have each (f f' : Table) (hf : f.Cleared f') :
      (∀ v, f.get? "checksum" = some v → ∃ s, v.shown = .ok s) ↔
        ∀ v, f'.get? "checksum" = some v → ∃ s, v.shown = .ok s := by
    rcases hf "checksum" with same | ⟨-, null, gone⟩
    · rw [same]
    · rw [null, gone]
      exact iff_of_true (fun v hv => Option.some.inj hv ▸ ⟨_, rfl⟩) nofun
  have functions := h.functions
  constructor
  · intro shown f' hf'
    obtain ⟨f, hf, cleared⟩ := exists_mem_of_forall₂ functions.flip f' hf'
    exact (each f f' cleared).1 (shown f hf)
  · intro shown f hf
    obtain ⟨f', hf', cleared⟩ := exists_mem_of_forall₂ functions f hf
    exact (each f f' cleared).2 (shown f' hf')

/-! ## What is generated -/

/-- Kept lists have the same common front. -/
theorem commonFront_of_cleared [Stack] (h : i.Cleared i') (kept : i.KeepsLists i') :
    commonFront c i' = commonFront c i := by
  have records : i'.records.mapM (record c) = i.records.mapM (record c) :=
    Table.mapM_of_cleared h.records kept.fields fun _ _ => listed_of_cleared _
  have enums : i'.enums.mapM (enum c) = i.enums.mapM (enum c) :=
    Table.mapM_of_cleared h.enums kept.variants fun _ _ => listed_of_cleared _
  rw [commonFront, records, enums, h.component]
  rfl

/-- `k'` is `k`, perhaps without a checksum that is null. -/
structure Callable.Cleared (k k' : Callable) : Prop where
  alike : k' = { k with checksum := k'.checksum }
  checksum : k'.checksum = k.checksum ∨ k.checksum = some .null ∧ k'.checksum = none

/-- Functions without their nulls read as before, but for their checksums. -/
theorem exists_reads_cleared [Stack] {fs fs' : List Table} {ks : List Callable}
    (cleared : List.Forall₂ Table.Cleared fs fs') (kept : Table.KeptUnder "arguments" fs fs')
    (hks : List.Forall₂ (Callable.Reads customs) fs ks) :
    ∃ ks', List.Forall₂ (Callable.Reads customs) fs' ks' ∧ List.Forall₂ Callable.Cleared ks ks' ∧
      (ks'.map Callable.checksum = ks.map Callable.checksum ↔
        Table.KeptUnder "checksum" fs fs') := by
  induction cleared generalizing ks with
  | nil =>
    cases hks
    exact ⟨[], .nil, .nil, iff_of_true rfl rfl⟩
  | @cons f f' fs fs' h _ ih =>
    cases hks with
    | @cons _ k _ ks reads hks =>
      obtain ⟨same, kept⟩ := Table.keptUnder_cons.1 kept
      obtain ⟨ks', hks', alike, sums⟩ := ih kept hks
      refine ⟨{ k with checksum := f'.get? "checksum" } :: ks', .cons ?_ hks',
        .cons ⟨rfl, ?_⟩ alike, ?_⟩
      · exact {
          name := (h.get?_eq (by decide +kernel)).trans reads.name
          parameters := by
            obtain ⟨items, there, parameters⟩ := reads.parameters
            exact ⟨items, by rwa [itemsUnder, same], parameters⟩
          result := (h.valueUnder_eq _).trans reads.result
          resultType := reads.resultType
          checksum := rfl }
      · rw [← reads.checksum]
        exact (h "checksum").imp_right And.right
      · rw [Table.keptUnder_cons, List.map_cons, List.map_cons, List.cons.injEq, sums,
          ← reads.checksum]

section Cleared

variable {ks ks' : List Callable} (cleared : List.Forall₂ Callable.Cleared ks ks')

include cleared

/-- Callables that differ in their checksums only are written the same where no checksum is. -/
theorem map_of_cleared {g g' : Callable → Text}
    (same : ∀ k sum, g' { k with checksum := sum } = g k) : ks'.map g' = ks.map g := by
  induction cleared with
  | nil => rfl
  | cons h _ ih => rw [List.map_cons, List.map_cons, ih, h.alike, same]

/-- Clearing checksums leaves out lines that compare them, and none exactly if every checksum that
is compared stays. -/
theorem checked_of_cleared (c : Config) : (checked c ks').Sublist (checked c ks) ∧
    ((checked c ks').length = (checked c ks).length ↔
      (c.omitChecksums = false → ks'.map Callable.checksum = ks.map Callable.checksum)) := by
  unfold checked
  cases c.omitChecksums with
  | true => exact ⟨.refl _, iff_of_true rfl nofun⟩
  | false =>
    rw [forall_prop_of_true rfl]
    simp only [Bool.false_eq_true, if_false]
    induction cleared with
    | nil => exact ⟨.refl _, iff_of_true rfl rfl⟩
    | @cons k k' ks ks' h _ ih =>
      obtain ⟨sub, sums⟩ := ih
      rw [List.map_cons, List.map_cons, List.cons.injEq]
      rcases h.checksum with same | ⟨null, gone⟩
      · have alike : k' = k := by rw [h.alike, same]
        subst alike
        rw [List.filter_cons, List.filter_cons]
        split
        · exact ⟨sub.cons_cons _, by simpa using sums⟩
        · exact ⟨sub, by simpa using sums⟩
      · rw [List.filter_cons_of_pos (a := k) (by rw [null]; rfl),
          List.filter_cons_of_neg (a := k') (by simp [gone])]
        have less := sub.length_le
        refine ⟨sub.cons _, iff_of_false ?_ fun ⟨same, _⟩ => by simp [null, gone] at same⟩
        rw [List.length_cons]
        omega

end Cleared

/-! ## The interface to the library -/

/-- A callable has one line that compares its checksum. -/
theorem checks_unique (i : Interface) : Relator.RightUnique (Callable.Checks i) := by
  rintro k lines lines' ⟨number, shown, rfl⟩ ⟨number', shown', rfl⟩
  rw [Except.ok.inj (shown.symm.trans shown')]

/-- Fewer functions have fewer checks. -/
theorem checks_sublist {ks ks' : List Callable} {checks checks' : List Text} (sub : ks'.Sublist ks)
    (h : List.Forall₂ (Callable.Checks i) ks checks)
    (h' : List.Forall₂ (Callable.Checks i) ks' checks') : checks'.Sublist checks := by
  induction sub generalizing checks checks' with
  | slnil =>
    cases h'
    exact List.nil_sublist _
  | cons _ _ ih =>
    cases h with
    | cons _ rest => exact (ih rest h').cons _
  | cons_cons _ _ ih =>
    cases h with
    | cons lines rest =>
      cases h' with
      | cons lines' rest' =>
        rw [checks_unique i lines' lines]
        exact (ih rest rest').cons_cons _

/-- Fewer lines make no longer part that loads. -/
theorem length_loadingText_le {checks checks' : List Text} (sub : checks'.Sublist checks) :
    (loadingText c i checks').length ≤ (loadingText c i checks).length := by
  have newline : (Text.ofString "\n").length ≤ (Text.ofString "            \x7d\n").length := by
    decide
  have flatten := sub.flatten.length_le
  unfold loadingText
  split
  · split
    · exact Nat.le_refl _
    · simp only [List.length_append]
      omega
  · rename_i some'
    have some : ¬ checks.isEmpty = true := by
      intro none
      rw [List.isEmpty_iff.1 none] at sub
      exact some' (List.isEmpty_iff.2 (List.sublist_nil.1 sub))
    rw [if_neg some]
    simp only [List.length_append]
    omega

/-- Fewer texts of those that are not empty make a shorter text. -/
theorem length_flatten_lt {texts texts' : List Text} (sub : texts'.Sublist texts)
    (less : texts'.length < texts.length) (filled : ∀ s ∈ texts, s ≠ []) :
    texts'.flatten.length < texts.flatten.length := by
  induction sub with
  | slnil => simp at less
  | @cons texts' texts s sub _ =>
    have some := List.length_pos_iff.2 (filled s List.mem_cons_self)
    have rest := sub.flatten.length_le
    rw [List.flatten_cons, List.length_append]
    omega
  | @cons_cons texts' texts s _ ih =>
    have rest := ih (by simpa using less) fun s hs => filled s (List.mem_cons_of_mem _ hs)
    rw [List.flatten_cons, List.flatten_cons, List.length_append, List.length_append]
    omega

/-- A checksum more makes the interface to the library longer. -/
theorem length_libraryText_lt {ks ks' : List Callable} {checks checks' : List Text}
    (sub : checks'.Sublist checks) (sub' : (checked c ks').Sublist (checked c ks))
    (less : (checked c ks').length < (checked c ks).length)
    (members : ks'.map (Callable.member i) = ks.map (Callable.member i)) :
    (libraryText c i p checks' ks').length < (libraryText c i p checks ks).length := by
  have filled : ∀ s ∈ (checked c ks).map (Callable.checksumMember i), s ≠ [] := by
    intro s hs empty
    obtain ⟨k, -, rfl⟩ := List.mem_map.1 hs
    exact absurd (List.append_eq_nil_iff.1 empty).2 (by decide)
  have sums := length_flatten_lt (sub'.map (Callable.checksumMember i)) (by simpa using less) filled
  have loads := length_loadingText_le (c := c) (i := i) sub
  simp only [libraryText, List.length_append, List.flatMap_def, members]
  omega

/-- Blanks are taken off the end of a source no further than to the end of the interface to the
library. -/
theorem length_finished (front defs : Text) (checks : List Text) (ks : List Callable) :
    (finished (front ++ libraryText c i p checks ks ++ defs)).length + 1 =
      front.length + (libraryText c i p checks ks).length +
        (Text.trimEnd ("\n\n" ++ defs)).length := by
  have last : Text.ofString "\x7d\n\n" = .char '\x7d' :: Text.ofString "\n\n" := by decide
  obtain ⟨body, whole⟩ : ∃ body, libraryText c i p checks ks =
      body ++ .char '\x7d' :: Text.ofString "\n\n" := ⟨_, by rw [← last]; rfl⟩
  rw [whole, finished, List.append_assoc, List.append_assoc, List.cons_append, ← List.append_assoc,
    Text.trimEnd_append_cons (by decide)]
  simp only [List.length_append, List.length_cons]
  have : (Text.ofString "\n").length = 1 := rfl
  have : (Text.ofString "\n\n").length = 2 := rfl
  omega

section Texts

variable {ks ks' : List Callable} {text text' : Text} (h : i.Cleared i')

include h

/-- Clearing keeps the front of a source. -/
theorem front_of_cleared : front c i' p = front c i p :=
  h.same_names (g := fun i => front c i p) fun _ _ _ => rfl

theorem libraryText_of_cleared (checks : List Text) (ks : List Callable) :
    libraryText c i' p checks ks = libraryText c i p checks ks :=
  h.same_names (g := fun i => libraryText c i p checks ks) fun _ _ _ => rfl

theorem checks_of_cleared : Callable.Checks i' = Callable.Checks i :=
  h.same_names fun _ _ _ => rfl

/-- And the definitions of its callables. -/
theorem definitions_of_cleared (cleared : List.Forall₂ Callable.Cleared ks ks') :
    ks'.map (Callable.definition c i' p) = ks.map (Callable.definition c i p) := by
  rw [h.same_names (g := fun i => Callable.definition c i p) fun _ _ _ => rfl]
  exact map_of_cleared cleared fun _ _ => by cases p <;> rfl

variable [Stack] (hks : List.Forall₂ (Callable.Reads c.customTypes) i.functions ks)
  (hks' : List.Forall₂ (Callable.Reads c.customTypes) i'.functions ks')
  (cleared : List.Forall₂ Callable.Cleared ks ks')

include hks hks' cleared

/-- And the header. -/
theorem header_of_cleared : header i' = header i := by
  have prototypes : ks'.map (Callable.prototype i') = ks.map (Callable.prototype i) := by
    rw [h.same_names (g := Callable.prototype) fun _ _ _ => rfl]
    exact map_of_cleared cleared fun _ _ => rfl
  rw [header, mapM_of_reads hks' fun _ _ h => h.prototype_ok, header,
    mapM_of_reads hks fun _ _ h => h.prototype_ok, prototypes]

/-- And the common source, when all lists are kept. -/
theorem common_of_cleared (kept : i.KeepsLists i') : common c i' = common c i := by
  have expectations : ks'.map Callable.expectation = ks.map Callable.expectation :=
    map_of_cleared cleared fun _ _ => rfl
  rw [common, commonBody_of_reads hks', common, commonBody_of_reads hks, List.flatMap_def,
    List.flatMap_def, expectations, commonFront_of_cleared h kept]

/-- And every source that does not load through the JVM. -/
theorem platform_of_cleared (foreign : p.isJava = false) : platform c i' p = platform c i p := by
  have part (i : Interface) : libraryPart c i p = .ok "" := if_neg (by simp [foreign])
  rw [platform, platformBody_of_reads hks', platform, platformBody_of_reads hks, part, part,
    front_of_cleared h, List.flatMap_def, List.flatMap_def, definitions_of_cleared h cleared]

/-- A source that calls the library through the JVM is the same when as many checksums are
compared. -/
theorem platform_java_of_cleared (java : p.isJava = true) (hp : platform c i p = .ok text)
    (hp' : platform c i' p = .ok text') :
    text' = text ↔ (checked c ks').length = (checked c ks).length := by
  obtain ⟨library, part, whole⟩ := platform_eq hks hp
  obtain ⟨library', part', whole'⟩ := platform_eq hks' hp'
  rw [libraryPart, if_pos java] at part part'
  obtain ⟨checks, hchecks, rfl⟩ := libraryInterface_eq hks part
  obtain ⟨checks', hchecks', rfl⟩ := libraryInterface_eq hks' part'
  rw [libraryText_of_cleared h, front_of_cleared h, List.flatMap_def,
    definitions_of_cleared h cleared] at whole'
  rw [List.flatMap_def] at whole
  rw [checks_of_cleared h] at hchecks'
  have members : ks'.map (Callable.member i) = ks.map (Callable.member i) :=
    map_of_cleared cleared fun _ _ => rfl
  have sub := (checked_of_cleared cleared c).1
  constructor
  · rintro rfl
    by_contra other
    have less : (checked c ks').length < (checked c ks).length :=
      Nat.lt_of_le_of_ne sub.length_le other
    have shorter := length_libraryText_lt (p := p) (checks_sublist sub hchecks hchecks') sub less
      members
    have length := length_finished (c := c) (i := i) (p := p)
    have lengths := congrArg List.length (whole.symm.trans whole')
    have := length (front c i p) (ks.map (Callable.definition c i p)).flatten checks ks
    have := length (front c i p) (ks.map (Callable.definition c i p)).flatten checks' ks'
    omega
  · intro same
    have alike := sub.eq_of_length same
    rw [alike] at hchecks'
    obtain rfl := List.right_unique_forall₂' (checks_unique i) hchecks hchecks'
    have flat : ks'.flatMap (Callable.member i) = ks.flatMap (Callable.member i) := by
      rw [List.flatMap_def, members, List.flatMap_def]
    rw [whole, whole', libraryText, alike, flat, libraryText]

end Texts

end Kotlin

namespace Bundle

open Kotlin

variable {emitStub : Bool} {c : Config} {i i' : Interface} {b b' : Bundle}

/-- A bundle is generated when one is for the cleared interface and no list was null. -/
theorem generates_iff_of_cleared [Stack] (h : i.Cleared i') : (∃ b, generate emitStub c i = .ok b) ↔
    i.KeepsLists i' ∧ ∃ b', generate emitStub c i' = .ok b' := by
  have records : (∀ r ∈ i.records, ∃ s, record c r = .ok s) ↔
      Table.KeptUnder "fields" i.records i'.records ∧ ∀ r ∈ i'.records, ∃ s, record c r = .ok s :=
    Table.forall_iff_of_cleared h.records fun _ _ => listed_iff_of_cleared _
  have enums : (∀ e ∈ i.enums, ∃ s, enum c e = .ok s) ↔
      Table.KeptUnder "variants" i.enums i'.enums ∧ ∀ e ∈ i'.enums, ∃ s, enum c e = .ok s :=
    Table.forall_iff_of_cleared h.enums fun _ _ => listed_iff_of_cleared _
  have functions : Declarable c i ↔
      Table.KeptUnder "arguments" i.functions i'.functions ∧ Declarable c i' :=
    Table.forall_iff_of_cleared h.functions fun _ _ => signature_iff_of_cleared
  rw [generates_iff, generates_iff, records, enums, functions, checksumsShown_iff_of_cleared h]
  constructor
  · rintro ⟨⟨fields, records⟩, ⟨variants, enums⟩, ⟨arguments, functions⟩, shown⟩
    exact ⟨⟨arguments, fields, variants⟩, records, enums, functions, shown⟩
  · rintro ⟨⟨arguments, fields, variants⟩, records, enums, functions, shown⟩
    exact ⟨⟨fields, records⟩, ⟨variants, enums⟩, ⟨arguments, functions⟩, shown⟩

/-- Bundles with the same texts are the same. -/
theorem eq_of_texts (common : b'.common = b.common) (header : b'.header = b.header)
    (platforms : ∀ p, b'.text? p = b.text? p) : b' = b := by
  obtain ⟨_, _, _, _, _, _⟩ := b
  obtain ⟨_, _, _, _, _, _⟩ := b'
  obtain rfl := common
  obtain rfl := header
  obtain rfl := platforms (.target .jvm)
  obtain rfl := platforms (.target .android)
  obtain rfl := platforms (.target .native)
  obtain rfl := platforms .stub
  rfl

/-- There is no text for a platform that is not selected. -/
theorem text?_eq_none [Stack] (h : generate emitStub c i = .ok b) {p : Platform}
    (other : ¬ p.Selected emitStub c) : b.text? p = none :=
  Option.not_isSome_iff_eq_none.1 (mt (isSome_text?_iff h).1 other)

section Cleared

variable [Stack] {ks ks' : List Callable} (h : i.Cleared i')
  (hks : List.Forall₂ (Callable.Reads c.customTypes) i.functions ks)
  (hks' : List.Forall₂ (Callable.Reads c.customTypes) i'.functions ks')
  (cleared : List.Forall₂ Callable.Cleared ks ks')
  (hb : generate emitStub c i = .ok b) (hb' : generate emitStub c i' = .ok b')

include h hks hks' cleared hb hb'

/-- The bundles differ only in sources that load through the JVM. -/
theorem differOnlyAt_java (kept : i.KeepsLists i') :
    b.DifferOnlyAt (fun p => p.isJava = true) b' := by
  refine ⟨?_, ?_, fun p => ?_, fun p foreign => ?_⟩
  · have same := common_of_cleared h hks hks' cleared kept
    exact Except.ok.inj ((generate_common hb').symm.trans (same.trans (generate_common hb)))
  · ext text
    rw [header_eq_some_iff hb', header_eq_some_iff hb, header_of_cleared h hks hks' cleared]
  · rw [Bool.eq_iff_iff, isSome_text?_iff hb', isSome_text?_iff hb]
  · ext text
    rw [text?_eq_some_iff hb', text?_eq_some_iff hb,
      platform_of_cleared h hks hks' cleared (Bool.eq_false_iff.2 foreign)]

/-- And in those they differ exactly if another number of checksums is compared. -/
theorem text?_java_iff {p : Platform} (java : p.isJava = true)
    (selected : p.Selected emitStub c) :
    b'.text? p = b.text? p ↔ (checked c ks').length = (checked c ks).length := by
  obtain ⟨text, there⟩ := exists_text? hb selected
  obtain ⟨text', there'⟩ := exists_text? hb' selected
  rw [there, there', Option.some.injEq]
  exact platform_java_of_cleared h hks hks' cleared java ((text?_eq_some_iff hb).1 there).2
    ((text?_eq_some_iff hb').1 there').2

end Cleared

/-- A null that might as well not be there changes nothing when it stands for a result, and stops
everything when it stands for a list. When it stands for a checksum it changes the sources that
compare checksums, and these alone. -/
theorem null_attributes [Stack] (h : i.Cleared i') :
    ((∃ b, generate emitStub c i = .ok b) ↔
      i.KeepsLists i' ∧ ∃ b', generate emitStub c i' = .ok b') ∧
    ∀ b b', generate emitStub c i = .ok b → generate emitStub c i' = .ok b' →
      b.DifferOnlyAt (fun p => p.isJava = true) b' ∧
      (b' = b ↔ (c.ComparesChecksums → Table.KeptUnder "checksum" i.functions i'.functions)) := by
  refine ⟨generates_iff_of_cleared h, fun b b' hb hb' => ?_⟩
  obtain ⟨kept, -⟩ := (generates_iff_of_cleared h).1 ⟨b, hb⟩
  obtain ⟨ks, hks⟩ := exists_callables hb
  obtain ⟨ks', hks', cleared, sums⟩ := exists_reads_cleared h.functions kept.arguments hks
  have differ := differOnlyAt_java h hks hks' cleared hb hb' kept
  have java (p : Platform) := text?_java_iff (p := p) h hks hks' cleared hb hb'
  simp only [(checked_of_cleared cleared c).2, sums] at java
  refine ⟨differ, ?_, fun same => eq_of_texts differ.common differ.header fun p => ?_⟩
  · rintro rfl comparing
    obtain ⟨compared, p, selected, hp⟩ := (comparesChecksums_iff emitStub c).1 comparing
    exact (java p hp selected).1 rfl compared
  · by_cases hp : p.isJava = true
    · by_cases selected : p.Selected emitStub c
      · exact (java p hp selected).2 fun compared =>
          same ((comparesChecksums_iff emitStub c).2 ⟨compared, p, selected, hp⟩)
      · rw [text?_eq_none hb selected, text?_eq_none hb' selected]
    · exact differ.platforms p hp

/-- A component with one function, whose name and some attributes are given. -/
def pinger (attributes : Table) : Interface where
  component := "pinger"
  crateName := "pinger"
  functions := [(.text "name", .text "ping") :: attributes]

section Pinger

variable {key : Text} (optional : key ∈ Interface.optionalKeys)

include optional

theorem not_same_name : Key.same (Value.text "name") (Value.text key) = false :=
  Table.text_not_same fun name => absurd (name ▸ optional) (by decide +kernel)

theorem pinger_get?_eq :
    Table.get? [(.text "name", .text "ping"), (.text key, .null)] key = some .null := by
  simp [Table.get?, Assoc.get?, not_same_name optional, Value.same_text, Text.same_self]

/-- Clearing the null gives a function with nothing but its name. -/
theorem pinger_cleared : (pinger [(.text key, .null)]).Cleared (pinger []) where
  component := rfl
  crateName := rfl
  functions := by
    have erased : Table.erase [(.text "name", .text "ping"), (.text key, .null)] key =
        [(.text "name", .text "ping")] := by
      simp [Table.erase, Assoc.erase, not_same_name optional, Value.same_text, Text.same_self]
    exact .cons (erased ▸ Table.cleared_erase optional (pinger_get?_eq optional)) .nil
  records := .nil
  enums := .nil

/-- And does not keep what was under its key. -/
theorem pinger_not_keptUnder :
    ¬ Table.KeptUnder key (pinger [(.text key, .null)]).functions (pinger []).functions := by
  intro same
  have found : Table.get? [(.text "name", .text "ping")] key = some .null :=
    (List.cons.inj same).1.trans (pinger_get?_eq optional)
  simp [Table.get?, Assoc.get?, not_same_name optional] at found

end Pinger

/-- A result that is null is none. Nothing is generated for parameters that are null, and a checksum
that is null is compared in the JVM source. -/
theorem null_attributes_pinger :
    (∃ b, generate false {} (pinger [(.text "return_type", .null)]) = .ok b ∧
      generate false {} (pinger []) = .ok b) ∧
    (¬ ∃ b, generate false {} (pinger [(.text "arguments", .null)]) = .ok b) ∧
    ∃ b b', generate false {} (pinger [(.text "checksum", .null)]) = .ok b ∧
      generate false {} (pinger []) = .ok b' ∧
      b.DifferOnlyAt (fun p => p.isJava = true) b' ∧ b' ≠ b := by
  obtain ⟨b', hb'⟩ : ∃ b', generate false {} (pinger []) = .ok b' :=
    exists_of_isOk (by decide +kernel)
  refine ⟨?_, ?_, ?_⟩
  · have optional : Text.ofString "return_type" ∈ Interface.optionalKeys := by decide +kernel
    have cleared := pinger_cleared optional
    obtain ⟨b, hb⟩ : ∃ b, generate false {} (pinger [(.text "return_type", .null)]) = .ok b :=
      (null_attributes cleared).1.2 ⟨⟨rfl, rfl, rfl⟩, b', hb'⟩
    obtain ⟨-, same⟩ := (null_attributes cleared).2 b b' hb hb'
    exact ⟨b, hb, (same.2 fun _ => rfl) ▸ hb'⟩
  · have optional : Text.ofString "arguments" ∈ Interface.optionalKeys := by decide +kernel
    intro generated
    have kept := ((null_attributes (pinger_cleared optional)).1.1 generated).1
    exact pinger_not_keptUnder optional kept.arguments
  · have optional : Text.ofString "checksum" ∈ Interface.optionalKeys := by decide +kernel
    have cleared := pinger_cleared optional
    obtain ⟨b, hb⟩ : ∃ b, generate false {} (pinger [(.text "checksum", .null)]) = .ok b :=
      (null_attributes cleared).1.2 ⟨⟨rfl, rfl, rfl⟩, b', hb'⟩
    obtain ⟨differ, same⟩ := (null_attributes cleared).2 b b' hb hb'
    exact ⟨b, b', hb, hb', differ, fun alike =>
      pinger_not_keptUnder optional (same.1 alike ⟨rfl, nofun⟩)⟩

/-- Without the parameters that are null there is a bundle, and with them there is none. Without the
checksum that is null there is another bundle than with it. -/
theorem nulls_matter :
    (pinger [(.text "arguments", .null)]).Cleared (pinger []) ∧
    (pinger [(.text "checksum", .null)]).Cleared (pinger []) ∧
    (generate false {} (pinger [(.text "arguments", .null)])).isOk = false ∧
    (generate false {} (pinger [])).isOk = true ∧
    (generate false {} (pinger [(.text "checksum", .null)])).isOk = true ∧
    generate false {} (pinger [(.text "checksum", .null)]) ≠ generate false {} (pinger []) :=
  ⟨pinger_cleared (by decide +kernel), pinger_cleared (by decide +kernel), by decide +kernel⟩

end Bundle

end Bindery
