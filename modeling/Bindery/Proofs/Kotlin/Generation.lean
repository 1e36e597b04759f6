import Bindery.Proofs.Kotlin.Agreement

/-!
# When a bundle is generated

A bundle is generated unless a record or an enum cannot be written, a function has no signature, or
a checksum that is compared has no text (`Bundle.generates_iff`). So neither the targets of a
multiplatform build nor the libraries that are loaded decide whether there is one, and a platform
can be given its source as soon as another one that calls the library in the same way can
(`platform_iff`).
-/

namespace Bindery

open Outcome

namespace Interface

/-- Every checksum has a text. -/
def ChecksumsShown (i : Interface) : Prop :=
  ∀ f ∈ i.functions, ∀ v, f.get? "checksum" = some v → ∃ s, v.shown = .ok s

end Interface

/-- A configuration with a target on which checksums are compared when the library is loaded. -/
def Config.ComparesChecksums (c : Config) : Prop :=
  c.omitChecksums = false ∧ (c.multiplatform = true → ∃ t ∈ c.targets, t ≠ .native)

namespace Kotlin

variable {c : Config} {i : Interface} {p : Platform} {f : Table} {ks : List Callable}

/-- Every function has a signature. -/
def Declarable [Stack] (c : Config) (i : Interface) : Prop :=
  ∀ f ∈ i.functions, ∃ s, signature c.customTypes f = .ok s

/-- What can be declared reads as callables. -/
theorem Declarable.exists_callables [Stack] (declarable : Declarable c i) :
    ∃ ks, List.Forall₂ (Callable.Reads c.customTypes) i.functions ks :=
  exists_forall₂ fun f hf => (declarable f hf).elim fun _ => exists_reads

/-- A function that can be declared on one platform can be declared on every one. -/
theorem actual_iff [Stack] :
    (∃ s, actual c i p f = .ok s) ↔ ∃ s, signature c.customTypes f = .ok s := by
  constructor
  · rintro ⟨_, h⟩
    obtain ⟨s, hs, -⟩ := bind_ok_iff.1 h
    exact ⟨s, hs⟩
  · rintro ⟨_, h⟩
    obtain ⟨k, reads⟩ := exists_reads h
    exact ⟨_, reads.actual_ok p⟩

/-- Expectations can be written when all functions can be declared, or none is expected. -/
theorem expectations_iff [Stack] :
    (∃ s, expectations c i = .ok s) ↔ (c.multiplatform = true → Declarable c i) := by
  unfold expectations
  cases c.multiplatform with
  | false => exact iff_of_true ⟨_, rfl⟩ nofun
  | true =>
    have all : (∃ texts, i.functions.mapM (expected c) = .ok texts) ↔ Declarable c i :=
      exists_mapM_ok_iff.trans (forall₂_congr fun f _ => exists_bind_pure)
    exact exists_bind_pure.trans (all.trans ⟨fun h _ => h, fun h => h rfl⟩)

/-- The common source can be made when each record and enum can, and each function where it is
declared. -/
theorem common_iff [Stack] : (∃ text, common c i = .ok text) ↔
    (∀ r ∈ i.records, ∃ s, record c r = .ok s) ∧ (∀ e ∈ i.enums, ∃ s, enum c e = .ok s) ∧
      (c.multiplatform = true → Declarable c i) := by
  rw [common, exists_map, ← expectations_iff, ← exists_mapM_ok_iff, ← exists_mapM_ok_iff]
  exact exists_bind_and fun _ _ => exists_bind_and fun _ _ => exists_bind_pure

/-- A checksum can be compared when it can be shown. -/
theorem checksumCheck_iff [Stack] {f : Table} {k : Callable}
    (reads : Callable.Reads c.customTypes f k) :
    (∃ s, checksumCheck i f = .ok s) ↔ ∃ s, (valueUnder f "checksum").shown = .ok s := by
  rw [checksumCheck, reads.nameAsWritten_ok]
  exact exists_bind_pure

/-- What is compared when the library is loaded has to have a text, and nothing else is needed. -/
theorem loading_iff [Stack] (hks : List.Forall₂ (Callable.Reads c.customTypes) i.functions ks) :
    (∃ s, loading c i = .ok s) ↔ (c.omitChecksums = false → i.ChecksumsShown) := by
  have checks : (∃ s, loading c i = .ok s) ↔
      ∀ f ∈ checkedFunctions c i, ∃ s, checksumCheck i f = .ok s := by
    rw [← exists_mapM_ok_iff]
    constructor
    · rintro ⟨_, h⟩
      obtain ⟨checks, hchecks, -⟩ := bind_ok_iff.1 h
      exact ⟨checks, hchecks⟩
    · rintro ⟨checks, hchecks⟩
      exact ⟨_, loading_eq hchecks⟩
  have shown (f : Table) (hf : f ∈ i.functions) (v : Value) (hv : f.get? "checksum" = some v) :
      (∃ s, checksumCheck i f = .ok s) ↔ ∃ s, v.shown = .ok s := by
    obtain ⟨k, reads⟩ := exists_of_forall₂ hks f hf
    rw [checksumCheck_iff reads, valueUnder, hv, Option.getD_some]
  rw [checks]
  unfold checkedFunctions
  cases c.omitChecksums with
  | true => exact iff_of_true (by simp) (by simp)
  | false =>
    simp only [Bool.false_eq_true, if_false, List.mem_filter, forall_const]
    constructor
    · intro fine f hf v hv
      exact (shown f hf v hv).1 (fine f ⟨hf, by rw [hv]; rfl⟩)
    · rintro fine f ⟨hf, there⟩
      obtain ⟨v, hv⟩ := Option.isSome_iff_exists.1 there
      exact (shown f hf v hv).2 (fine f hf v hv)

/-- The library can be loaded when all checksums that are compared can be shown. -/
theorem libraryPart_iff [Stack] (hks : List.Forall₂ (Callable.Reads c.customTypes) i.functions ks) :
    (∃ s, libraryPart c i p = .ok s) ↔
      (p.isJava = true → c.omitChecksums = false → i.ChecksumsShown) := by
  unfold libraryPart
  cases p.isJava with
  | false => exact iff_of_true ⟨_, rfl⟩ nofun
  | true =>
    rw [if_pos rfl, forall_prop_of_true rfl, ← loading_iff hks]
    constructor
    · rintro ⟨_, h⟩
      obtain ⟨loads, hloads, -⟩ := bind_ok_iff.1 h
      exact ⟨loads, hloads⟩
    · rintro ⟨loads, hloads⟩
      have checksums := mapM_of_reads (reads_checked hks) fun _ _ h => h.checksumMember_ok (i := i)
      have members := mapM_of_reads hks fun _ _ h => h.member_ok (i := i)
      exact ⟨_, bind_ok_iff.2 ⟨loads, hloads, bind_ok_iff.2 ⟨_, checksums, bind_ok_iff.2
        ⟨_, members, rfl⟩⟩⟩⟩

/-- A platform source is generated when all functions can be declared and checksums that are
compared can be shown. -/
theorem platform_iff [Stack] : (∃ text, platform c i p = .ok text) ↔
    Declarable c i ∧ (p.isJava = true → c.omitChecksums = false → i.ChecksumsShown) := by
  have functions : (∀ f ∈ i.functions, ∃ s, actual c i p f = .ok s) ↔ Declarable c i :=
    forall₂_congr fun f _ => actual_iff
  rw [exists_platform_iff, functions, and_comm]
  refine and_congr_right fun declarable => ?_
  obtain ⟨ks, hks⟩ := declarable.exists_callables
  exact libraryPart_iff hks

/-- What can be declared has a header. -/
theorem exists_header [Stack] (declarable : Declarable c i) : ∃ text, header i = .ok text := by
  obtain ⟨ks, hks⟩ := declarable.exists_callables
  exact ⟨_, bind_ok_iff.2 ⟨_, mapM_of_reads hks fun _ _ h => h.prototype_ok, rfl⟩⟩

end Kotlin

namespace Bundle

open Kotlin

variable {emitStub : Bool} {c : Config} {i : Interface}

/-- Checksums are compared where they are not omitted and a platform is selected that loads through
the JVM. -/
theorem comparesChecksums_iff (emitStub : Bool) (c : Config) : c.ComparesChecksums ↔
    c.omitChecksums = false ∧ ∃ p : Platform, p.Selected emitStub c ∧ p.isJava = true := by
  unfold Config.ComparesChecksums
  refine and_congr_right fun _ => ?_
  have java (t : Target) : (Platform.target t).isJava = true ↔ t ≠ .native := by
    cases t <;> simp [Platform.isJava]
  cases hm : c.multiplatform with
  | false => exact iff_of_true (by simp) ⟨.target .jvm, by simp [Platform.Selected, hm], rfl⟩
  | true =>
    rw [forall_prop_of_true rfl]
    constructor
    · rintro ⟨t, ht, other⟩
      exact ⟨.target t, by simpa [Platform.Selected, hm], (java t).2 other⟩
    · rintro ⟨p, selected, hp⟩
      cases p with
      | target t => exact ⟨t, by simpa [Platform.Selected, hm] using selected, (java t).1 hp⟩
      | stub => cases hp

/-- A bundle is generated when each record, enum and function can be written, and the checksums have
texts where they are compared. -/
theorem generates_iff [Stack] : (∃ b, generate emitStub c i = .ok b) ↔
    (∀ r ∈ i.records, ∃ s, record c r = .ok s) ∧ (∀ e ∈ i.enums, ∃ s, enum c e = .ok s) ∧
      Declarable c i ∧ (c.ComparesChecksums → i.ChecksumsShown) := by
  rw [exists_generate_iff, common_iff, comparesChecksums_iff emitStub]
  simp only [platform_iff]
  constructor
  · rintro ⟨⟨records, enums, declarable⟩, selected, -⟩
    -- A build for the JVM alone expects no function, but its JVM source defines each.
    have functions : Declarable c i := by
      cases hm : c.multiplatform with
      | true => exact declarable hm
      | false => exact (selected (.target .jvm) (by simp [Platform.Selected, hm])).1
    refine ⟨records, enums, functions, ?_⟩
    rintro ⟨compared, p, hp, java⟩
    exact (selected p hp).2 java compared
  · rintro ⟨records, enums, functions, shown⟩
    refine ⟨⟨records, enums, fun _ => functions⟩, ?_, fun _ => exists_header functions⟩
    intro p hp
    exact ⟨functions, fun java compared => shown ⟨compared, p, hp, java⟩⟩

/-- A build for the JVM alone asks for nothing more than one with a target on which checksums are
compared. -/
theorem exists_single [Stack] {emitStub' : Bool} {t : Target} (ht : t ∈ c.targets)
    (java : t ≠ .native) (h : ∃ b, generate emitStub c i = .ok b) :
    ∃ b, generate emitStub' { c with multiplatform := false } i = .ok b := by
  obtain ⟨records, enums, functions, shown⟩ := generates_iff.1 h
  have shown' : Config.ComparesChecksums { c with multiplatform := false } → i.ChecksumsShown :=
    fun compared => shown ⟨compared.1, fun _ => ⟨t, ht, java⟩⟩
  exact generates_iff.2 ⟨records, enums, functions, shown'⟩

end Bundle

end Bindery
