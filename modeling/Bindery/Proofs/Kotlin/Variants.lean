import Bindery.Proofs.Kotlin.Generation
import Bindery.Proofs.Kotlin.Libraries

/-!
# What each text of a bundle depends on

The texts of a bundle are made apart from one another. Targets and the stub decide which texts there
are and change none of them (`agree_withTargets`), and a list of libraries changes the texts of the
platforms that load it and no others (`exists_withLibraries`). Both are said of whole bundles in
`Bundle.texts_own`.
-/

namespace Bindery

open Kotlin

namespace Bundle

/-- Two bundles have one text wherever both have a text. -/
structure AgreeWhereShared (b b' : Bundle) : Prop where
  common : b'.common = b.common
  header : ∀ text text', b.header = some text → b'.header = some text' → text' = text
  platforms : ∀ p text text', b.text? p = some text → b'.text? p = some text' → text' = text

/-- Two bundles have the same texts, those of some platforms apart, which both have or neither. -/
structure DifferOnlyAt (varies : Platform → Prop) (b b' : Bundle) : Prop where
  common : b'.common = b.common
  header : b'.header = b.header
  present : ∀ p, (b'.text? p).isSome = (b.text? p).isSome
  platforms : ∀ p, ¬ varies p → b'.text? p = b.text? p

variable {emitStub emitStub' : Bool} {c : Config} {i : Interface} {b b' : Bundle}

/-- There is a text for each platform that is selected. -/
theorem isSome_text?_iff [Stack] (h : generate emitStub c i = .ok b) {p : Platform} :
    (b.text? p).isSome = true ↔ p.Selected emitStub c := by
  rw [Option.isSome_iff_exists]
  exact ⟨fun ⟨_, there⟩ => ((text?_eq_some_iff h).1 there).1, exists_text? h⟩

/-- There is a header for a native target. -/
theorem isSome_header_iff [Stack] (h : generate emitStub c i = .ok b) :
    b.header.isSome = true ↔ (Platform.target .native).Selected emitStub c := by
  rw [(header_iff_native h).1]
  exact isSome_text?_iff h (p := .target .native)

/-- Other targets and another choice about the stub change no text. -/
theorem agree_withTargets [Stack] (h : generate emitStub c i = .ok b) {targets : List Target}
    (h' : generate emitStub' { c with targets } i = .ok b') : b.AgreeWhereShared b' := by
  refine ⟨?_, fun text text' there there' => ?_, fun p text text' there there' => ?_⟩
  · have same : Kotlin.common { c with targets } i = Kotlin.common c i := rfl
    exact Except.ok.inj ((generate_common h').symm.trans (same.trans (generate_common h)))
  · have rendered := ((header_eq_some_iff h).1 there).2
    have rendered' := ((header_eq_some_iff h').1 there').2
    exact Except.ok.inj (rendered'.symm.trans rendered)
  · have rendered := ((text?_eq_some_iff h).1 there).2
    have rendered' : platform c i p = .ok text' := ((text?_eq_some_iff h').1 there').2
    exact Except.ok.inj (rendered'.symm.trans rendered)

/-- A build for the JVM alone looks at neither the targets nor the choice about the stub. -/
theorem generate_withTargets [Stack] (hm : c.multiplatform = false) (targets : List Target) :
    generate emitStub' { c with targets } i = generate emitStub c i :=
  (generate_of_single (c := { c with targets }) hm).trans (generate_of_single hm).symm

/-- Two platforms load through the JVM. -/
theorem eq_of_java {p : Platform} (java : p.isJava = true) :
    p = .target .jvm ∨ p = .target .android := by
  cases p with
  | stub => cases java
  | target t => cases t <;> simp_all [Platform.isJava]

/-- Of the lists of libraries a platform that calls the library through the JVM loads its own and
the shared one. -/
theorem librariesFor_java {p : Platform} (java : p.isJava = true) (c : Config) :
    librariesFor c p.name = Sequence.distinct
      ((if p = .target .jvm then c.jvmLibraries else c.androidLibraries) ++ c.sharedLibraries) := by
  have other : Text.ofString "android" ≠ "jvm" := by decide +kernel
  rcases eq_of_java java with rfl | rfl
  · rfl
  · simp [librariesFor, Platform.name, Target.name, other]

/-- With other libraries there is a bundle again. Where a platform loads the same ones its text is
the same. -/
theorem exists_withLibraries [Stack] (h : generate emitStub c i = .ok b)
    (jvm android shared : List Text)
    {varies : Platform → Prop} (same : ∀ p, ¬ varies p → p.isJava = true →
      librariesFor (c.withLibraries jvm android shared) p.name = librariesFor c p.name) :
    ∃ b', generate emitStub (c.withLibraries jvm android shared) i = .ok b' ∧
      b.DifferOnlyAt varies b' := by
  -- Nothing that decides whether there is a bundle mentions libraries.
  have written := generates_iff.1 ⟨b, h⟩
  obtain ⟨b', h'⟩ : ∃ b', generate emitStub (c.withLibraries jvm android shared) i = .ok b' :=
    generates_iff.2 written
  have common : Kotlin.common (c.withLibraries jvm android shared) i = Kotlin.common c i := rfl
  have selected (p : Platform) :
      p.Selected emitStub (c.withLibraries jvm android shared) ↔ p.Selected emitStub c := Iff.rfl
  refine ⟨b', h', ?_, ?_, fun p => ?_, fun p hp => ?_⟩
  · exact Except.ok.inj ((generate_common h').symm.trans (common.trans (generate_common h)))
  · ext text
    rw [header_eq_some_iff h', header_eq_some_iff h, selected]
  · rw [Bool.eq_iff_iff, isSome_text?_iff h', isSome_text?_iff h, selected]
  · ext text
    rw [text?_eq_some_iff h', text?_eq_some_iff h, selected, platform_withLibraries (same p hp)]

/-- A bundle for the JVM alone has the common and the JVM source, whatever the targets and the
choice about the stub. A multiplatform bundle has the texts that its targets and that choice ask
for, and they change no text. Libraries change the texts of the platforms that load them. -/
theorem texts_own [Stack] (h : generate emitStub c i = .ok b) :
    (c.multiplatform = false →
      (b.jvm.isSome = true ∧ b.android = none ∧ b.native = none ∧ b.stub = none ∧
        b.header = none) ∧
      ∀ emitStub' targets, generate emitStub' { c with targets } i = .ok b) ∧
    (c.multiplatform = true →
      ((∀ t, (b.text? (.target t)).isSome = true ↔ t ∈ c.targets) ∧
        (b.header.isSome = true ↔ .native ∈ c.targets) ∧
        (b.stub.isSome = true ↔ emitStub = true)) ∧
      ∀ emitStub' targets b', generate emitStub' { c with targets } i = .ok b' →
        b.AgreeWhereShared b') ∧
    ∀ libraries,
      (∃ b', generate emitStub { c with jvmLibraries := libraries } i = .ok b' ∧
        b.DifferOnlyAt (· = .target .jvm) b') ∧
      (∃ b', generate emitStub { c with androidLibraries := libraries } i = .ok b' ∧
        b.DifferOnlyAt (· = .target .android) b') ∧
      ∃ b', generate emitStub { c with sharedLibraries := libraries } i = .ok b' ∧
        b.DifferOnlyAt (fun p => p = .target .jvm ∨ p = .target .android) b' := by
  refine ⟨fun hm => ⟨?_, fun emitStub' targets => ?_⟩,
    fun hm => ⟨⟨fun t => ?_, ?_, ?_⟩, fun emitStub' targets b' h' => agree_withTargets h h'⟩,
    fun libraries => ⟨?_, ?_, ?_⟩⟩
  · obtain ⟨_, jvm, -, -, rfl⟩ := generate_single hm h
    exact ⟨rfl, rfl, rfl, rfl, rfl⟩
  · rw [generate_withTargets hm, h]
  · simp [isSome_text?_iff h, Platform.Selected, hm]
  · simp [isSome_header_iff h, Platform.Selected, hm]
  · exact (isSome_text?_iff h (p := .stub)).trans (and_iff_right hm)
  · refine exists_withLibraries h libraries c.androidLibraries c.sharedLibraries
      fun p other java => ?_
    rw [librariesFor_java java, librariesFor_java java, if_neg other, if_neg other]
    rfl
  · refine exists_withLibraries h c.jvmLibraries libraries c.sharedLibraries
      fun p other java => ?_
    have jvm : p = .target .jvm := (eq_of_java java).resolve_right other
    rw [librariesFor_java java, librariesFor_java java, if_pos jvm, if_pos jvm]
    rfl
  · exact exists_withLibraries h c.jvmLibraries c.androidLibraries libraries
      fun p other java => absurd (eq_of_java java) other

/-- The counter has a JVM and a native source, a stub and a header. A library for the JVM changes
the JVM source alone, and a build for the JVM alone does not look at the targets. -/
theorem texts_own_counter :
    (∃ b, generate true counterConfig counter = .ok b ∧ b.header.isSome = true ∧
      b.stub.isSome = true ∧ (b.text? (.target .android)).isSome = false ∧
      ∃ b', generate true { counterConfig with jvmLibraries := ["m"] } counter = .ok b' ∧
        b.DifferOnlyAt (· = .target .jvm) b') ∧
    ∃ b, generate true { counterConfig with multiplatform := false } counter = .ok b ∧
      b.native = none ∧ ∀ targets,
        generate false { counterConfig with multiplatform := false, targets } counter = .ok b := by
  constructor
  · obtain ⟨b, h⟩ := exists_counter_bundle
    obtain ⟨-, multiplatform, libraries⟩ := texts_own h
    obtain ⟨⟨platforms, header, stub⟩, -⟩ := multiplatform rfl
    refine ⟨b, h, header.2 (by decide), stub.2 rfl, ?_, (libraries ["m"]).1⟩
    exact Bool.eq_false_iff.2 fun there => absurd ((platforms .android).1 there) (by decide)
  · obtain ⟨b, h⟩ := exists_single (t := .jvm) (by decide) (by decide)
      exists_counter_bundle
    obtain ⟨single, -, -⟩ := texts_own h
    obtain ⟨⟨-, -, native, -, -⟩, others⟩ := single rfl
    exact ⟨b, h, native, others false⟩

end Bundle

end Bindery
