import Bindery.Proofs.Kotlin.Agreement

/-!
# The sources of a build for the JVM alone

A build for the JVM alone writes what a multiplatform build writes, without the layer that joins
common code to the platforms: its common source has no expected declarations, and no function of its
JVM source is marked as an actual one (`Bundle.single_of_multiplatform`). What stands in front of
the functions is the same text, and so is every function behind its mark.
-/

namespace Bindery

open Outcome Kotlin

namespace Kotlin

variable {c : Config} {i : Interface} {ks : List Callable} {head library : Text}

/-- A function of a platform's source behind its mark. -/
def Callable.unmarked (c : Config) (i : Interface) (p : Platform) (k : Callable) : Text :=
  "fun " ++ k.signature ++ " =\n" ++ k.body c i p ++ "\n"

/-- The common source of a build for the JVM alone is the front of the common source. -/
theorem commonBody_single [Stack] (hks : List.Forall₂ (Callable.Reads c.customTypes) i.functions ks)
    (hhead : commonFront c i = .ok head) :
    commonBody { c with multiplatform := false } i = .ok head := by
  have front : commonFront { c with multiplatform := false } i = .ok head := hhead
  rw [commonBody_of_reads (c := { c with multiplatform := false }) hks, front]
  exact congrArg Except.ok (List.append_nil head)

/-- No function is marked in the JVM source of a build for the JVM alone. -/
theorem platformBody_single [Stack]
    (hks : List.Forall₂ (Callable.Reads c.customTypes) i.functions ks)
    {p : Platform} (hlibrary : libraryPart c i p = .ok library) :
    platformBody { c with multiplatform := false } i p =
      .ok (front c i p ++ library ++ ks.flatMap (Callable.unmarked c i p)) := by
  have part : libraryPart { c with multiplatform := false } i p = .ok library := hlibrary
  rw [platformBody_of_reads (c := { c with multiplatform := false }) hks, part]
  rfl

end Kotlin

/-- The common and the JVM source that a bundle holds, before blanks at their ends are removed. -/
structure Bundle.HasSources [Stack] (b : Bundle) (c : Config) (i : Interface) (common jvm : Text) :
    Prop where
  commonBody : Kotlin.commonBody c i = .ok common
  jvmBody : platformBody c i (.target .jvm) = .ok jvm
  common : b.common = finished common
  jvm : b.jvm = some (finished jvm)

namespace Bundle

variable {emitStub : Bool} {c : Config} {i : Interface} {b : Bundle} {common jvm : Text}

/-- A bundle with a JVM source has its common and its JVM source. -/
theorem exists_sources [Stack] (h : generate emitStub c i = .ok b)
    (selected : (Platform.target .jvm).Selected emitStub c) :
    ∃ common jvm, b.HasSources c i common jvm := by
  obtain ⟨common, hcommon, ended⟩ := map_ok_iff.1 (generate_common h)
  obtain ⟨text, there⟩ := exists_text? h selected
  obtain ⟨jvm, hjvm, rfl⟩ := map_ok_iff.1 ((text?_eq_some_iff h).1 there).2
  exact ⟨common, jvm, hcommon, hjvm, ended.symm, there⟩

/-- In a build for the JVM alone there is nothing but these two sources to make. -/
theorem exists_generate_of_sources [Stack] (emitStub : Bool) (hm : c.multiplatform = false)
    (hcommon : commonBody c i = .ok common) (hjvm : platformBody c i (.target .jvm) = .ok jvm) :
    ∃ b, generate emitStub c i = .ok b ∧ b.HasSources c i common jvm := by
  rw [generate_of_single hm, Kotlin.common, hcommon, platform, hjvm]
  exact ⟨_, rfl, hcommon, hjvm, rfl, rfl⟩

/-- Where a multiplatform build with the JVM among its targets has a bundle, a build for the JVM
alone has one too. Its common source is that of the multiplatform build without the expected
declarations, and its JVM source that of the multiplatform build without what marks each function as
an actual one. -/
theorem single_of_multiplatform [Stack] (hm : c.multiplatform = true) (hjvm : .jvm ∈ c.targets)
    (h : generate emitStub c i = .ok b) (emitStub' : Bool) :
    ∃ (b' : Bundle) (ks : List Callable) (head start : Text),
      generate emitStub' { c with multiplatform := false } i = .ok b' ∧
      List.Forall₂ (Callable.Reads c.customTypes) i.functions ks ∧
      b.HasSources c i
        (head ++ ks.flatMap fun k => ("expect fun " ++ k.signature ++ "\n" : Text))
        (start ++ ks.flatMap fun k => ("actual " ++ k.unmarked c i (.target .jvm) : Text)) ∧
      b'.HasSources { c with multiplatform := false } i head
        (start ++ ks.flatMap fun k => k.unmarked c i (.target .jvm)) := by
  obtain ⟨ks, hks⟩ := exists_callables h
  have selected : (Platform.target .jvm).Selected emitStub c := by
    simpa [Platform.Selected, hm] using hjvm
  obtain ⟨common, jvm, sources⟩ := exists_sources h selected
  have hcommon := sources.commonBody
  rw [commonBody_of_reads hks, if_pos hm] at hcommon
  obtain ⟨head, hhead, hcommon⟩ := bind_ok_iff.1 hcommon
  obtain rfl := pure_ok_iff.1 hcommon
  have hjvm := sources.jvmBody
  rw [platformBody_of_reads hks] at hjvm
  obtain ⟨library, hlibrary, hjvm⟩ := bind_ok_iff.1 hjvm
  obtain rfl := pure_ok_iff.1 hjvm
  obtain ⟨b', h', sources'⟩ := exists_generate_of_sources emitStub' rfl
    (commonBody_single hks hhead) (platformBody_single hks hlibrary)
  have marked : Callable.definition c i (.target .jvm) =
      fun k => ("actual " ++ k.unmarked c i (.target .jvm) : Text) := by
    funext k
    rw [Callable.definition, mark, if_pos hm, Callable.unmarked]
    simp only [List.append_assoc]
  rw [marked] at sources
  exact ⟨b', ks, head, _, h', hks, sources, sources'⟩

/-- The counter's JVM source has its function without a mark when it is built for the JVM alone. -/
theorem single_of_multiplatform_counter :
    ∃ (b b' : Bundle) (ks : List Callable) (head start : Text),
      generate true counterConfig counter = .ok b ∧
      generate false { counterConfig with multiplatform := false } counter = .ok b' ∧
      ks.length = 1 ∧
      b.HasSources counterConfig counter
        (head ++ ks.flatMap fun k => ("expect fun " ++ k.signature ++ "\n" : Text))
        (start ++ ks.flatMap fun k =>
          ("actual " ++ k.unmarked counterConfig counter (.target .jvm) : Text)) ∧
      b'.HasSources { counterConfig with multiplatform := false } counter head
        (start ++ ks.flatMap fun k => k.unmarked counterConfig counter (.target .jvm)) := by
  obtain ⟨b, h⟩ := exists_counter_bundle
  obtain ⟨b', ks, head, start, h', hks, sources, sources'⟩ :=
    single_of_multiplatform rfl (by decide) h false
  exact ⟨b, b', ks, head, start, h, h', hks.length_eq.symm, sources, sources'⟩

end Bundle

end Bindery
