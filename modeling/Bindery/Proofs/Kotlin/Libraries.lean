import Bindery.Config.Resolve
import Bindery.Kotlin.Source
import Bindery.Proofs.Sequence

/-!
# Libraries in generated sources

Of the libraries in a configuration, generated sources show only those that each platform loads.
So configurations with other lists of them, of which every platform loads the same, give the same
bundle (`Config.LoadsAlike.generate_eq`).
-/

namespace Bindery

/-- The configuration with other libraries. -/
def Config.withLibraries (c : Config) (jvm android shared : List Text) : Config :=
  { c with jvmLibraries := jvm, androidLibraries := android, sharedLibraries := shared }

section Libraries

variable {c : Config} {jvm android shared : List Text} {i : Interface}

namespace Kotlin

/-- Libraries that a configuration has already can be put behind its own. -/
theorem librariesFor_append (hjvm : jvm ⊆ c.jvmLibraries) (handroid : android ⊆ c.androidLibraries)
    (hshared : shared ⊆ c.sharedLibraries) (platform : Text) :
    librariesFor (c.withLibraries (c.jvmLibraries ++ jvm) (c.androidLibraries ++ android)
      (c.sharedLibraries ++ shared)) platform = librariesFor c platform := by
  simp only [librariesFor, Config.withLibraries]
  split
  · exact Sequence.distinct_append_append hjvm hshared
  · split
    · exact Sequence.distinct_append_append handroid hshared
    · exact Sequence.distinct_append_of_subset hshared

variable {p : Platform} (same : p.isJava = true →
  librariesFor (c.withLibraries jvm android shared) p.name = librariesFor c p.name)

include same

/-- Where a platform loads the same libraries, its imports stay. -/
theorem platformImports_withLibraries :
    platformImports (c.withLibraries jvm android shared) i p = platformImports c i p := by
  cases p with
  | stub => rfl
  | target t =>
    cases t with
    | native => rfl
    | jvm | android =>
      unfold platformImports
      simp only [same rfl]

/-- And so does the interface of its library. -/
theorem libraryInterface_withLibraries [Stack] (java : p.isJava = true) :
    libraryInterface (c.withLibraries jvm android shared) i p = libraryInterface c i p := by
  have lines : libraryLines (c.withLibraries jvm android shared) p = libraryLines c p := by
    unfold libraryLines
    rw [same java]
  unfold libraryInterface
  rw [lines]
  rfl

/-- What a platform shows of the libraries is those that it loads. -/
theorem platform_withLibraries [Stack] :
    platform (c.withLibraries jvm android shared) i p = platform c i p := by
  have body : platformBody (c.withLibraries jvm android shared) i p = platformBody c i p := by
    unfold platformBody
    rw [platformImports_withLibraries same]
    cases hp : p.isJava with
    | true =>
      rw [libraryInterface_withLibraries same hp]
      rfl
    | false =>
      simp only [Bool.false_eq_true, if_false]
      rfl
  rw [platform, body, platform]

end Kotlin

end Libraries

namespace Config

/-- Configurations that differ in their lists of libraries only, and load the same ones on every
platform. -/
structure LoadsAlike (c c' : Config) : Prop where
  settings : ∃ jvm android shared, c' = c.withLibraries jvm android shared
  libraries : ∀ platform, Kotlin.librariesFor c' platform = Kotlin.librariesFor c platform

namespace LoadsAlike

variable {c c' c'' : Config}

theorem refl (c : Config) : c.LoadsAlike c :=
  ⟨⟨c.jvmLibraries, c.androidLibraries, c.sharedLibraries, rfl⟩, fun _ => rfl⟩

theorem trans (h : c.LoadsAlike c') (h' : c'.LoadsAlike c'') : c.LoadsAlike c'' := by
  obtain ⟨jvm, android, shared, rfl⟩ := h.settings
  obtain ⟨jvm', android', shared', rfl⟩ := h'.settings
  exact ⟨⟨jvm', android', shared', rfl⟩, fun p => (h'.libraries p).trans (h.libraries p)⟩

/-- The configurations of the multiplatform builds are alike too. -/
theorem forced (h : c.LoadsAlike c') : c.forced.LoadsAlike c'.forced := by
  obtain ⟨jvm, android, shared, rfl⟩ := h.settings
  exact ⟨⟨jvm, android, shared, rfl⟩, h.libraries⟩

/-- They give the same bundle. -/
theorem generate_eq [Stack] (h : c.LoadsAlike c') (emitStub : Bool) (i : Interface) :
    Bundle.generate emitStub c' i = Bundle.generate emitStub c i := by
  obtain ⟨jvm, android, shared, rfl⟩ := h.settings
  have common : Kotlin.common (c.withLibraries jvm android shared) i = Kotlin.common c i := rfl
  have platform (p : Kotlin.Platform) :
      Kotlin.platform (c.withLibraries jvm android shared) i p = Kotlin.platform c i p :=
    Kotlin.platform_withLibraries fun _ => h.libraries p.name
  unfold Bundle.generate
  simp only [common, platform]
  rfl

end LoadsAlike

end Config

end Bindery
