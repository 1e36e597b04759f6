import Bindery.Kotlin.Source

/-!
# Imports of other components in generated sources

Of the packages of other components, generated sources show the imports alone, in order of the
crates. So configurations that differ in the order of these packages only give the same bundle
(`Bundle.generate_of_sorted`).
-/

namespace Bindery

section Sorted

variable {c : Config} {packages : List (Text × Text)} {i : Interface}

namespace Kotlin

/-- Imports of packages are sorted, so another order of them does not matter. -/
theorem packageImports_of_sorted
    (h : Sequence.sortedByKey packages = Sequence.sortedByKey c.externalPackages) :
    packageImports { c with externalPackages := packages } = packageImports c := by
  unfold packageImports
  rw [h]

/-- Nor does it for what is common. -/
theorem commonBody_of_sorted [Stack]
    (h : Sequence.sortedByKey packages = Sequence.sortedByKey c.externalPackages) :
    commonBody { c with externalPackages := packages } i = commonBody c i := by
  unfold commonBody
  rw [packageImports_of_sorted h]
  rfl

/-- Nor for any platform. -/
theorem platformBody_of_sorted [Stack]
    (h : Sequence.sortedByKey packages = Sequence.sortedByKey c.externalPackages) (p : Platform) :
    platformBody { c with externalPackages := packages } i p = platformBody c i p := by
  unfold platformBody
  rw [packageImports_of_sorted h]
  rfl

end Kotlin

/-- A bundle does not depend on the order of the packages of other components. -/
theorem Bundle.generate_of_sorted [Stack]
    (h : Sequence.sortedByKey packages = Sequence.sortedByKey c.externalPackages)
    (emitStub : Bool) : generate emitStub { c with externalPackages := packages } i =
      generate emitStub c i := by
  unfold generate
  simp only [Kotlin.common, Kotlin.platform, Kotlin.commonBody_of_sorted h,
    Kotlin.platformBody_of_sorted h]

end Sorted

end Bindery
