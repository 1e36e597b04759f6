import Mathlib.Data.List.Forall2
import Bindery.Linking
import Bindery.Proofs.Assoc

/-!
# The exact effect of linking

Linking takes the packages of all crates down once, after every name is filled in. A name that
is filled in changes no effective package (`Component.package_withNames`), so what is taken down
for a crate is the package of its last component (`Linking.get?_packages`). A component then gains
one entry for every crate that is neither its own nor known to it
(`Component.externalPackages_withPackages`), and nothing else about it changes
(`Linking.effect_of_link`).
-/

namespace Bindery

namespace Component

/-- What linking with the packages of a build makes of a component. -/
structure Linked (cdylib : Option Text) (packages : List (Text × Text)) (c c' : Component) :
    Prop where
  interface : c'.interface = c.interface
  packageName : c'.config.packageName =
    some (c.config.packageName.getD (defaultPackage c.interface.component))
  cdylibName : c'.config.cdylibName = some (c.config.cdylibName.getD
    ((Text.filled? cdylib).getD (defaultCdylib c.interface.component)))
  package : c'.package = c.package
  externalPackages : ∃ added, c'.config.externalPackages = c.config.externalPackages ++ added ∧
    (added.map Prod.fst).Nodup ∧
    ∀ crate package, (crate, package) ∈ added ↔
      Assoc.get? crate packages = some package ∧ crate ≠ c.interface.crateName ∧
        Assoc.get? crate c.config.externalPackages = none
  others : { c'.config with
      packageName := c.config.packageName
      cdylibName := c.config.cdylibName
      externalPackages := c.config.externalPackages } = c.config

variable {cdylib : Option Text} {packages : List (Text × Text)}

/-- Filling a package in does not change which package is in effect: a name that is there stays,
even when it is empty, and one that is not there becomes the one that stood for it. -/
theorem package_withNames (cdylib : Option Text) (c : Component) :
    (c.withNames cdylib).package = c.package := by
  unfold withNames package Config.packageFor
  cases h : c.config.packageName with
  | some name => rfl
  | none =>
    show (Text.filled? (some (defaultPackage c.interface.component))).getD _ = defaultPackage _
    unfold Text.filled?
    rw [Option.filter_some]
    split <;> rfl

/-- Packages of siblings do not change the own package. -/
theorem package_withPackages (c : Component) : (c.withPackages packages).package = c.package := rfl

/-- The entries that a component gains: those of other crates that it does not have. -/
theorem externalPackages_withPackages (distinct : (packages.map Prod.fst).Nodup) (c : Component) :
    (c.withPackages packages).config.externalPackages =
      c.config.externalPackages ++ packages.filter fun e =>
        e.1 != c.interface.crateName && !Assoc.has e.1 c.config.externalPackages := by
  have others : Assoc.Distinct (packages.filter fun e => e.1 != c.interface.crateName) :=
    (Assoc.distinct_iff_nodup.2 distinct).filter _
  have united := Assoc.union_eq_append_filter c.config.externalPackages others
  rw [List.filter_filter] at united
  simp only [Bool.and_comm] at united
  exact united

/-- A component that got names and packages is linked. -/
theorem linked_withNames_withPackages (distinct : (packages.map Prod.fst).Nodup)
    (c : Component) : c.Linked cdylib packages ((c.withNames cdylib).withPackages packages) where
  interface := rfl
  packageName := by
    show some _ = some _
    cases h : c.config.packageName with
    | some name => rfl
    | none => simp [Config.packageFor, h, Text.filled?]
  cdylibName := by
    show some _ = some _
    cases h : c.config.cdylibName with
    | some name => rfl
    | none => simp [Config.cdylibFor, h, Text.filled?]
  package := package_withNames cdylib c
  externalPackages := by
    refine ⟨_, externalPackages_withPackages distinct (c.withNames cdylib), ?_, ?_⟩
    · exact distinct.sublist (List.filter_sublist.map Prod.fst)
    · intro crate package
      rw [List.mem_filter, Assoc.mem_iff_get? distinct]
      simp [withNames, Assoc.has]
  others := rfl

end Component

namespace Linking

/-- The component that speaks for a crate: of several, the last. -/
def lastOf (crate : Text) (components : List Component) : Option Component :=
  components.reverse.find? fun c => c.interface.crateName == crate

/-- No crate has two packages. -/
theorem nodup_packages (components : List Component) :
    ((packages components).map Prod.fst).Nodup :=
  Assoc.nodup_ofPairs _

/-- The package of a crate is that of the last component with this crate. -/
theorem get?_packages (components : List Component) (crate : Text) :
    Assoc.get? crate (packages components) =
      (lastOf crate components).map Component.package := by
  unfold packages lastOf
  rw [Assoc.get?_ofPairs, ← List.map_reverse, List.find?_map, Option.map_map]
  rfl

/-- Names of libraries change no package. -/
theorem packages_withNames (cdylib : Option Text) (components : List Component) :
    packages (components.map (Component.withNames cdylib)) = packages components := by
  unfold packages
  rw [List.map_map]
  have same :
      (fun c : Component => (c.interface.crateName, c.package)) ∘ Component.withNames cdylib =
      fun c => (c.interface.crateName, c.package) := by
    funext c
    show (c.interface.crateName, (c.withNames cdylib).package) = _
    rw [Component.package_withNames]
  rw [same]

/-- The packages taken down are those of the crates of the build, for each crate the effective
package of its last component, and every component is linked with them. -/
theorem effect_of_link (cdylib : Option Text) (components : List Component) :
    ((link cdylib components).1.map Prod.fst).Nodup ∧
    (∀ crate, Assoc.get? crate (link cdylib components).1 =
      (lastOf crate components).map Component.package) ∧
    List.Forall₂ (Component.Linked cdylib (link cdylib components).1) components
      (link cdylib components).2 := by
  have taken : (link cdylib components).1 = packages components :=
    packages_withNames cdylib components
  refine ⟨?_, ?_, ?_⟩
  · rw [taken]
    exact nodup_packages components
  · intro crate
    rw [taken]
    exact get?_packages components crate
  · show List.Forall₂ _ components ((components.map _).map _)
    rw [List.map_map, List.forall₂_map_right_iff, List.forall₂_same]
    intro c _
    exact Component.linked_withNames_withPackages (nodup_packages _) c

end Linking

end Bindery
