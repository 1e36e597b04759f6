import Mathlib.Data.List.Nodup
import Bindery.Kotlin.Source
import Bindery.Merge.Basic
import Bindery.Proofs.Linking.Effect

/-!
# What linked components go by

A linked component finds under every crate what it had there, and else the package of that crate's
last component (`Component.Linked.get?_externalPackages`). So it has an entry for every other crate
of its build; under its own crate it keeps what it had, which is an entry when its document, or one
that was merged into it, names its crate (`Linking.siblings_of_link`). It then imports its own
package (`Linking.imports_own_package`).

The library that a linked component loads is the one that was in effect for it in its build, with
one exception: a library name that is there and empty is taken for a name when components are
linked, and for none when the library is loaded (`Linking.library_of_link`).
-/

namespace Bindery

@[simp] theorem Text.filled?_nil : Text.filled? (some []) = none := rfl

theorem Text.filled?_some {s : Text} (full : s ≠ []) : Text.filled? (some s) = some s :=
  Option.filter_eq_some_iff.2 ⟨rfl, by simpa using full⟩

/-- A text that counts as filled is not empty. -/
theorem Text.ne_nil_of_filled? {o : Option Text} {s : Text} (h : Text.filled? o = some s) :
    s ≠ [] := by
  simpa using (Option.filter_eq_some_iff.1 h).2

theorem defaultCdylib_ne_nil (component : Text) : defaultCdylib component ≠ [] := nofun

/-- The package of a component always has a name. -/
theorem Config.packageFor_ne_nil (c : Config) (component : Text) : c.packageFor component ≠ [] := by
  unfold packageFor
  cases own : Text.filled? c.packageName with
  | none => exact nofun
  | some name => exact Text.ne_nil_of_filled? own

namespace Component

/-- The library that the generated code of a component loads: no name of a build is known there. -/
def library (c : Component) : Text := c.config.cdylibFor c.interface.component none

/-- The library in effect for a component in a build that names one, or names none. -/
def libraryIn (cdylib : Option Text) (c : Component) : Text :=
  c.config.cdylibFor c.interface.component cdylib

variable {cdylib : Option Text} {packages : List (Text × Text)} {components : List Component}
  {c c' : Component}

/-- What a linked component knows of a crate. -/
theorem Linked.get?_externalPackages (linked : c.Linked cdylib (Linking.packages components) c')
    (crate : Text) :
    Assoc.get? crate c'.config.externalPackages =
      (Assoc.get? crate c.config.externalPackages).or
        (if crate = c.interface.crateName then none
          else (Linking.lastOf crate components).map Component.package) := by
  obtain ⟨added, eq, distinct, mem⟩ := linked.externalPackages
  rw [eq, Assoc.get?_append]
  cases had : Assoc.get? crate c.config.externalPackages with
  | some name => rfl
  | none =>
    rw [Option.none_or, Option.none_or]
    apply Option.ext
    intro name
    rw [← Assoc.mem_iff_get? distinct, mem, Linking.get?_packages]
    by_cases own : crate = c.interface.crateName
    · simp [own]
    · simp [own, had]

/-- Under its own crate a component has what it had before it was linked. -/
theorem Linked.mem_own (linked : c.Linked cdylib packages c') (name : Text) :
    (c.interface.crateName, name) ∈ c'.config.externalPackages ↔
      (c.interface.crateName, name) ∈ c.config.externalPackages := by
  obtain ⟨added, eq, -, mem⟩ := linked.externalPackages
  rw [eq, List.mem_append, or_iff_left]
  exact fun there => ((mem _ _).1 there).2.1 rfl

/-- The library that a component loads once it is linked. -/
theorem Linked.library_eq (linked : c.Linked cdylib packages c') :
    c'.library =
      if c.config.cdylibName = some [] then defaultCdylib c.interface.component
      else c.libraryIn cdylib := by
  unfold library libraryIn Config.cdylibFor
  rw [linked.interface, linked.cdylibName]
  cases own : c.config.cdylibName with
  | none =>
    -- What was filled in is the name of the build or the one made up, and neither is empty.
    have full : (Text.filled? cdylib).getD (defaultCdylib c.interface.component) ≠ [] := by
      cases build : Text.filled? cdylib with
      | none => exact defaultCdylib_ne_nil _
      | some given => exact Text.ne_nil_of_filled? build
    rw [Option.getD_none, Text.filled?_some full]
    rfl
  | some given =>
    rw [Option.getD_some]
    by_cases empty : given = []
    · subst empty
      rfl
    · rw [Text.filled?_some empty, if_neg (by simpa using empty)]
      rfl

end Component

namespace Linking

variable {components : List Component}

/-- Every component is linked by itself with the packages of the build. -/
theorem linked_eq_map (cdylib : Option Text) (components : List Component) :
    (link cdylib components).2 =
      components.map fun c => (c.withNames cdylib).withPackages (packages components) := by
  show (components.map _).map _ = _
  rw [List.map_map, packages_withNames]
  rfl

/-- Every component is linked to the packages of all. -/
theorem forall₂_linked (cdylib : Option Text) (components : List Component) :
    List.Forall₂ (Component.Linked cdylib (packages components)) components
      (link cdylib components).2 := by
  rw [linked_eq_map, List.forall₂_map_right_iff, List.forall₂_same]
  intro c _
  exact Component.linked_withNames_withPackages (nodup_packages _) c

/-- A crate that a component has is some component's last. -/
theorem lastOf_isSome {c : Component} (mem : c ∈ components) :
    (lastOf c.interface.crateName components).isSome := by
  rw [lastOf, List.find?_isSome]
  exact ⟨c, List.mem_reverse.2 mem, beq_self_eq_true _⟩

/-- Where no two components have one crate, each speaks for its own. -/
theorem lastOf_of_nodup {c : Component} (mem : c ∈ components)
    (crates : (components.map fun c => c.interface.crateName).Nodup) :
    lastOf c.interface.crateName components = some c := by
  obtain ⟨last, found⟩ := Option.isSome_iff_exists.1 (lastOf_isSome mem)
  have there : last ∈ components := List.mem_reverse.1 (List.mem_of_find?_eq_some found)
  have same : last.interface.crateName = c.interface.crateName := by
    simpa using List.find?_some found
  rw [found, List.inj_on_of_nodup_map crates there mem same]

/-- A linked component has an entry for every crate of its build that is not its own, and for its
own crate those it had already. -/
theorem siblings_of_link (cdylib : Option Text) (components : List Component) :
    List.Forall₂ (fun c c' =>
        (∀ d ∈ components, d.interface.crateName ≠ c.interface.crateName →
          Assoc.has d.interface.crateName c'.config.externalPackages = true) ∧
        ∀ name, (c.interface.crateName, name) ∈ c'.config.externalPackages ↔
          (c.interface.crateName, name) ∈ c.config.externalPackages)
      components (link cdylib components).2 := by
  refine (forall₂_linked cdylib components).imp fun c c' linked => ⟨?_, linked.mem_own⟩
  intro d mem other
  rw [Assoc.has, linked.get?_externalPackages, if_neg other, Option.isSome_or, Option.isSome_map,
    lastOf_isSome mem, Bool.or_true]

/-- The merged document of a component that uses the crate `alpha`. -/
def beta : Document := [
  (.text "crate_name", .text "beta"),
  (.text "bindings", .table none [
    (.text "kotlin", .table none [
      (.text "external_packages", .table none [(.text "alpha", .text "org.alpha")])])])]

/-- A component's own crate may be told by a sibling whose settings are merged into its document.
The entry stays when components are linked, and the component's sources import the package that they
are in. -/
theorem imports_own_package :
    ∃ document config linked source,
      Merge.merge none
          { crateName := some (.text "alpha"), packageName := some (.text "org.alpha") }
          (some (Merge.harvest (m := Except Failure) (fun _ => .ok beta) (fun _ => .ok ()) [()])) =
        .ok document ∧
      Config.resolve document false none = .ok config ∧
      (link none [⟨⟨"alpha", "alpha", [], [], []⟩, config⟩]).2 = [linked] ∧
      (linked.interface.crateName, linked.package) ∈ linked.config.externalPackages ∧
      Kotlin.common linked.config linked.interface = .ok source ∧
      ("package org.alpha" : Text) ∈ Text.pieces '\n' source ∧
      ("import org.alpha.*" : Text) ∈ Text.pieces '\n' source := by
  refine ⟨_, _, _, _, rfl, rfl, rfl, ?_, rfl, ?_, ?_⟩
  · decide +kernel
  · decide +kernel
  · decide +kernel

/-- The library that a linked component loads is the one in effect for it in its build, unless its
own name for it is empty. Then it is the one made of its namespace, and another one than in its
build when the build names another. -/
theorem library_of_link (cdylib : Option Text) (components : List Component) :
    List.Forall₂ (fun c c' =>
        c'.library =
          (if c.config.cdylibName = some [] then defaultCdylib c.interface.component
            else c.libraryIn cdylib) ∧
        (c'.library = c.libraryIn cdylib ↔
          ¬(c.config.cdylibName = some [] ∧ ∃ name, Text.filled? cdylib = some name ∧
            name ≠ defaultCdylib c.interface.component)))
      components (link cdylib components).2 := by
  refine (forall₂_linked cdylib components).imp fun c c' linked => ⟨linked.library_eq, ?_⟩
  rw [linked.library_eq]
  by_cases empty : c.config.cdylibName = some []
  · rw [if_pos empty]
    unfold Component.libraryIn Config.cdylibFor
    rw [empty]
    cases build : Text.filled? cdylib with
    | none => simp
    | some name => simp [eq_comm]
  · simp [empty]

/-- A document may hold an empty library name. In a build that names a library its component is
linked with that empty name, and loads another library than the build's. -/
theorem library_of_empty_name :
    ∃ config linked,
      Config.resolve [(.text "cdylib_name", .text "")] false none = .ok config ∧
      (link (some "mega") [⟨⟨"alpha", "alpha", [], [], []⟩, config⟩]).2 = [linked] ∧
      Component.libraryIn (some "mega") ⟨⟨"alpha", "alpha", [], [], []⟩, config⟩ = "mega" ∧
      linked.library = "uniffi_alpha" := by
  refine ⟨_, _, rfl, rfl, ?_, ?_⟩
  · decide +kernel
  · decide +kernel

end Linking

end Bindery
