import Bindery.Proofs.Linking.Effect
import Bindery.Proofs.Sorting

/-!
# Linking and the order of components

When every crate has one component, the packages of a build are the same in whatever order its
components are, and so is what every component knows of its siblings: the same entries, if in
another order (`Linking.perm_link`). Sorted, they are the very same (`Component.Reordered.sorted`).
-/

namespace Bindery

namespace Component

/-- Components that differ in the order of their external packages alone. -/
structure Reordered (c c' : Component) : Prop where
  interface : c'.interface = c.interface
  config : c'.config = { c.config with externalPackages := c'.config.externalPackages }
  perm : c.config.externalPackages.Perm c'.config.externalPackages
  found : ∀ crate, Assoc.get? crate c.config.externalPackages =
    Assoc.get? crate c'.config.externalPackages
  sorted : Sequence.sortedByKey c.config.externalPackages =
    Sequence.sortedByKey c'.config.externalPackages

/-- A component that got the same packages in another order is the same but for this order. -/
theorem reordered_withPackages {packages packages' : List (Text × Text)}
    (perm : packages.Perm packages') (distinct : (packages.map Prod.fst).Nodup) (c : Component) :
    Reordered (c.withPackages packages) (c.withPackages packages') := by
  have distinct' : (packages'.map Prod.fst).Nodup := (perm.map _).nodup_iff.1 distinct
  have added := externalPackages_withPackages distinct c
  have added' := externalPackages_withPackages distinct' c
  have permAdded := perm.filter fun e =>
    e.1 != c.interface.crateName && !Assoc.has e.1 c.config.externalPackages
  have distinctAdded := distinct.sublist
    ((List.filter_sublist (p := fun e : Text × Text =>
      e.1 != c.interface.crateName && !Assoc.has e.1 c.config.externalPackages)).map Prod.fst)
  constructor
  · rfl
  · rfl
  · rw [added, added']
    exact permAdded.append_left _
  · intro crate
    rw [added, added', Assoc.get?_append, Assoc.get?_append,
      Assoc.get?_perm permAdded distinctAdded]
  · rw [added, added']
    exact Sequence.sortedByKey_append_perm permAdded distinctAdded _

end Component

namespace Linking

variable {components components' : List Component}

/-- Reordered components have the same packages, if in another order. -/
theorem perm_packages (perm : components.Perm components')
    (crates : (components.map fun c => c.interface.crateName).Nodup) :
    (packages components).Perm (packages components') := by
  have crates' : (components'.map fun c => c.interface.crateName).Nodup :=
    (perm.map _).nodup_iff.1 crates
  unfold packages
  rw [Assoc.ofPairs_of_nodup, Assoc.ofPairs_of_nodup]
  · exact perm.map _
  · rw [List.map_map]
    exact crates'
  · rw [List.map_map]
    exact crates

/-- Components in another order are linked in that order, and each is the same but for the order in
which it holds the packages of its siblings. -/
theorem perm_link (perm : components.Perm components')
    (crates : (components.map fun c => c.interface.crateName).Nodup) (cdylib : Option Text) :
    ∃ reordered, (link cdylib components).2.Perm reordered ∧
      List.Forall₂ Component.Reordered reordered (link cdylib components').2 := by
  have named : (components.map (Component.withNames cdylib)).Perm
      (components'.map (Component.withNames cdylib)) := perm.map _
  have cratesNamed : ((components.map (Component.withNames cdylib)).map
      fun c => c.interface.crateName).Nodup := by
    rw [List.map_map]
    exact crates
  refine ⟨_, named.map (Component.withPackages (packages (components.map
    (Component.withNames cdylib)))), ?_⟩
  show List.Forall₂ _ (List.map _ _) (List.map _ _)
  rw [List.forall₂_map_left_iff, List.forall₂_map_right_iff, List.forall₂_same]
  intro c _
  exact Component.reordered_withPackages (perm_packages named cratesNamed) (nodup_packages _) c

end Linking

end Bindery
