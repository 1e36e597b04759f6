import Bindery.Proofs.Linking.Names

/-!
# Builds that grow

Components that are linked may be linked again, together with others. What they were linked with
before cannot be told from what their documents say, but it is what linking would give them anyway,
as long as none of the others has a crate of theirs: the packages of the crates that were there
stand in front of the new ones (`Linking.packages_append`), and uniting a component with its
packages twice comes to uniting it with them once (`Component.withPackages_withPackages`). So a
build that grew is linked as if all of it had been there from the start (`Linking.link_grown`).
-/

namespace Bindery

namespace Assoc

variable {α : Type} {k : Text}

/-- The keys of what is made of pairs are those of the pairs. -/
theorem mem_keys_ofPairs {pairs : List (Text × α)} :
    k ∈ (ofPairs pairs).map Prod.fst ↔ k ∈ pairs.map Prod.fst := by
  unfold ofPairs
  suffices h : ∀ entries : List (Text × α),
      k ∈ (pairs.foldl (fun entries e => put e.1 e.2 entries) entries).map Prod.fst ↔
        k ∈ entries.map Prod.fst ∨ k ∈ pairs.map Prod.fst by
    simpa using h []
  induction pairs with
  | nil => simp
  | cons e pairs ih =>
    intro entries
    rw [List.foldl_cons, ih, keys_put, List.map_cons, List.mem_cons]
    split
    · rename_i there
      constructor
      · rintro (h | h)
        · exact .inl h
        · exact .inr (.inr h)
      · rintro (h | rfl | h)
        · exact .inl h
        · exact .inl there
        · exact .inr h
    · rw [List.mem_append, List.mem_singleton, or_assoc]

/-- Putting a value under a key that is not in front changes only the back. -/
theorem put_append {front : List (Text × α)} (fresh : k ∉ front.map Prod.fst) (v : α)
    (back : List (Text × α)) : put k v (front ++ back) = front ++ put k v back := by
  induction front with
  | nil => rfl
  | cons e front ih =>
    obtain ⟨k', v'⟩ := e
    rw [List.map_cons, List.mem_cons, not_or] at fresh
    have apart : ¬Key.same k' k = true := by simpa [Key.same] using Ne.symm fresh.1
    rw [List.cons_append, put, if_neg apart, ih fresh.2, List.cons_append]

/-- Pairs whose keys are none of those in front of them make up a table of their own, behind that of
the pairs in front. -/
theorem ofPairs_append {pairs more : List (Text × α)}
    (fresh : ∀ e ∈ more, e.1 ∉ pairs.map Prod.fst) :
    ofPairs (pairs ++ more) = ofPairs pairs ++ ofPairs more := by
  suffices h : ∀ back, more.foldl (fun entries e => put e.1 e.2 entries) (ofPairs pairs ++ back) =
      ofPairs pairs ++ more.foldl (fun entries e => put e.1 e.2 entries) back by
    have whole := h []
    rw [List.append_nil] at whole
    exact List.foldl_append.trans whole
  induction more with
  | nil => exact fun back => rfl
  | cons e more ih =>
    intro back
    have here : e.1 ∉ (ofPairs pairs).map Prod.fst :=
      fun there => fresh e List.mem_cons_self (mem_keys_ofPairs.1 there)
    rw [List.foldl_cons, put_append here, ih fun e' he' => fresh e' (List.mem_cons_of_mem _ he')]
    rfl

end Assoc

namespace Component

/-- A component that has its names gets no others. -/
theorem withNames_linked (cdylib : Option Text) (packages : List (Text × Text)) (c : Component) :
    ((c.withNames cdylib).withPackages packages).withNames cdylib =
      (c.withNames cdylib).withPackages packages := rfl

/-- Packages that a component has got already may stand in front of those that it gets. -/
theorem withPackages_withPackages (packages more : List (Text × Text)) (c : Component) :
    (c.withPackages packages).withPackages (packages ++ more) =
      c.withPackages (packages ++ more) := by
  unfold withPackages
  dsimp only
  rw [List.filter_append, Assoc.union_append, Assoc.union_append, Assoc.union_union_self]
  · exact fun e _ => Text.same_self e.1
  · exact fun e _ e' _ same => beq_iff_eq.1 same

end Component

namespace Linking

variable {components more : List Component}

/-- Components with other crates add their packages behind those that are there. -/
theorem packages_append
    (apart : ∀ c ∈ components, ∀ d ∈ more, c.interface.crateName ≠ d.interface.crateName) :
    packages (components ++ more) = packages components ++ packages more := by
  unfold packages
  rw [List.map_append]
  apply Assoc.ofPairs_append
  intro e he there
  obtain ⟨d, hd, rfl⟩ := List.mem_map.1 he
  rw [List.map_map, List.mem_map] at there
  obtain ⟨c, hc, same⟩ := there
  exact apart c hc d hd same

/-- Linking gives the packages of all components. -/
theorem packages_of_link (cdylib : Option Text) (components : List Component) :
    (link cdylib components).1 = packages components :=
  packages_withNames cdylib components

/-- Linking changes neither the crate nor the package of any component. -/
theorem packages_linked (cdylib : Option Text) (components more : List Component) :
    packages ((link cdylib components).2 ++ more) = packages (components ++ more) := by
  unfold packages
  rw [List.map_append, List.map_append, linked_eq_map, List.map_map]
  congr 2
  apply List.map_congr_left
  intro c _
  show (c.interface.crateName, ((c.withNames cdylib).withPackages _).package) = _
  rw [Component.package_withPackages, Component.package_withNames]

/-- Linking components, and then linking them together with others, comes to linking all of them
once, when none of the others has a crate of the first ones. So linking twice comes to linking
once. -/
theorem link_grown (cdylib : Option Text)
    (apart : ∀ c ∈ components, ∀ d ∈ more, c.interface.crateName ≠ d.interface.crateName) :
    link cdylib ((link cdylib components).2 ++ more) = link cdylib (components ++ more) ∧
      link cdylib (link cdylib components).2 = link cdylib components := by
  have grown (more : List Component)
      (apart : ∀ c ∈ components, ∀ d ∈ more, c.interface.crateName ≠ d.interface.crateName) :
      link cdylib ((link cdylib components).2 ++ more) = link cdylib (components ++ more) := by
    have linked : (link cdylib ((link cdylib components).2 ++ more)).2 =
        (link cdylib (components ++ more)).2 := by
      rw [linked_eq_map cdylib (_ ++ more), linked_eq_map cdylib (components ++ more),
        packages_linked, packages_append apart, linked_eq_map cdylib components, List.map_append,
        List.map_append, List.map_map]
      congr 1
      apply List.map_congr_left
      intro c _
      rw [Function.comp_apply, Component.withNames_linked, Component.withPackages_withPackages]
    refine Prod.ext ?_ linked
    rw [packages_of_link, packages_of_link, packages_linked]
  refine ⟨grown more apart, ?_⟩
  have again := grown [] fun _ _ _ none => absurd none List.not_mem_nil
  rwa [List.append_nil, List.append_nil] at again

/-- A component whose document tells the package of another crate. -/
def pinning : Component :=
  ⟨⟨"alpha", "alpha", [], [], []⟩, { externalPackages := [("gamma", "org.pinned")] }⟩

/-- A component whose document tells its own package. -/
def presetting : Component := ⟨⟨"beta", "beta", [], [], []⟩, { packageName := some "org.beta" }⟩

/-- A component whose document tells nothing. -/
def newcomer : Component := ⟨⟨"gamma", "gamma", [], [], []⟩, {}⟩

/-- A third component joins two that are linked. The package that one of them told for its crate
stays, and the other one learns the package that it has. -/
theorem link_grown_pinned :
    link none ((link none [pinning, presetting]).2 ++ [newcomer]) =
        link none [pinning, presetting, newcomer] ∧
      link none (link none [pinning, presetting]).2 = link none [pinning, presetting] ∧
      (link none [pinning, presetting, newcomer]).2.map (fun c => c.config.externalPackages) =
        ([[("gamma", "org.pinned"), ("beta", "org.beta")],
          [("alpha", "uniffi.alpha"), ("gamma", "uniffi.gamma")],
          [("alpha", "uniffi.alpha"), ("beta", "org.beta")]] : List (List (Text × Text))) := by
  obtain ⟨grown, again⟩ := @link_grown [pinning, presetting] [newcomer] none (by decide +kernel)
  exact ⟨grown, again, by decide +kernel⟩

end Linking

end Bindery
