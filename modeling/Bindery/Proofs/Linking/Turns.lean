import Bindery.Linking
import Bindery.Proofs.Pool

/-!
# Linking under every schedule

The packages of a build are taken down before any component gets an entry, and a component's entries
depend on nothing else. So the components may get them one at a time and in turns: whatever the
schedule, once no entry is left they are linked as they are one after another
(`components_of_leads`).
-/

namespace Bindery

theorem Component.withPackages_cons (e : Text × Text) (packages : List (Text × Text))
    (c : Component) :
    (c.withPackages [e]).withPackages packages = c.withPackages (e :: packages) := by
  unfold withPackages
  rw [List.filter_cons, List.filter_cons]
  dsimp only
  split
  · rfl
  · rfl

namespace Linking

/-- A component that is linked, and the packages that it has not got yet. -/
structure Task where
  component : Component
  left : List (Text × Text)

namespace Task

def isDone (t : Task) : Bool := t.left.isEmpty

/-- The component with all its packages. -/
def linked (t : Task) : Component := t.component.withPackages t.left

/-- The component gets the next package. Tasks share nothing. -/
def step (u : Unit) (t : Task) : Unit × Task :=
  match t.left with
  | [] => (u, t)
  | e :: left => (u, ⟨t.component.withPackages [e], left⟩)

/-- A step of linking keeps what a component is to be linked to. -/
theorem linked_step (u : Unit) (t : Task) : (step u t).2.linked = t.linked := by
  obtain ⟨c, left⟩ := t
  cases left with
  | nil => rfl
  | cons e left => exact Component.withPackages_cons e left c

/-- A component that is done is linked. -/
theorem linked_of_done {t : Task} (h : t.isDone = true) : t.linked = t.component := by
  obtain ⟨c, left⟩ := t
  obtain rfl : left = [] := List.isEmpty_iff.1 h
  rfl

end Task

/-- The components of a build with their names, and all packages yet to get. -/
def start (cdylib : Option Text) (components : List Component) : Pool Unit Task :=
  let named := components.map (Component.withNames cdylib)
  ⟨(), named.map fun c => ⟨c, packages named⟩⟩

variable {cdylib : Option Text} {components : List Component}

/-- Under every schedule the components are linked alike. -/
theorem components_of_leads {p : Pool Unit Task}
    (leads : Pool.Leads Task.step (start cdylib components) p)
    (done : ∀ t ∈ p.tasks, t.isDone = true) :
    p.tasks.map Task.component = (link cdylib components).2 := by
  -- No turn changes what the components become once they have all their packages.
  have kept : p.tasks.map Task.linked = (link cdylib components).2 := by
    obtain ⟨schedule, rfl⟩ := leads
    apply Pool.turns_preserves (P := fun p => p.tasks.map Task.linked = (link cdylib components).2)
    · intro u front t back h
      show (front ++ (Task.step u t).2 :: back).map Task.linked = _
      rw [← h, List.map_append, List.map_append, List.map_cons, List.map_cons, Task.linked_step]
    · show ((components.map _).map _).map _ = (components.map _).map _
      rw [List.map_map]
      rfl
  rw [← kept]
  apply List.map_congr_left
  intro t ht
  exact (Task.linked_of_done (done t ht)).symm

/-- A component gets all its packages while the others wait. -/
theorem runs_linked (t : Task) : Pool.Runs Task.step () [t] () [⟨t.linked, []⟩] := by
  obtain ⟨c, left⟩ := t
  induction left generalizing c with
  | nil => exact .refl
  | cons e left ih =>
    have first : Pool.Runs Task.step () [⟨c, e :: left⟩] () [⟨c.withPackages [e], left⟩] :=
      Pool.runs_of_step rfl
    have same : (⟨c.withPackages [e], left⟩ : Task).linked = (⟨c, e :: left⟩ : Task).linked :=
      Task.linked_step () ⟨c, e :: left⟩
    rw [← same]
    exact first.trans (ih (c.withPackages [e]))

/-- The components may get their packages one after another. -/
theorem runs_map_linked (tasks : List Task) :
    Pool.Runs Task.step () tasks () (tasks.map fun t => ⟨t.linked, []⟩) := by
  induction tasks with
  | nil => exact .refl
  | cons t tasks ih => exact (runs_linked t).append ih

/-- Some schedule links all components. -/
theorem exists_done (cdylib : Option Text) (components : List Component) :
    ∃ p, Pool.Leads Task.step (start cdylib components) p ∧ ∀ t ∈ p.tasks, t.isDone = true := by
  refine ⟨_, (runs_map_linked (start cdylib components).tasks).leads, ?_⟩
  intro t ht
  obtain ⟨t', -, rfl⟩ := List.mem_map.1 ht
  rfl

end Linking

end Bindery
