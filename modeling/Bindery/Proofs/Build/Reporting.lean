import Bindery.Proofs.Build.Schedules

/-!
# What a build reports

Components that are emitted side by side may get in each other's way, but not in their reports. The
paths that a task has written and those that it is about to write are together the paths of its
component's outputs, in order, at every stage (`Task.Listed`). So when all tasks end well, every
component was generated, and the paths that are reported are those of the plan
(`Scheduled.reported`), whatever the components are called and whatever the formatter does.
-/

namespace Bindery

namespace Build

open Writer

/-- The paths that an emission has written and is about to write. Nothing is known of them before it
begins, or after it was stopped. -/
def Stage.paths? (writer : Writer) : Stage → Option (List Path)
  | .waiting | .stopped _ _ => none
  | .writing left files => some (files.map Written.path ++ left.map writer.pathOf)
  | .formatting path left files =>
    some (files.map Written.path ++ path :: left.map writer.pathOf)
  | .finished files => some (files.map Written.path)

/-- A task whose paths, as far as they are known, are those of its component's outputs. -/
def Task.Listed (generator : Generator) (writer : Writer) (t : Task) : Prop :=
  ∀ paths, t.stage.paths? writer = some paths →
    outputs generator t.component = .ok (planned generator t.component) ∧
      paths = (planned generator t.component).map writer.pathOf

variable {host : Host} {generator : Generator} {writer : Writer} {components : List Component}
variable {c : Component} {stage stage' : Stage} {t : Task} {w w' : World}

/-- A task stays listed while its paths do not change, or become unknown. -/
theorem Task.Listed.step_of_paths (h : Task.Listed generator writer ⟨c, stage⟩)
    (same : stage'.paths? writer = none ∨ stage'.paths? writer = stage.paths? writer) :
    Task.Listed generator writer ⟨c, stage'⟩ := by
  intro paths known
  rcases same with unknown | same
  · cases unknown.symm.trans known
  · exact h paths (same.symm.trans known)

/-- Every step keeps a task listed. -/
theorem listed_step [Stack] (host : Host) (s : Shared) (h : t.Listed generator writer) :
    (step host generator writer s t).2.component = t.component ∧
      (step host generator writer s t).2.Listed generator writer := by
  obtain ⟨c, stage⟩ := t
  cases stage with
  | waiting =>
    simp only [step]
    cases generated : outputs generator c with
    | ok os =>
      refine ⟨rfl, ?_⟩
      rintro paths ⟨⟩
      show outputs generator c = .ok (planned generator c) ∧ _ = (planned generator c).map _
      rw [planned_of_ok generated]
      exact ⟨generated, rfl⟩
    | error e => exact ⟨rfl, h.step_of_paths (.inl rfl)⟩
  | writing left files =>
    cases left with
    | nil =>
      refine ⟨rfl, h.step_of_paths (.inr ?_)⟩
      exact congrArg some (List.append_nil _).symm
    | cons o left =>
      cases saved : writer.save host o s.world with
      | mk outcome w =>
        cases outcome with
        | error e =>
          rw [step_save_error saved]
          exact ⟨rfl, h.step_of_paths (.inl rfl)⟩
        | ok u =>
          rw [step_save_ok saved]
          refine ⟨rfl, h.step_of_paths (.inr ?_)⟩
          split
          · rfl
          · simp [Stage.paths?]
  | formatting path left files =>
    cases formatted : writer.format host path s.world with
    | mk outcome w =>
      cases outcome with
      | error e =>
        simp only [step, formatted, true_and]
        exact h.step_of_paths (.inl rfl)
      | ok r =>
        rw [step_format_ok formatted]
        refine ⟨rfl, h.step_of_paths (.inr ?_)⟩
        simp [Stage.paths?]
  | finished files => exact ⟨rfl, h⟩
  | stopped e files => exact ⟨rfl, h⟩

/-- The tasks of some components, each listed. -/
structure Itemized (generator : Generator) (writer : Writer) (components : List Component)
    (p : Pool Shared Task) : Prop where
  order : p.tasks.map Task.component = components
  listed : ∀ t ∈ p.tasks, t.Listed generator writer

/-- Every schedule keeps the results itemized, since each step of a task does. -/
theorem itemized_turns [Stack] (schedule : List Nat) {p : Pool Shared Task}
    (h : Itemized generator writer components p) :
    Itemized generator writer components (p.turns (step host generator writer) schedule) := by
  apply Pool.turns_preserves (P := Itemized generator writer components)
  · rintro s front t back ⟨order, listed⟩
    obtain ⟨component, stays⟩ := listed_step host s (listed t (by simp))
    constructor
    · rw [← order]
      simp [component]
    · intro t' ht'
      simp only [List.mem_append, List.mem_cons] at ht' listed
      rcases ht' with ht' | rfl | ht'
      · exact listed t' (.inl ht')
      · exact stays
      · exact listed t' (.inr (.inr ht'))
  · exact h

/-- At the start there is nothing to itemize. -/
theorem itemized_start (components : List Component) (w : World) :
    Itemized generator writer components (start components w) where
  order := component_waiting components
  listed := by
    intro t ht
    obtain ⟨c, -, rfl⟩ := List.mem_map.1 ht
    rintro paths ⟨⟩

/-- When all tasks end well, each of them is finished. -/
theorem Ends.finished {tasks : List Task} {files : List (List Written)}
    (h : Ends tasks (.ok files)) : ∀ t ∈ tasks, ∃ files, t.stage = .finished files := by
  induction tasks generalizing files with
  | nil => exact fun t ht => absurd ht List.not_mem_nil
  | cons t tasks ih =>
    cases h with
    | ok rest => exact List.forall_mem_cons.2 ⟨⟨_, rfl⟩, ih rest⟩

/-- When emissions all end well, every component was generated, and the report has the paths of all
outputs, component by component. -/
theorem Scheduled.reported [Stack] {report : Report}
    (h : Scheduled host generator writer components w (.ok report) w') :
    (∀ c ∈ components, outputs generator c = .ok (planned generator c)) ∧
      report.written = (plan generator components).map writer.pathOf := by
  cases h with
  | @ok p files leads ends =>
    obtain ⟨schedule, rfl⟩ := leads
    have itemized : Itemized generator writer components
        ((start components w).turns (step host generator writer) schedule) :=
      itemized_turns schedule (itemized_start components w)
    obtain ⟨order, listed⟩ := itemized
    generalize (start components w).turns _ schedule = p at ends order listed
    have all : ∀ t ∈ p.tasks, outputs generator t.component = .ok (planned generator t.component) ∧
        t.stage.files.map Written.path = (planned generator t.component).map writer.pathOf := by
      intro t ht
      obtain ⟨files, finished⟩ := ends.finished t ht
      refine listed t ht _ ?_
      rw [finished]
      rfl
    constructor
    · intro c hc
      rw [← order] at hc
      obtain ⟨t, ht, rfl⟩ := List.mem_map.1 hc
      exact (all t ht).1
    · show files.flatten.map Written.path = _
      obtain rfl := ends.files_eq
      rw [plan, ← order, List.flatMap_map, List.map_flatMap, ← List.flatMap_def, List.map_flatMap]
      exact List.flatMap_congr fun t ht => (all t ht).2

end Build

end Bindery
