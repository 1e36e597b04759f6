import Bindery.Proofs.Build.Tasks

/-!
# Emissions under any schedule

Components may be emitted side by side, in whatever turns their tasks take (`Build.Scheduled`). When
every output could be saved at first and no call of the formatter breaks, no schedule fails but for
too many missing directories (`Scheduled.ok_of_ready`), and one that ends well leaves every output
in its file (`Scheduled.complete`). A component that cannot be generated stops every schedule alike
(`Scheduled.halted_of_failed`).
-/

namespace Bindery

namespace Build

open Writer

/-- How tasks that came to an end are reported: with the files of all of them, or with the failure
of the first one that failed. Those after it need not have begun. -/
inductive Ends : List Task → Except Failure (List (List Written)) → Prop where
  | nil : Ends [] (.ok [])
  | ok {c : Component} {files : List Written} {tasks : List Task} {more : List (List Written)}
      (rest : Ends tasks (.ok more)) : Ends (⟨c, .finished files⟩ :: tasks) (.ok (files :: more))
  | later {c : Component} {files : List Written} {tasks : List Task} {e : Failure}
      (rest : Ends tasks (.error e)) : Ends (⟨c, .finished files⟩ :: tasks) (.error e)
  | first {c : Component} {e : Failure} {files : List Written} {tasks : List Task}
      (rest : ∀ t ∈ tasks, t.stage = .waiting ∨ t.stage.isOver = true) :
      Ends (⟨c, .stopped e files⟩ :: tasks) (.error e)

/-- The tasks of components that have not begun. -/
def waiting (components : List Component) : List Task := components.map fun c => ⟨c, .waiting⟩

/-- Components that are emitted side by side, before the first turn. -/
def start (components : List Component) (w : World) : Pool Shared Task :=
  ⟨⟨w, []⟩, waiting components⟩

/-- How components may be emitted side by side: under some schedule their tasks come to an end, and
all results of the formatter are looked at together. -/
inductive Scheduled [Stack] (host : Host) (generator : Generator) (writer : Writer)
    (components : List Component) (w : World) : Except Failure Report → World → Prop where
  | ok {p : Pool Shared Task} {files : List (List Written)}
      (leads : Pool.Leads (step host generator writer) (start components w) p)
      (ends : Ends p.tasks (.ok files)) :
      Scheduled host generator writer components w
        (.ok ⟨files.flatten.map Written.path, FormatResult.failed p.shared.results⟩)
        (p.shared.world.record host ⟨.info, "Generated " ++ toString files.flatten.length ++
          " files for " ++ toString components.length ++ " components",
          "orchestrator", noComponent⟩)
  | error {p : Pool Shared Task} {e : Failure}
      (leads : Pool.Leads (step host generator writer) (start components w) p)
      (ends : Ends p.tasks (.error e)) :
      Scheduled host generator writer components w (.error e) p.shared.world

variable {host : Host} {generator : Generator} {writer : Writer} {w₀ w w₁ w₂ : World}

/-! ## Tasks that came to an end -/

section Ends

variable {c : Component} {tasks front back : List Task} {files : List (List Written)}

/-- A component that is finished was generated, and all its outputs are settled and can be
formatted. -/
theorem progress_finished [Stack] {files : List Written}
    (h : Progress host generator writer w₀ w c (.finished files)) :
    outputs generator c = .ok (planned generator c) ∧
      Settled host writer w₀ w (planned generator c) ∧
      (∀ o ∈ planned generator c, Formattable host writer o) ∧
      files = (planned generator c).map (writtenOf host writer) := by
  cases h with
  | finished generated settled formattable =>
    rw [planned_of_ok generated]
    exact ⟨generated, settled, formattable, rfl⟩

/-- No failure to save an output says that a component cannot be generated. -/
theorem blamed_ne_generation {name name' : Text} {path : Path} {reason : FileError}
    {text : Text} :
    blamed name (Writer.failure path reason) ≠ .build ⟨name', .generation text⟩ := by
  unfold Writer.failure
  split
  · intro h
    cases Failure.build.inj h
  · intro h
    cases h

/-- What stopped a component is that it cannot be generated, or an output that could not be saved at
first or over which the formatter breaks, or too many missing directories. -/
theorem progress_stopped [Stack] {e : Failure} {files : List Written}
    (h : Progress host generator writer w₀ w c (.stopped e files)) :
    (∃ reason, outputs generator c = .error reason ∧ e = .build reason) ∨
      (∀ name text, e ≠ .build ⟨name, .generation text⟩) ∧
        ∃ o ∈ planned generator c, Ready host writer w₀ o → Formattable host writer o →
          (∃ path, e = .file ⟨.tooDeep, path⟩) ∧ ¬Near host writer w₀ o := by
  generalize stage : Stage.stopped e files = s at h
  cases h with
  | ungenerated failed =>
    obtain ⟨rfl, -⟩ := Stage.stopped.inj stage
    exact .inl ⟨_, failed, rfl⟩
  | @unsaved done left o reason generated unready =>
    obtain ⟨rfl, -⟩ := Stage.stopped.inj stage
    refine .inr ⟨fun _ _ => blamed_ne_generation, o, ?_, fun ready _ => ?_⟩
    · rw [planned_of_ok generated]
      exact List.mem_append_right _ List.mem_cons_self
    · obtain ⟨⟨path, rfl⟩, far⟩ := unready ready
      exact ⟨⟨path, rfl⟩, far⟩
  | @broken done left o f generated formats result =>
    obtain ⟨rfl, -⟩ := Stage.stopped.inj stage
    refine .inr ⟨nofun, o, ?_, fun _ formattable => ?_⟩
    · rw [planned_of_ok generated]
      exact List.mem_append_right _ List.mem_cons_self
    · obtain ⟨r, answered⟩ := formattable formats
      rw [result] at answered
      cases answered
  | _ => cases stage

/-- Tasks that all ended well are reported with the files of each. -/
theorem Ends.files_eq (h : Ends tasks (.ok files)) : files = tasks.map fun t => t.stage.files := by
  induction tasks generalizing files with
  | nil =>
    cases h
    rfl
  | cons t tasks ih =>
    cases h with
    | ok rest =>
      rw [ih rest]
      rfl

/-- Where all tasks ended well, all components were generated, and all outputs are settled. -/
theorem ends_ok [Stack] (h : Ends tasks (.ok files))
    (progress : ∀ t ∈ tasks, Progress host generator writer w₀ w t.component t.stage) :
    ∀ t ∈ tasks, outputs generator t.component = .ok (planned generator t.component) ∧
      Settled host writer w₀ w (planned generator t.component) ∧
      (∀ o ∈ planned generator t.component, Formattable host writer o) ∧
      t.stage.files = (planned generator t.component).map (writtenOf host writer) := by
  induction tasks generalizing files with
  | nil => exact fun t ht => absurd ht List.not_mem_nil
  | cons t tasks ih =>
    cases h with
    | ok rest =>
      intro t' ht'
      rcases List.mem_cons.1 ht' with same | ht'
      · rw [same]
        exact progress_finished (progress _ List.mem_cons_self)
      · exact ih rest (fun t ht => progress t (List.mem_cons_of_mem _ ht)) t' ht'

/-- Tasks that all ended well change nothing about how those behind them are reported. -/
theorem Ends.append {outcome : Except Failure (List (List Written))} (h : Ends front (.ok files))
    (h' : Ends back outcome) : Ends (front ++ back) (outcome.map (files ++ ·)) := by
  induction front generalizing files with
  | nil =>
    cases h
    cases outcome <;> exact h'
  | cons t front ih =>
    cases h with
    | ok rest =>
      cases outcome with
      | ok more => exact .ok (ih rest)
      | error e => exact .later (ih rest)

/-- The tasks in front of others failed, or the others count. -/
theorem ends_append {outcome : Except Failure (List (List Written))}
    (h : Ends (front ++ back) outcome) :
    (∃ e, outcome = .error e ∧ Ends front (.error e)) ∨
      ∃ files rest, Ends front (.ok files) ∧ Ends back rest ∧ outcome = rest.map (files ++ ·) := by
  induction front generalizing outcome with
  | nil => exact .inr ⟨[], outcome, .nil, h, by cases outcome <;> rfl⟩
  | cons t front ih =>
    cases h with
    | @ok c files tasks more rest =>
      rcases ih rest with ⟨e, failed, -⟩ | ⟨files', outcome, hfront, hback, same⟩
      · cases failed
      · refine .inr ⟨files :: files', outcome, .ok hfront, hback, ?_⟩
        cases outcome with
        | ok more' => rw [Except.ok.inj same]; rfl
        | error e => cases same
    | @later c files tasks e rest =>
      rcases ih rest with ⟨e', failed, hfront⟩ | ⟨files', outcome, hfront, hback, same⟩
      · exact .inl ⟨e', failed, .later hfront⟩
      · refine .inr ⟨files :: files', outcome, .ok hfront, hback, ?_⟩
        cases outcome with
        | ok more' => cases same
        | error e' => rw [Except.error.inj same]; rfl
    | first rest =>
      exact .inl ⟨_, rfl, .first fun t ht => rest t (List.mem_append_left _ ht)⟩

/-- Tasks whose outputs could all be saved at first and can be formatted fail only if too many
directories were missing. -/
theorem ends_of_ready [Stack] {e : Failure} (h : Ends tasks (.error e))
    (progress : ∀ t ∈ tasks, Progress host generator writer w₀ w t.component t.stage)
    (generated : ∀ t ∈ tasks, outputs generator t.component = .ok (planned generator t.component))
    (ready : ∀ t ∈ tasks, ∀ o ∈ planned generator t.component, Ready host writer w₀ o)
    (formattable : ∀ t ∈ tasks, ∀ o ∈ planned generator t.component, Formattable host writer o) :
    (∃ path, e = .file ⟨.tooDeep, path⟩) ∧
      ∃ t ∈ tasks, ∃ o ∈ planned generator t.component, ¬Near host writer w₀ o := by
  induction tasks with
  | nil => cases h
  | cons t tasks ih =>
    cases h with
    | later rest =>
      obtain ⟨deep, t', ht', far⟩ := ih rest (fun t ht => progress t (List.mem_cons_of_mem _ ht))
        (fun t ht => generated t (List.mem_cons_of_mem _ ht))
        (fun t ht => ready t (List.mem_cons_of_mem _ ht))
        (fun t ht => formattable t (List.mem_cons_of_mem _ ht))
      exact ⟨deep, t', List.mem_cons_of_mem _ ht', far⟩
    | first rest =>
      rcases progress_stopped (progress _ List.mem_cons_self) with
        ⟨e', failed, -⟩ | ⟨-, o, ho, deep⟩
      · have whole := generated _ List.mem_cons_self
        rw [failed] at whole
        cases whole
      · obtain ⟨deep, far⟩ := deep (ready _ List.mem_cons_self o ho)
          (formattable _ List.mem_cons_self o ho)
        exact ⟨deep, _, List.mem_cons_self, o, ho, far⟩

/-- The failure that is reported is that of the first task that failed. -/
theorem ends_error {e : Failure} (h : Ends tasks (.error e)) :
    ∃ front t back files stopped, tasks = front ++ t :: back ∧ Ends front (.ok files) ∧
      t.stage = .stopped e stopped := by
  induction tasks with
  | nil => cases h
  | cons t tasks ih =>
    cases h with
    | later rest =>
      obtain ⟨front, t', back, files', stopped, rfl, hfront, stage⟩ := ih rest
      exact ⟨_ :: front, t', back, _, stopped, rfl, .ok hfront, stage⟩
    | first rest => exact ⟨[], _, tasks, [], _, rfl, .nil, rfl⟩

end Ends

/-! ## What is left in the end -/

/-- What emissions leave that all end well. -/
structure Complete (host : Host) (generator : Generator) (writer : Writer)
    (components : List Component) (w₀ : World) (report : Report) (w : World) : Prop where
  generated : ∀ c ∈ components, outputs generator c = .ok (planned generator c)
  settled : Settled host writer w₀ w (plan generator components)
  formattable : ∀ o ∈ plan generator components, Formattable host writer o
  within : World.Within host writer (plan generator components)
    ((plan generator components).map (writer.placeOf host)) w₀ w
  written : report.written = (plan generator components).map writer.pathOf
  warnings : report.warnings.Perm (FormatResult.failed
    (((plan generator components).map (writtenOf host writer)).filterMap Written.format))

/-- What emissions leave that a component stops which cannot be generated. -/
structure Halted (host : Host) (generator : Generator) (writer : Writer) (w₀ : World)
    (front : List Component) (c : Component) (back : List Component) (e : BuildError) (w : World) :
    Prop where
  generated : ∀ c ∈ front, outputs generator c = .ok (planned generator c)
  failed : outputs generator c = .error e
  settled : Settled host writer w₀ w (plan generator front)
  formattable : ∀ o ∈ plan generator front, Formattable host writer o
  within : World.Within host writer (plan generator (front ++ c :: back))
    ((plan generator (front ++ c :: back)).map (writer.placeOf host)) w₀ w

/-- Emissions fail because above one of their outputs more directories were missing at first than
can be made at once. -/
def TooDeep [Stack] (host : Host) (generator : Generator) (writer : Writer)
    (components : List Component) (w : World) (outcome : Except Failure Report) : Prop :=
  (∃ path, outcome = .error (.file ⟨.tooDeep, path⟩)) ∧
    ∃ o ∈ plan generator components, ¬Near host writer w o

section Results

variable {components front back : List Component} {c : Component} {tasks : List Task}

/-- What is settled for each component is settled for the plan. -/
theorem settled_plan
    (h : ∀ c ∈ components, Settled host writer w₀ w (planned generator c)) :
    Settled host writer w₀ w (plan generator components) := by
  intro o ho
  obtain ⟨c, hc, ho⟩ := List.mem_flatMap.1 ho
  exact h c hc o ho

/-- What can be formatted for each component can be formatted for the plan. -/
theorem formattable_plan
    (h : ∀ c ∈ components, ∀ o ∈ planned generator c, Formattable host writer o) :
    ∀ o ∈ plan generator components, Formattable host writer o := by
  intro o ho
  obtain ⟨c, hc, ho⟩ := List.mem_flatMap.1 ho
  exact h c hc o ho

theorem component_waiting (components : List Component) :
    (waiting components).map Task.component = components := by
  rw [waiting, List.map_map]
  exact List.map_id _

theorem formats_waiting (components : List Component) :
    (waiting components).flatMap (fun t => t.stage.formats) = [] := by
  rw [waiting, List.flatMap_map]
  exact List.flatMap_eq_nil_iff.2 fun _ _ => rfl

/-- At the start nothing has been done, so the pool is sound. -/
theorem sound_start [Stack]
    (within : World.Within host writer (plan generator components) [] w₀ w) :
    Sound host generator writer w₀ components (start components w) where
  order := component_waiting components
  within := within.mono (List.nil_subset _)
  progress := by
    intro t ht
    obtain ⟨c, -, rfl⟩ := List.mem_map.1 ht
    exact .waiting
  results := by
    show [].Perm ((waiting components).flatMap fun t => t.stage.formats)
    rw [formats_waiting]

/-- Every pool that the start leads to is sound. -/
theorem sound_of_leads [Stack] (independent : Independent host writer components)
    (within : World.Within host writer (plan generator components) [] w₀ w)
    {p : Pool Shared Task}
    (leads : Pool.Leads (step host generator writer) (start components w) p) :
    Sound host generator writer w₀ components p := by
  obtain ⟨schedule, rfl⟩ := leads
  exact sound_turns independent schedule (sound_start within)

/-- The files of tasks that all ended well are those of the plan. -/
theorem files_of_ends [Stack] {p : Pool Shared Task} {files : List (List Written)}
    (sound : Sound host generator writer w₀ components p) (ends : Ends p.tasks (.ok files)) :
    files.flatten = (plan generator components).map (writtenOf host writer) ∧
      (p.tasks.flatMap fun t => t.stage.formats) =
        ((plan generator components).map (writtenOf host writer)).filterMap Written.format := by
  have all := ends_ok ends sound.progress
  obtain rfl := ends.files_eq
  have written : (p.tasks.map fun t => t.stage.files).flatten =
      (plan generator components).map (writtenOf host writer) := by
    rw [plan, ← sound.order, List.flatMap_map, List.map_flatMap, List.flatMap_def]
    congr 1
    exact List.map_congr_left fun t ht => (all t ht).2.2.2
  refine ⟨written, ?_⟩
  rw [← written, List.filterMap_flatten, List.map_map, List.flatMap_def]
  rfl

/-- Emissions that all end well leave the same under every schedule. -/
theorem Scheduled.complete [Stack] (independent : Independent host writer components)
    (within : World.Within host writer (plan generator components) [] w₀ w) {report : Report}
    (h : Scheduled host generator writer components w (.ok report) w₁) :
    Complete host generator writer components w₀ report w₁ := by
  cases h with
  | @ok p files leads ends =>
    have sound := sound_of_leads independent within leads
    have all := ends_ok ends sound.progress
    obtain ⟨written, formats⟩ := files_of_ends sound ends
    have recorded := World.within_record host writer (plan generator components)
      ⟨.info, "Generated " ++ toString files.flatten.length ++ " files for " ++
        toString components.length ++ " components", "orchestrator", noComponent⟩ p.shared.world
    have member : ∀ c ∈ components, ∃ t ∈ p.tasks, t.component = c := by
      intro c hc
      rw [← sound.order] at hc
      exact List.mem_map.1 hc
    constructor
    · intro c hc
      obtain ⟨t, ht, rfl⟩ := member c hc
      exact (all t ht).1
    · apply settled_plan
      intro c hc
      obtain ⟨t, ht, rfl⟩ := member c hc
      exact (all t ht).2.1.mono fun o _ saved => recorded.saved saved List.not_mem_nil
    · apply formattable_plan
      intro c hc
      obtain ⟨t, ht, rfl⟩ := member c hc
      exact (all t ht).2.2.1
    · exact sound.within.step recorded (List.nil_subset _)
    · show files.flatten.map Written.path = _
      rw [written, List.map_map]
      rfl
    · rw [← formats]
      exact sound.results.filter _

/-- When every output could be saved at first and can be formatted, emissions end well under every
schedule, but that too many directories may be missing at once. -/
theorem Scheduled.ok_of_ready [Stack] (independent : Independent host writer components)
    (within : World.Within host writer (plan generator components) [] w₀ w)
    (generated : ∀ c ∈ components, outputs generator c = .ok (planned generator c))
    (ready : ∀ o ∈ plan generator components, Ready host writer w₀ o)
    (formattable : ∀ o ∈ plan generator components, Formattable host writer o)
    {outcome : Except Failure Report}
    (h : Scheduled host generator writer components w outcome w₁) :
    (∃ report, outcome = .ok report) ∨ TooDeep host generator writer components w₀ outcome := by
  cases h with
  | ok leads ends => exact .inl ⟨_, rfl⟩
  | @error p e leads ends =>
    have sound := sound_of_leads independent within leads
    have member : ∀ t ∈ p.tasks, t.component ∈ components := by
      intro t ht
      rw [← sound.order]
      exact List.mem_map_of_mem ht
    obtain ⟨⟨path, rfl⟩, t, ht, o, ho, far⟩ := ends_of_ready ends sound.progress
      (fun t ht => generated _ (member t ht))
      (fun t ht o ho => ready o (mem_plan (member t ht) ho))
      (fun t ht o ho => formattable o (mem_plan (member t ht) ho))
    exact .inr ⟨⟨path, rfl⟩, o, mem_plan (member t ht) ho, far⟩

/-- What the tasks in front of a component that cannot be generated leave. -/
theorem halted_of_ends [Stack] {p : Pool Shared Task} {front : List Task} {t : Task}
    {back : List Task} {files : List (List Written)} {e : BuildError}
    (sound : Sound host generator writer w₀ components p) (tasks : p.tasks = front ++ t :: back)
    (ends : Ends front (.ok files)) (failed : outputs generator t.component = .error e) :
    Halted host generator writer w₀ (front.map Task.component) t.component
      (back.map Task.component) e p.shared.world := by
  have order := sound.order
  have progress := sound.progress
  rw [tasks] at progress
  rw [tasks, List.map_append, List.map_cons] at order
  have all := ends_ok ends fun t ht => progress t (List.mem_append_left _ ht)
  constructor
  · intro c hc
    obtain ⟨t, ht, rfl⟩ := List.mem_map.1 hc
    exact (all t ht).1
  · exact failed
  · apply settled_plan
    intro c hc
    obtain ⟨t, ht, rfl⟩ := List.mem_map.1 hc
    exact (all t ht).2.1
  · apply formattable_plan
    intro c hc
    obtain ⟨t, ht, rfl⟩ := List.mem_map.1 hc
    exact (all t ht).2.2.1
  · rw [order]
    exact sound.within

/-- Where a component that cannot be generated stopped the emissions, those in front of it ended
well. -/
theorem Scheduled.halted [Stack] (independent : Independent host writer components)
    (within : World.Within host writer (plan generator components) [] w₀ w) {name reason : Text}
    (h : Scheduled host generator writer components w
      (.error (.build ⟨name, .generation reason⟩)) w₁) :
    ∃ front c back, components = front ++ c :: back ∧
      Halted host generator writer w₀ front c back ⟨name, .generation reason⟩ w₁ := by
  cases h with
  | @error p e leads ends =>
    have sound := sound_of_leads independent within leads
    obtain ⟨front, t, back, files, stopped, tasks, hfront, stage⟩ := ends_error ends
    have there : Progress host generator writer w₀ p.shared.world t.component t.stage := by
      apply sound.progress
      rw [tasks]
      exact List.mem_append_right _ List.mem_cons_self
    rw [stage] at there
    rcases progress_stopped there with ⟨e, failed, same⟩ | ⟨other, -⟩
    · obtain rfl := Failure.build.inj same
      refine ⟨_, t.component, _, ?_, halted_of_ends sound tasks hfront failed⟩
      rw [← sound.order, tasks, List.map_append, List.map_cons]
    · exact absurd rfl (other name reason)

/-- A component that cannot be generated stops the emissions under every schedule, when the outputs
of those in front of it could be saved at first and can be formatted; but too many directories may
be missing at once. -/
theorem Scheduled.halted_of_failed [Stack]
    (independent : Independent host writer (front ++ c :: back))
    (within : World.Within host writer (plan generator (front ++ c :: back)) [] w₀ w)
    (generated : ∀ c ∈ front, outputs generator c = .ok (planned generator c))
    (ready : ∀ o ∈ plan generator front, Ready host writer w₀ o)
    (formattable : ∀ o ∈ plan generator front, Formattable host writer o) {e : BuildError}
    (failed : outputs generator c = .error e) {outcome : Except Failure Report}
    (h : Scheduled host generator writer (front ++ c :: back) w outcome w₁) :
    outcome = .error (.build e) ∧ Halted host generator writer w₀ front c back e w₁ ∨
      TooDeep host generator writer (front ++ c :: back) w₀ outcome := by
  have ungenerated : outputs generator c ≠ .ok (planned generator c) := by
    rw [failed]
    nofun
  cases h with
  | ok leads ends =>
    have all := (Scheduled.ok leads ends).complete independent within
    exact absurd (all.generated c (by simp)) ungenerated
  | @error p e' leads ends =>
    have sound := sound_of_leads independent within leads
    obtain ⟨tasks, rest, parts, rfl, hrest⟩ := List.map_eq_append_iff.1 sound.order
    obtain ⟨t, later, rfl, rfl, rfl⟩ := List.map_eq_cons_iff.1 hrest
    have progress := sound.progress
    rw [parts] at ends progress
    rcases ends_append ends with ⟨e', same, hfront⟩ | ⟨files, outcome, hfront, hrest, same⟩
    · right
      obtain rfl := Except.error.inj same
      obtain ⟨⟨path, rfl⟩, t', ht', o, ho, far⟩ := ends_of_ready hfront
        (fun t ht => progress t (List.mem_append_left _ ht))
        (fun t ht => generated _ (List.mem_map_of_mem ht))
        (fun t ht o ho => ready o (mem_plan (List.mem_map_of_mem ht) ho))
        (fun t ht o ho => formattable o (mem_plan (List.mem_map_of_mem ht) ho))
      have member : t'.component ∈ tasks.map Task.component := List.mem_map_of_mem ht'
      exact ⟨⟨path, rfl⟩, o, mem_plan (List.mem_append_left _ member) ho, far⟩
    · left
      have there := progress t (List.mem_append_right _ List.mem_cons_self)
      refine ⟨?_, halted_of_ends sound parts hfront failed⟩
      cases hrest with
      | ok rest => exact absurd (progress_finished there).1 ungenerated
      | later rest => exact absurd (progress_finished there).1 ungenerated
      | first rest =>
        obtain rfl := Except.error.inj same
        rcases progress_stopped there with ⟨reason, hreason, rfl⟩ | ⟨-, o, ho, -⟩
        · rw [failed] at hreason
          obtain rfl := Except.error.inj hreason
          rfl
        · rw [planned_of_error failed] at ho
          exact absurd ho List.not_mem_nil

end Results

end Build

end Bindery
