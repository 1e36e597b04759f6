import Bindery.Proofs.Build.Saving
import Bindery.Proofs.Pool

/-!
# Components that are emitted side by side

A component's emission is a task of single steps (`Build.step`): it is generated, then one output
after another is saved and, if it is to be formatted, formatted. Tasks share the world and the list
of the formatter's results. Under every schedule a task is where its own outputs say (`Progress`):
what it has saved could be saved at first, is still there, and is reported as it would be without
the other tasks (`sound_turns`).
-/

namespace Bindery

namespace Build

open Writer

/-- How far the emission of a component is. -/
inductive Stage where
  | waiting
  | writing (left : List Output) (files : List Written)
  | formatting (path : Path) (left : List Output) (files : List Written)
  | finished (files : List Written)
  | stopped (failure : Failure) (files : List Written)

namespace Stage

/-- The files written so far. -/
def files : Stage → List Written
  | .waiting => []
  | .writing _ files | .formatting _ _ files | .finished files | .stopped _ files => files

/-- The results of formatting these files. -/
def formats (stage : Stage) : List FormatResult := stage.files.filterMap Written.format

/-- Whether there is nothing left to do. -/
def isOver : Stage → Bool
  | .finished _ | .stopped _ _ => true
  | _ => false

end Stage

/-- A component that is emitted. -/
structure Task where
  component : Component
  stage : Stage

/-- What emissions share: the world, and the formatter's results in the order in which they came. -/
structure Shared where
  world : World
  results : List FormatResult

/-- One step of an emission. -/
def step [Stack] (host : Host) (generator : Generator) (writer : Writer) (s : Shared) (t : Task) :
    Shared × Task :=
  let name := t.component.interface.component
  match t.stage with
  | .waiting =>
    let (_, w) := record host .info ("Generating bindings for " ++ name) name s.world
    match outputs generator t.component with
    | .ok outputs => ({ s with world := w }, { t with stage := .writing outputs [] })
    | .error e => ({ s with world := w }, { t with stage := .stopped (.build e) [] })
  | .writing [] files =>
    let (_, w) := record host .debug ("Wrote " ++ toString files.length ++ " files") name s.world
    ({ s with world := w }, { t with stage := .finished files })
  | .writing (o :: left) files =>
    match writer.save host o s.world with
    | (.ok (), w) =>
      let stage := if writer.formats && o.isSource then .formatting (writer.pathOf o) left files
        else .writing left (files ++ [⟨writer.pathOf o, none⟩])
      ({ s with world := w }, { t with stage })
    | (.error e, w) =>
      ({ s with world := w }, { t with stage := .stopped (blamed name e) files })
  | .formatting path left files =>
    match writer.format host path s.world with
    | (.ok r, w) =>
      (⟨w, s.results ++ [r]⟩, { t with stage := .writing left (files ++ [⟨path, some r⟩]) })
    | (.error e, w) =>
      ({ s with world := w }, { t with stage := .stopped (blamed name e) files })
  | .finished _ | .stopped _ _ => (s, t)

section

variable {host : Host} {generator : Generator} {writer : Writer} {c : Component} {s : Shared}
variable {o : Output} {path : Path} {left : List Output} {files : List Written}
variable {r : FormatResult} {e : Failure} {w : World}

/-- A task that saves its next output formats it next, or goes on. -/
theorem step_save_ok [Stack] (h : writer.save host o s.world = (.ok (), w)) :
    step host generator writer s ⟨c, .writing (o :: left) files⟩ =
      (⟨w, s.results⟩, ⟨c, if writer.formats && o.isSource then
          .formatting (writer.pathOf o) left files
        else .writing left (files ++ [⟨writer.pathOf o, none⟩])⟩) := by
  simp only [step, h]

/-- A task that cannot save its next output is stopped. -/
theorem step_save_error [Stack] (h : writer.save host o s.world = (.error e, w)) :
    step host generator writer s ⟨c, .writing (o :: left) files⟩ =
      (⟨w, s.results⟩, ⟨c, .stopped (blamed c.interface.component e) files⟩) := by
  simp only [step, h]

/-- A task that has formatted a file goes on with its result. -/
theorem step_format_ok [Stack] (h : writer.format host path s.world = (.ok r, w)) :
    step host generator writer s ⟨c, .formatting path left files⟩ =
      (⟨w, s.results ++ [r]⟩, ⟨c, .writing left (files ++ [⟨path, some r⟩])⟩) := by
  simp only [step, h]

/-- A task over whose file the formatter breaks is stopped. -/
theorem step_format_error [Stack] (h : writer.format host path s.world = (.error e, w)) :
    step host generator writer s ⟨c, .formatting path left files⟩ =
      (⟨w, s.results⟩, ⟨c, .stopped (blamed c.interface.component e) files⟩) := by
  simp only [step, h]

end

/-- The outputs of a component that is generated; none of one that cannot be. -/
def planned (generator : Generator) (c : Component) : List Output :=
  (outputs generator c).toOption.getD []

/-- The outputs of components that are generated. -/
def plan (generator : Generator) (components : List Component) : List Output :=
  components.flatMap (planned generator)

/-- The plan has all outputs of all components. -/
theorem mem_plan {generator : Generator} {components : List Component} {c : Component} {o : Output}
    (hc : c ∈ components) (ho : o ∈ planned generator c) : o ∈ plan generator components :=
  List.mem_flatMap.2 ⟨c, hc, ho⟩

variable {host : Host} {generator : Generator} {writer : Writer} {w₀ w w' : World}

/-- Outputs could be saved in one world, and are in another. -/
def Settled (host : Host) (writer : Writer) (w₀ w : World) (outputs : List Output) : Prop :=
  ∀ o ∈ outputs, Ready host writer w₀ o ∧ Saved host writer w o

/-- How far a component can be, in a world that was `w₀` at first: what it has done is settled and
reported, and what stopped it is a failed generation, an output that could not be saved at first,
too many missing directories, or a formatter that breaks. -/
inductive Progress [Stack] (host : Host) (generator : Generator) (writer : Writer) (w₀ w : World)
    (c : Component) : Stage → Prop where
  | waiting : Progress host generator writer w₀ w c .waiting
  | writing {done left : List Output} (generated : outputs generator c = .ok (done ++ left))
      (settled : Settled host writer w₀ w done)
      (formattable : ∀ o ∈ done, Formattable host writer o) :
      Progress host generator writer w₀ w c (.writing left (done.map (writtenOf host writer)))
  | formatting {done left : List Output} {o : Output}
      (generated : outputs generator c = .ok (done ++ o :: left))
      (formats : (writer.formats && o.isSource) = true)
      (settled : Settled host writer w₀ w (done ++ [o]))
      (formattable : ∀ o ∈ done, Formattable host writer o) :
      Progress host generator writer w₀ w c
        (.formatting (writer.pathOf o) left (done.map (writtenOf host writer)))
  | finished {done : List Output} (generated : outputs generator c = .ok done)
      (settled : Settled host writer w₀ w done)
      (formattable : ∀ o ∈ done, Formattable host writer o) :
      Progress host generator writer w₀ w c (.finished (done.map (writtenOf host writer)))
  | ungenerated {e : BuildError} (failed : outputs generator c = .error e) :
      Progress host generator writer w₀ w c (.stopped (.build e) [])
  | unsaved {done left : List Output} {o : Output} {reason : FileError}
      (generated : outputs generator c = .ok (done ++ o :: left))
      (unready : Ready host writer w₀ o →
        (∃ path, reason = ⟨.tooDeep, path⟩) ∧ ¬Near host writer w₀ o) :
      Progress host generator writer w₀ w c
        (.stopped (blamed c.interface.component (failure (writer.pathOf o) reason))
          (done.map (writtenOf host writer)))
  | broken {done left : List Output} {o : Output} {f : Fault}
      (generated : outputs generator c = .ok (done ++ o :: left))
      (formats : (writer.formats && o.isSource) = true)
      (result : formatOf host writer (writer.pathOf o) = .error f) :
      Progress host generator writer w₀ w c
        (.stopped (.fault f) (done.map (writtenOf host writer)))

/-- What is planned for a component are its outputs. -/
theorem planned_of_ok {c : Component} {os : List Output} (h : outputs generator c = .ok os) :
    planned generator c = os := by
  unfold planned
  rw [h]
  rfl

theorem planned_of_isOk {c : Component} (h : (outputs generator c).isOk = true) :
    outputs generator c = .ok (planned generator c) := by
  obtain ⟨os, generated⟩ := Outcome.exists_of_isOk h
  rw [planned_of_ok generated]
  exact generated

theorem planned_of_error {c : Component} {e : BuildError} (h : outputs generator c = .error e) :
    planned generator c = [] := by
  unfold planned
  rw [h]
  rfl

/-- What is settled stays so while it stays saved. -/
theorem Settled.mono {done : List Output} (h : Settled host writer w₀ w done)
    (keeps : ∀ o ∈ done, Saved host writer w o → Saved host writer w' o) :
    Settled host writer w₀ w' done :=
  fun o ho => ⟨(h o ho).1, keeps o ho (h o ho).2⟩

/-- A component that is generated has nothing written yet. -/
theorem Progress.begin [Stack] {c : Component} {os : List Output}
    (generated : outputs generator c = .ok os) :
    Progress host generator writer w₀ w c (.writing os []) := by
  have none : Settled host writer w₀ w [] := nofun
  exact .writing generated none nofun

/-- A task is where it was while what it has saved is still there. -/
theorem Progress.mono [Stack] {c : Component} {stage : Stage}
    (h : Progress host generator writer w₀ w c stage)
    (keeps : ∀ o ∈ planned generator c, Saved host writer w o → Saved host writer w' o) :
    Progress host generator writer w₀ w' c stage := by
  cases h with
  | waiting => exact .waiting
  | writing generated settled formattable =>
    rw [planned_of_ok generated] at keeps
    exact .writing generated (settled.mono fun o ho => keeps o (by simp [ho])) formattable
  | @formatting done left o generated formats settled formattable =>
    rw [planned_of_ok generated] at keeps
    refine .formatting generated formats (settled.mono fun o' ho => keeps o' ?_) formattable
    rcases List.mem_append.1 ho with ho | ho
    · exact List.mem_append_left _ ho
    · rw [List.mem_singleton.1 ho]
      exact List.mem_append_right _ List.mem_cons_self
  | finished generated settled formattable =>
    rw [planned_of_ok generated] at keeps
    exact .finished generated (settled.mono keeps) formattable
  | ungenerated failed => exact .ungenerated failed
  | unsaved generated unready => exact .unsaved generated unready
  | broken generated formats result => exact .broken generated formats result

/-- What a step of a component's emission does: it touches the places of that component only, and
what is new among its results is new among all results. -/
structure Stepped [Stack] (host : Host) (generator : Generator) (writer : Writer)
    (plan : List Output) (w₀ : World) (s : Shared) (t : Task) (after : Shared × Task) : Prop where
  component : after.2.component = t.component
  progress : Progress host generator writer w₀ after.1.world t.component after.2.stage
  within : World.Within host writer plan
    ((planned generator t.component).map (writer.placeOf host)) s.world after.1.world
  results : ∃ new, after.1.results = s.results ++ new ∧
    after.2.stage.formats = t.stage.formats ++ new

section Step

variable {plan : List Output} {touched : List (List Text)} {c : Component} {s : Shared}
variable {done left : List Output} {o : Output}

theorem formats_map_append (files : List Written) (file : Written) :
    (files ++ [file]).filterMap Written.format =
      files.filterMap Written.format ++ file.format.toList := by
  rw [List.filterMap_append]
  cases h : file.format with
  | none => simp [h]
  | some r => simp [h]

/-- A planned output that was saved is settled, and so are those that were before. -/
theorem settled_save [Stack] (within : World.Within host writer plan touched w₀ w)
    (laid : ∀ o ∈ plan, o.Laid) (member : o ∈ plan)
    (fresh : writer.placeOf host o ∉ done.map (writer.placeOf host))
    (settled : Settled host writer w₀ w done) (h : writer.save host o w = (.ok (), w')) :
    Settled host writer w₀ w' (done ++ [o]) := by
  obtain ⟨ready, saved⟩ := save_ok h
  have saving : World.Within host writer plan [writer.placeOf host o] w
      (writer.save host o w).2 := within_save member (laid o member)
  rw [h] at saving
  intro o' ho'
  rcases List.mem_append.1 ho' with ho' | ho'
  · have kept : writer.placeOf host o' ∉ [writer.placeOf host o] := by
      intro same
      rw [List.mem_singleton] at same
      exact fresh (same ▸ List.mem_map_of_mem ho')
    exact ⟨(settled o' ho').1, saving.saved (settled o' ho').2 kept⟩
  · rw [List.mem_singleton.1 ho']
    exact ⟨within.ready_back (laid o member) ready, saved⟩

/-- The next output is saved and reported, or is formatted next, or stops the task. -/
theorem stepped_save [Stack] (within : World.Within host writer plan touched w₀ s.world)
    (laid : ∀ o ∈ plan, o.Laid) (sub : planned generator c ⊆ plan)
    (places : ((planned generator c).map (writer.placeOf host)).Nodup)
    (generated : outputs generator c = .ok (done ++ o :: left))
    (settled : Settled host writer w₀ s.world done)
    (formattable : ∀ o ∈ done, Formattable host writer o) :
    Stepped host generator writer plan w₀ s
      ⟨c, .writing (o :: left) (done.map (writtenOf host writer))⟩
      (step host generator writer s
        ⟨c, .writing (o :: left) (done.map (writtenOf host writer))⟩) := by
  have whole := planned_of_ok generated
  have member : o ∈ planned generator c := whole ▸ List.mem_append_right _ List.mem_cons_self
  have fresh : writer.placeOf host o ∉ done.map (writer.placeOf host) := by
    rw [whole, List.map_append, List.nodup_append] at places
    exact fun same => places.2.2 _ same _ List.mem_cons_self rfl
  have saving : World.Within host writer plan ((planned generator c).map (writer.placeOf host))
      s.world (writer.save host o s.world).2 := by
    refine (within_save (sub member) (laid o (sub member))).mono ?_
    exact List.cons_subset.2 ⟨List.mem_map_of_mem member, List.nil_subset _⟩
  cases h : writer.save host o s.world with
  | mk outcome w =>
    rw [h] at saving
    cases outcome with
    | error e =>
      obtain ⟨reason, rfl, unready⟩ := save_error h
      rw [step_save_error h]
      refine ⟨rfl, .unsaved generated fun ready => ?_, saving, [], ?_, ?_⟩
      · obtain ⟨deep, far⟩ := unready (within.ready laid (sub member) ready)
        exact ⟨deep, fun near => far (near.of_dirs within.spread.dirs)⟩
      · exact (List.append_nil _).symm
      · exact (List.append_nil _).symm
    | ok u =>
      have settled' := settled_save within laid (sub member) fresh settled h
      rw [step_save_ok h]
      by_cases formats : (writer.formats && o.isSource) = true
      · rw [if_pos formats]
        refine ⟨rfl, .formatting generated formats settled' formattable, saving, [], ?_, ?_⟩
        · exact (List.append_nil _).symm
        · exact (List.append_nil _).symm
      · have report : done.map (writtenOf host writer) ++ [⟨writer.pathOf o, none⟩] =
            (done ++ [o]).map (writtenOf host writer) := by
          simp [writtenOf, formats]
        have generated' : outputs generator c = .ok ((done ++ [o]) ++ left) := by
          rw [generated, List.append_assoc, List.singleton_append]
        have formattable' : Formattable host writer o := fun formatted => absurd formatted formats
        rw [if_neg formats]
        refine ⟨rfl, ?_, saving, [], (List.append_nil _).symm, ?_⟩
        · rw [report]
          exact .writing generated' settled'
            (List.forall_mem_append.2 ⟨formattable, List.forall_mem_singleton.2 formattable'⟩)
        · exact formats_map_append _ _

/-- A file that is formatted is reported with the result, or the formatter breaks over it. -/
theorem stepped_format [Stack] (steady : Steady host writer)
    (generated : outputs generator c = .ok (done ++ o :: left))
    (formats : (writer.formats && o.isSource) = true)
    (settled : Settled host writer w₀ s.world (done ++ [o]))
    (formattable : ∀ o ∈ done, Formattable host writer o) :
    Stepped host generator writer plan w₀ s
      ⟨c, .formatting (writer.pathOf o) left (done.map (writtenOf host writer))⟩
      (step host generator writer s
        ⟨c, .formatting (writer.pathOf o) left (done.map (writtenOf host writer))⟩) := by
  obtain ⟨w, h, within⟩ := format_eq steady (Bool.and_eq_true_iff.1 formats).1 plan
    (writer.pathOf o) s.world
  cases result : formatOf host writer (writer.pathOf o) with
  | error f =>
    rw [result] at h
    rw [step_format_error h]
    exact ⟨rfl, .broken generated formats result, within.mono (List.nil_subset _), [],
      (List.append_nil _).symm, (List.append_nil _).symm⟩
  | ok r =>
    rw [result] at h
    have report : done.map (writtenOf host writer) ++ [⟨writer.pathOf o, some r⟩] =
        (done ++ [o]).map (writtenOf host writer) := by
      simp [writtenOf, formats, result, Except.toOption]
    have generated' : outputs generator c = .ok ((done ++ [o]) ++ left) := by
      rw [generated, List.append_assoc, List.singleton_append]
    have formattable' : Formattable host writer o := fun _ => ⟨r, result⟩
    rw [step_format_ok h]
    refine ⟨rfl, ?_, within.mono (List.nil_subset _), [r], rfl, ?_⟩
    · rw [report]
      refine .writing generated' (settled.mono fun o' ho' saved => ?_)
        (List.forall_mem_append.2 ⟨formattable, List.forall_mem_singleton.2 formattable'⟩)
      exact within.saved saved List.not_mem_nil
    · exact formats_map_append _ _

/-- Every step of a component's emission gets it on. -/
theorem stepped [Stack] (steady : Steady host writer)
    (within : World.Within host writer plan touched w₀ s.world) (laid : ∀ o ∈ plan, o.Laid)
    (sub : planned generator c ⊆ plan)
    (places : ((planned generator c).map (writer.placeOf host)).Nodup) {stage : Stage}
    (h : Progress host generator writer w₀ s.world c stage) :
    Stepped host generator writer plan w₀ s ⟨c, stage⟩
      (step host generator writer s ⟨c, stage⟩) := by
  cases h with
  | waiting =>
    have recorded := World.within_record host writer plan
      ⟨.info, "Generating bindings for " ++ c.interface.component, "orchestrator",
        c.interface.component⟩ s.world
    simp only [step]
    cases generated : outputs generator c with
    | ok os =>
      exact ⟨rfl, .begin generated, recorded.mono (List.nil_subset _), [],
        (List.append_nil _).symm, rfl⟩
    | error e =>
      exact ⟨rfl, .ungenerated generated, recorded.mono (List.nil_subset _), [],
        (List.append_nil _).symm, rfl⟩
  | @writing done left generated settled formattable =>
    cases left with
    | cons o left => exact stepped_save within laid sub places generated settled formattable
    | nil =>
      rw [List.append_nil] at generated
      have recorded := World.within_record host writer plan
        ⟨.debug, "Wrote " ++ toString (done.map (writtenOf host writer)).length ++ " files",
          "orchestrator", c.interface.component⟩ s.world
      simp only [step]
      refine ⟨rfl, .finished generated (settled.mono fun o _ saved => ?_) formattable,
        recorded.mono (List.nil_subset _), [], (List.append_nil _).symm, (List.append_nil _).symm⟩
      exact recorded.saved saved List.not_mem_nil
  | formatting generated formats settled formattable =>
    exact stepped_format steady generated formats settled formattable
  | finished generated settled formattable =>
    exact ⟨rfl, .finished generated settled formattable, .refl, [], (List.append_nil _).symm,
      (List.append_nil _).symm⟩
  | ungenerated failed =>
    exact ⟨rfl, .ungenerated failed, .refl, [], (List.append_nil _).symm, rfl⟩
  | unsaved generated unready =>
    exact ⟨rfl, .unsaved generated unready, .refl, [], (List.append_nil _).symm,
      (List.append_nil _).symm⟩
  | broken generated formats result =>
    exact ⟨rfl, .broken generated formats result, .refl, [], (List.append_nil _).symm,
      (List.append_nil _).symm⟩

end Step

/-! ## Turns of all tasks -/

/-- A state that tasks of some components are led to from the world `w₀`: every one of them is where
its own outputs say, and the formatter's results are those of all files. -/
structure Sound [Stack] (host : Host) (generator : Generator) (writer : Writer) (w₀ : World)
    (components : List Component) (p : Pool Shared Task) : Prop where
  order : p.tasks.map Task.component = components
  within : World.Within host writer (plan generator components)
    ((plan generator components).map (writer.placeOf host)) w₀ p.shared.world
  progress : ∀ t ∈ p.tasks, Progress host generator writer w₀ p.shared.world t.component t.stage
  results : p.shared.results.Perm (p.tasks.flatMap fun t => t.stage.formats)

/-- Components of which none gets in the way of another: their outputs are laid at places of their
own, and formatting a file makes no difference to others. -/
structure Independent (host : Host) (writer : Writer) (components : List Component) : Prop where
  steady : Steady host writer
  ordinary : ∀ c ∈ components, c.Ordinary
  distinct : (components.map fun c => Text.bytesOf c.interface.component).Nodup

section Turns

variable {components front back : List Component} {c c' : Component} {o o' : Output}

/-- Components that are independent are apart. -/
theorem Independent.apart (h : Independent host writer components) : Apart components :=
  ⟨fun c hc => (h.ordinary c hc).plain, h.distinct⟩

/-- What is planned for a component is nothing, or what a bundle puts out. -/
theorem planned_cases (generator : Generator) (c : Component) :
    planned generator c = [] ∨ ∃ b, planned generator c = c.outputs b := by
  cases h : outputs generator c with
  | ok os =>
    obtain ⟨b, -, rfl⟩ := outputs_ok h
    exact .inr ⟨b, planned_of_ok h⟩
  | error e => exact .inl (planned_of_error h)

/-- Every planned output comes from a bundle. -/
theorem exists_outputs (h : o ∈ planned generator c) : ∃ b, o ∈ c.outputs b := by
  rcases planned_cases generator c with none | ⟨b, hb⟩
  · rw [none] at h
    exact absurd h List.not_mem_nil
  · exact ⟨b, hb ▸ h⟩

/-- All that is planned for ordinary components is laid out below the output directory. -/
theorem laid_of_mem_plan (ordinary : ∀ c ∈ components, c.Ordinary) :
    ∀ o ∈ plan generator components, o.Laid := by
  intro o ho
  obtain ⟨c, hc, ho⟩ := List.mem_flatMap.1 ho
  obtain ⟨b, ho⟩ := exists_outputs ho
  exact (ordinary c hc).laid ho

/-- The planned outputs of one component have places of their own. -/
theorem nodup_planned (apart : Apart [c]) (host : Host) (writer : Writer) :
    ((planned generator c).map (writer.placeOf host)).Nodup := by
  rcases planned_cases generator c with none | ⟨b, hb⟩
  · rw [none]
    exact .nil
  · have places : ((outputsOf [c] [b]).map (writer.placeOf host)).Nodup :=
      nodup_places apart.plain apart.distinct host.cwd writer.outDir
    have only : outputsOf [c] [b] = c.outputs b := List.append_nil _
    rw [hb, ← only]
    exact places

/-- The outputs of two components that are apart have different places. -/
theorem placeOf_ne (apart : Apart (front ++ back)) (hc : c ∈ front) (hc' : c' ∈ back)
    (ho : o ∈ planned generator c) (ho' : o' ∈ planned generator c') (host : Host)
    (writer : Writer) : writer.placeOf host o ≠ writer.placeOf host o' := by
  obtain ⟨b, ho⟩ := exists_outputs ho
  obtain ⟨b', ho'⟩ := exists_outputs ho'
  exact apart.place_ne hc hc' ho ho' host.cwd writer.outDir

/-- What other components save is at other places than what one of them does. -/
theorem placeOf_notMem (apart : Apart (front ++ c :: back)) (hc' : c' ∈ front ++ back)
    (ho : o ∈ planned generator c') (host : Host) (writer : Writer) :
    writer.placeOf host o ∉ (planned generator c).map (writer.placeOf host) := by
  intro hp
  obtain ⟨o', ho', same⟩ := List.mem_map.1 hp
  rcases List.mem_append.1 hc' with hc' | hc'
  · exact placeOf_ne apart hc' List.mem_cons_self ho ho' host writer same.symm
  · rw [List.append_cons] at apart
    exact placeOf_ne apart (List.mem_append_right _ List.mem_cons_self) hc' ho' ho host writer same

/-- A turn of any task keeps the pool sound. -/
theorem sound_turn [Stack] (independent : Independent host writer components) {s : Shared}
    {front : List Task} {t : Task} {back : List Task}
    (h : Sound host generator writer w₀ components ⟨s, front ++ t :: back⟩) :
    Sound host generator writer w₀ components
      ⟨(step host generator writer s t).1,
        front ++ (step host generator writer s t).2 :: back⟩ := by
  obtain ⟨names, within, progress, results⟩ := h
  dsimp only at names within progress results
  rw [List.map_append, List.map_cons] at names
  have member : t.component ∈ components := by
    rw [← names]
    exact List.mem_append_right _ List.mem_cons_self
  have sub : planned generator t.component ⊆ plan generator components :=
    fun o ho => mem_plan member ho
  have apart : Apart components := independent.apart
  have alone : Apart [t.component] := apart.sublist (List.singleton_sublist.2 member)
  have stepped : Stepped host generator writer (plan generator components) w₀ s t
      (step host generator writer s t) :=
    stepped independent.steady within (laid_of_mem_plan independent.ordinary) sub
      (nodup_planned alone host writer)
      (progress t (List.mem_append_right _ List.mem_cons_self))
  have kept : ∀ t' ∈ front ++ back, Progress host generator writer w₀
      (step host generator writer s t).1.world t'.component t'.stage := by
    intro t' ht'
    have before : Progress host generator writer w₀ s.world t'.component t'.stage := by
      apply progress
      simp only [List.mem_append, List.mem_cons] at ht' ⊢
      tauto
    have other : t'.component ∈ front.map Task.component ++ back.map Task.component :=
      List.map_append ▸ List.mem_map_of_mem ht'
    exact before.mono fun o ho saved =>
      stepped.within.saved saved (placeOf_notMem (names ▸ apart) other ho host writer)
  constructor
  · show (front ++ (step host generator writer s t).2 :: back).map Task.component = components
    rw [List.map_append, List.map_cons, stepped.component]
    exact names
  · exact within.step stepped.within (List.map_subset _ sub)
  · intro t' ht'
    rcases List.mem_append.1 ht' with ht' | ht'
    · exact kept t' (List.mem_append_left _ ht')
    · rcases List.mem_cons.1 ht' with rfl | ht'
      · rw [stepped.component]
        exact stepped.progress
      · exact kept t' (List.mem_append_right _ ht')
  · obtain ⟨new, added, formats⟩ := stepped.results
    show (step host generator writer s t).1.results.Perm
      ((front ++ (step host generator writer s t).2 :: back).flatMap fun t => t.stage.formats)
    rw [List.flatMap_append, List.flatMap_cons] at results ⊢
    rw [added, formats]
    refine (results.append_right new).trans ?_
    rw [List.append_assoc, List.append_assoc, List.append_assoc]
    exact ((List.perm_append_comm.append_left _).append_left _)

/-- Under every schedule every task is where its own outputs say. -/
theorem sound_turns [Stack] (independent : Independent host writer components) (schedule : List Nat)
    {p : Pool Shared Task}
    (h : Sound host generator writer w₀ components p) :
    Sound host generator writer w₀ components
      (p.turns (step host generator writer) schedule) := by
  apply Pool.turns_preserves (P := Sound host generator writer w₀ components)
  · intro s front t back h
    exact sound_turn independent h
  · exact h

end Turns

end Build

end Bindery
