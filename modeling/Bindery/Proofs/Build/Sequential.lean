import Bindery.Proofs.Build.Schedules

/-!
# Emitting one component after another

To emit the components one after another is one of the schedules under which they may be emitted
side by side, and so is to emit them all whatever becomes of each (`Build.scheduled_write`). So what
holds under every schedule holds of a build that writes, with however many workers.
-/

namespace Bindery

namespace Build

open Writer

variable {host : Host} {generator : Generator} {writer : Writer} {w w' : World}

/-! ## A component alone -/

section Alone

variable {c : Component} {o : Output} {os left : List Output} {files new : List Written}
variable {file : Written} {e : Failure} {results : List FormatResult}

/-- An output is written in one step, or in two when it is formatted. -/
theorem runs_write_ok [Stack] (h : writer.write host o w = (.ok file, w')) :
    Pool.Runs (step host generator writer) ⟨w, results⟩ [⟨c, .writing (o :: left) files⟩]
      ⟨w', results ++ file.format.toList⟩ [⟨c, .writing left (files ++ [file])⟩] := by
  cases writes_of_write h with
  | plain saved unformatted =>
    have first : Pool.Runs (step host generator writer) ⟨w, results⟩
        [⟨c, .writing (o :: left) files⟩] _ _ := Pool.runs_of_step (step_save_ok saved)
    rw [unformatted, if_neg Bool.false_ne_true] at first
    rw [show (none : Option FormatResult).toList = [] from rfl, List.append_nil]
    exact first
  | formatted saved formats _ formatted =>
    have first : Pool.Runs (step host generator writer) ⟨w, results⟩
        [⟨c, .writing (o :: left) files⟩] _ _ := Pool.runs_of_step (step_save_ok saved)
    rw [if_pos formats] at first
    exact first.trans (Pool.runs_of_step (step_format_ok formatted))

/-- An output that is not written, or over which the formatter breaks, stops its component. -/
theorem runs_write_error [Stack] (h : writer.write host o w = (.error e, w')) :
    Pool.Runs (step host generator writer) ⟨w, results⟩ [⟨c, .writing (o :: left) files⟩]
      ⟨w', results⟩ [⟨c, .stopped (blamed c.interface.component e) files⟩] := by
  cases writes_of_write h with
  | unsaved failed => exact Pool.runs_of_step (step_save_error failed)
  | broken saved breaks broke =>
    have first : Pool.Runs (step host generator writer) ⟨w, results⟩
        [⟨c, .writing (o :: left) files⟩] _ _ := Pool.runs_of_step (step_save_ok saved)
    rw [if_pos breaks.formats] at first
    exact first.trans (Pool.runs_of_step (step_format_error broke))

/-- Outputs that are written one after another are steps of one task. -/
theorem runs_writes_ok [Stack] (h : os.mapM (writer.write host) w = (.ok new, w')) :
    Pool.Runs (step host generator writer) ⟨w, results⟩ [⟨c, .writing (os ++ left) files⟩]
      ⟨w', results ++ new.filterMap Written.format⟩ [⟨c, .writing left (files ++ new)⟩] := by
  induction os generalizing w results files new with
  | nil =>
    obtain ⟨none, rfl⟩ := Run.pure_ok_iff.1 h
    obtain rfl : [] = new := none
    rw [List.filterMap_nil, List.append_nil, List.append_nil]
    exact .refl
  | cons o os ih =>
    obtain ⟨file, w₁, rest, hfile, hrest, rfl⟩ := Run.mapM_cons_ok_iff.1 h
    have later : Pool.Runs (step host generator writer) ⟨w₁, results ++ file.format.toList⟩
        [⟨c, .writing (os ++ left) (files ++ [file])⟩] _ _ := ih hrest
    have formats : (file :: rest).filterMap Written.format =
        file.format.toList ++ rest.filterMap Written.format := by
      cases h : file.format with
      | none => simp [h]
      | some r => simp [h]
    rw [List.append_assoc, List.append_assoc, List.singleton_append, ← formats] at later
    exact (runs_write_ok hfile).trans later

/-- A component whose outputs are generated begins to write them. -/
theorem runs_begin [Stack] {u : Unit} (generated : outputs generator c = .ok os)
    (h : record host .info ("Generating bindings for " ++ c.interface.component)
      c.interface.component w = (.ok u, w')) :
    Pool.Runs (step host generator writer) ⟨w, results⟩ [⟨c, .waiting⟩] ⟨w', results⟩
      [⟨c, .writing os []⟩] := by
  obtain rfl := congrArg Prod.snd h
  apply Pool.runs_of_step
  simp only [step, generated]
  rfl

/-- How a stage is reported. -/
inductive Reports : Stage → Except Failure (List Written) → Prop where
  | finished (files : List Written) : Reports (.finished files) (.ok files)
  | stopped (e : Failure) (files : List Written) : Reports (.stopped e files) (.error e)

/-- A component that is emitted does so alone, while all others wait. -/
theorem runs_emit [Stack] {outcome : Except Failure (List Written)}
    (h : emit host generator writer c w = (outcome, w')) (results : List FormatResult) :
    ∃ stage, Reports stage outcome ∧ Pool.Runs (step host generator writer) ⟨w, results⟩
      [⟨c, .waiting⟩] ⟨w', results ++ stage.formats⟩ [⟨c, stage⟩] := by
  cases outcome with
  | ok files =>
    obtain ⟨u, w₁, hstart, h⟩ := Run.bind_ok_iff.1 h
    obtain ⟨os, w₂, hos, h⟩ := Run.bind_ok_iff.1 h
    obtain ⟨generated, rfl⟩ := Run.ofExcept_ok_iff.1 hos
    obtain ⟨written, w₃, hwritten, h⟩ := Run.bind_ok_iff.1 h
    obtain ⟨u', w₄, hend, h⟩ := Run.bind_ok_iff.1 h
    obtain ⟨rfl, rfl⟩ := Run.pure_ok_iff.1 h
    rw [← List.append_nil os] at generated
    have last : Pool.Runs (step host generator writer)
        ⟨w₃, results ++ written.filterMap Written.format⟩ [⟨c, .writing [] written⟩]
        ⟨w₄, results ++ written.filterMap Written.format⟩ [⟨c, .finished written⟩] := by
      obtain rfl := congrArg Prod.snd hend
      exact Pool.runs_of_step rfl
    refine ⟨_, .finished written, ?_⟩
    exact ((runs_begin generated hstart).trans
      (runs_writes_ok (Run.rethrow_ok hwritten))).trans last
  | error e =>
    rcases Run.bind_error_iff.1 h with h | ⟨u, w₁, hstart, h⟩
    · exact absurd h (Run.sure_record _ _ _ _ _)
    rcases Run.bind_error_iff.1 h with h | ⟨os, w₂, hos, h⟩
    · obtain ⟨reason, failed, rfl, rfl⟩ := Run.ofExcept_error_iff.1 h
      obtain rfl := congrArg Prod.snd hstart
      refine ⟨_, .stopped _ [], Pool.runs_of_step ?_⟩
      rw [show (Stage.stopped _ []).formats = [] from rfl, List.append_nil]
      simp only [step, failed]
      rfl
    obtain ⟨generated, rfl⟩ := Run.ofExcept_ok_iff.1 hos
    rcases Run.bind_error_iff.1 h with h | ⟨files, w₃, -, h⟩
    · obtain ⟨reason, hfailed, rfl⟩ := Run.rethrow_error h
      obtain ⟨front, o, back, new, w₃, rfl, hfront, hrefused⟩ := Run.mapM_error hfailed
      refine ⟨_, .stopped _ new, ?_⟩
      have first : Pool.Runs (step host generator writer) ⟨w, results⟩ [⟨c, .waiting⟩] ⟨w₁, results⟩
          [⟨c, .writing (front ++ o :: back) []⟩] := runs_begin generated hstart
      exact (first.trans (runs_writes_ok hfront)).trans (runs_write_error hrefused)
    · rcases Run.bind_error_iff.1 h with h | ⟨_, w₄, -, h⟩
      · exact absurd h (Run.sure_record _ _ _ _ _)
      · exact absurd h (Run.sure_pure _ _ _ _)

end Alone

/-! ## All components -/

section All

variable {components : List Component} {files : List (List Written)} {e : Failure}

/-- What becomes of a component, which stops nothing. -/
def attempt [Stack] (host : Host) (generator : Generator) (writer : Writer) (c : Component) :
    Run (Except Failure (List Written)) :=
  fun w => (.ok (emit host generator writer c w).1, (emit host generator writer c w).2)

/-- Emitting all means to attempt each, and to end with the first that failed. -/
theorem emitAll_eq [Stack] (host : Host) (generator : Generator) (writer : Writer)
    (components : List Component) : emitAll host generator writer components = (do
      let outcomes ← components.mapM (attempt host generator writer)
      outcomes.mapM (Run.ofExcept id)) := rfl

/-- All components are attempted before it is looked at what became of them. -/
theorem attempts_of_emitAll [Stack] {outcome : Except Failure (List (List Written))}
    (h : emitAll host generator writer components w = (outcome, w')) :
    ∃ outcomes w₁, components.mapM (attempt host generator writer) w = (.ok outcomes, w₁) ∧
      outcomes.mapM (Run.ofExcept id) w₁ = (outcome, w') := by
  rw [emitAll_eq] at h
  cases outcome with
  | ok files => exact Run.bind_ok_iff.1 h
  | error e =>
    rcases Run.bind_error_iff.1 h with h | looked
    · obtain ⟨front, c, back, _, w₁, -, -, h⟩ := Run.mapM_error h
      cases h
    · exact looked

/-- The results of a task stand in front of those of the tasks behind it. -/
theorem formats_cons (t : Task) (tasks : List Task) (results : List FormatResult) :
    results ++ (t :: tasks).flatMap (fun t => t.stage.formats) =
      results ++ t.stage.formats ++ tasks.flatMap fun t => t.stage.formats := by
  rw [List.flatMap_cons, List.append_assoc]

/-- Components are emitted one after another. -/
theorem runs_mapM_emit [Stack]
    (h : components.mapM (emit host generator writer) w = (.ok files, w'))
    (results : List FormatResult) : ∃ tasks, Ends tasks (.ok files) ∧
      Pool.Runs (step host generator writer) ⟨w, results⟩ (waiting components)
        ⟨w', results ++ tasks.flatMap fun t => t.stage.formats⟩ tasks := by
  induction components generalizing w results files with
  | nil =>
    obtain ⟨none, rfl⟩ := Run.pure_ok_iff.1 h
    obtain rfl : [] = files := none
    refine ⟨[], .nil, ?_⟩
    rw [List.flatMap_nil, List.append_nil]
    exact .refl
  | cons c components ih =>
    obtain ⟨first, w₁, rest, hfirst, hrest, rfl⟩ := Run.mapM_cons_ok_iff.1 h
    obtain ⟨stage, ⟨⟩, one⟩ := runs_emit hfirst results
    obtain ⟨tasks, ends, later⟩ := ih hrest (results ++ (Stage.finished first).formats)
    refine ⟨⟨c, .finished first⟩ :: tasks, .ok ends, ?_⟩
    rw [formats_cons]
    exact one.append later

/-- Components are emitted one after another, whatever becomes of each. -/
theorem runs_attempts [Stack] {outcomes : List (Except Failure (List Written))}
    (h : components.mapM (attempt host generator writer) w = (.ok outcomes, w'))
    (results : List FormatResult) : ∃ tasks,
      List.Forall₂ (fun t outcome => Reports t.stage outcome) tasks outcomes ∧
      Pool.Runs (step host generator writer) ⟨w, results⟩ (waiting components)
        ⟨w', results ++ tasks.flatMap fun t => t.stage.formats⟩ tasks := by
  induction components generalizing w results outcomes with
  | nil =>
    obtain ⟨none, rfl⟩ := Run.pure_ok_iff.1 h
    obtain rfl : [] = outcomes := none
    refine ⟨[], .nil, ?_⟩
    rw [List.flatMap_nil, List.append_nil]
    exact .refl
  | cons c components ih =>
    obtain ⟨first, w₁, rest, hfirst, hrest, rfl⟩ := Run.mapM_cons_ok_iff.1 h
    obtain ⟨houtcome, hworld⟩ := Prod.mk.inj hfirst
    have emitted : emit host generator writer c w = (first, w₁) :=
      Prod.ext (Except.ok.inj houtcome) hworld
    obtain ⟨stage, reports, one⟩ := runs_emit emitted results
    obtain ⟨tasks, all, later⟩ := ih hrest (results ++ stage.formats)
    refine ⟨⟨c, stage⟩ :: tasks, .cons reports all, ?_⟩
    rw [formats_cons]
    exact one.append later

/-- A task that has something to report is over. -/
theorem Reports.isOver {stage : Stage} {outcome : Except Failure (List Written)}
    (h : Reports stage outcome) : stage.isOver = true := by
  cases h <;> rfl

/-- Tasks that are over are reported by the first failure, or by all files. -/
theorem ends_of_reports {tasks : List Task} {outcomes : List (Except Failure (List Written))}
    (h : List.Forall₂ (fun t outcome => Reports t.stage outcome) tasks outcomes)
    {outcome : Except Failure (List (List Written))}
    (looked : outcomes.mapM (Run.ofExcept id) w = (outcome, w')) :
    w' = w ∧ Ends tasks outcome := by
  induction h generalizing outcome with
  | nil =>
    obtain ⟨rfl, rfl⟩ := Prod.mk.inj looked
    exact ⟨rfl, .nil⟩
  | @cons t first tasks outcomes reports all ih =>
    obtain ⟨c, stage⟩ := t
    cases reports with
    | finished files =>
      cases outcome with
      | ok more =>
        obtain ⟨_, w₁, rest, hfirst, hrest, rfl⟩ := Run.mapM_cons_ok_iff.1 looked
        obtain ⟨⟩ := hfirst
        obtain ⟨rfl, ends⟩ := ih hrest
        exact ⟨rfl, .ok ends⟩
      | error e =>
        rw [List.mapM_cons] at looked
        rcases Run.bind_error_iff.1 looked with h | ⟨_, w₁, hfirst, h⟩
        · cases h
        · obtain ⟨⟩ := hfirst
          rcases Run.bind_error_iff.1 h with h | ⟨_, w₂, -, h⟩
          · obtain ⟨rfl, ends⟩ := ih h
            exact ⟨rfl, .later ends⟩
          · cases h
    | stopped e files =>
      rw [List.mapM_cons] at looked
      obtain ⟨rfl, rfl⟩ := Prod.mk.inj looked
      refine ⟨rfl, .first fun t ht => .inr ?_⟩
      obtain ⟨outcome, reports⟩ := Outcome.exists_of_forall₂ all t ht
      exact reports.isOver

/-- Writing takes the components in turn, or hands them to workers, and then records how much there
was. -/
theorem write_eq [Stack] (host : Host) (generator : Generator) (writer : Writer) (workers : Int)
    (components : List Component) : write host generator writer workers components =
      (if 1 < workers then emitAll host generator writer components
        else components.mapM (emit host generator writer)) >>= fun files => do
      record host .info ("Generated " ++ toString (Report.ofWritten files.flatten).written.length ++
        " files for " ++ toString components.length ++ " components")
      return Report.ofWritten files.flatten := by
  unfold write
  split <;> rfl

/-- How all components are emitted is how it is done under some schedule. -/
theorem runs_emissions [Stack] {workers : Int} {outcome : Except Failure (List (List Written))}
    (h : (if 1 < workers then emitAll host generator writer components
      else components.mapM (emit host generator writer)) w = (outcome, w')) :
    ∃ tasks, Ends tasks outcome ∧ Pool.Runs (step host generator writer) ⟨w, []⟩
      (waiting components) ⟨w', tasks.flatMap fun t => t.stage.formats⟩ tasks := by
  split at h
  · obtain ⟨outcomes, w₁, hattempts, looked⟩ := attempts_of_emitAll h
    obtain ⟨tasks, reports, runs⟩ := runs_attempts hattempts []
    obtain ⟨rfl, ends⟩ := ends_of_reports reports looked
    exact ⟨tasks, ends, runs⟩
  · cases outcome with
    | ok files =>
      obtain ⟨tasks, ends, runs⟩ := runs_mapM_emit h []
      exact ⟨tasks, ends, runs⟩
    | error e =>
      obtain ⟨front, c, back, files, w₁, rfl, hfront, hc⟩ := Run.mapM_error h
      obtain ⟨tasks, ends, runs⟩ := runs_mapM_emit hfront []
      obtain ⟨stage, ⟨⟩, one⟩ := runs_emit hc (tasks.flatMap fun t => t.stage.formats)
      rename_i stopped
      have rest : ∀ t ∈ waiting back, t.stage = .waiting ∨ t.stage.isOver = true := by
        intro t ht
        obtain ⟨c', -, rfl⟩ := List.mem_map.1 ht
        exact .inl rfl
      refine ⟨tasks ++ ⟨c, .stopped e stopped⟩ :: waiting back, ends.append (.first rest), ?_⟩
      have all : waiting (front ++ c :: back) =
          waiting front ++ ([⟨c, .waiting⟩] ++ waiting back) :=
        List.map_append
      rw [all, List.flatMap_append, List.flatMap_cons, formats_waiting, List.append_nil]
      exact runs.append (one.append .refl)

/-- To write components with some number of workers is to write them under some schedule. -/
theorem scheduled_write [Stack] {workers : Int} {outcome : Except Failure Report}
    (h : write host generator writer workers components w = (outcome, w')) :
    Scheduled host generator writer components w outcome w' := by
  rw [write_eq] at h
  cases outcome with
  | ok report =>
    obtain ⟨files, w₁, hfiles, h⟩ := Run.bind_ok_iff.1 h
    obtain ⟨u, w₂, hrecord, h⟩ := Run.bind_ok_iff.1 h
    obtain ⟨rfl, rfl⟩ := Run.pure_ok_iff.1 h
    obtain ⟨tasks, ends, runs⟩ := runs_emissions hfiles
    have formats : (tasks.flatMap fun t => t.stage.formats) =
        files.flatten.filterMap Written.format := by
      rw [ends.files_eq, List.filterMap_flatten, List.map_map, List.flatMap_def]
      rfl
    have length : (Report.ofWritten files.flatten).written.length = files.flatten.length :=
      List.length_map _
    obtain rfl := congrArg Prod.snd hrecord
    rw [length, Report.ofWritten, ← formats]
    exact .ok runs.leads ends
  | error e =>
    rcases Run.bind_error_iff.1 h with hfiles | ⟨files, w₁, -, h⟩
    · obtain ⟨tasks, ends, runs⟩ := runs_emissions hfiles
      exact .error runs.leads ends
    · rcases Run.bind_error_iff.1 h with h | ⟨u, w₂, -, h⟩
      · exact absurd h (Run.sure_record _ _ _ _ _)
      · exact absurd h (Run.sure_pure _ _ _ _)

end All

end Build

end Bindery
