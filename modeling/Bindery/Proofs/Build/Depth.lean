import Bindery.Proofs.Build.Sequential

/-!
# Directories that are not there yet

An output is saved only if not too many directories are missing. In an empty file tree that is a
matter of how many names lead to it (`near_of_length`, `lacks_empty`), and below an output directory
that is there only the names below it count (`Ready.near`). So a component may be emitted after
another one has made the output directory (`emit_of_near`), and not before (`emit_of_lacks`).
-/

namespace Bindery

/-! ## Empty file trees -/

/-- The path of the root directory. -/
def Path.top : Path := ⟨.root, []⟩

namespace FileTree

variable {t : FileTree} {cwd p : Path} {q : List Text} {count : Nat}

/-- A file tree with nothing but its root directory. -/
def empty : FileTree := .dir []

/-- In an empty file tree nothing but the root directory is there. -/
theorem kind?_empty : empty.kind? q = if q = [] then some none else none := by
  cases q with
  | nil => rfl
  | cons name names => rfl

theorem steps_top (p : Path) : Path.steps .top p = p.names.map Text.canonicalName := by
  obtain ⟨origin, names⟩ := p
  cases origin <;> rfl

theorem starts_empty : Starts empty .top p := by
  have steps : Path.steps .top p.start = [] := steps_top p.start
  unfold Starts Path.place
  show empty.walk [] (Path.steps .top p.start) = .ok (Path.follow [] (Path.steps .top p.start))
  rw [steps]
  rfl

theorem Fits.up (h : Fits p) (count : Nat) : Fits (p.up count) := by
  induction count generalizing p with
  | zero => exact h
  | succ count ih => exact ih h.parent

/-- In an empty file tree every path can be written to whose names lead down. -/
theorem open_empty (fits : Fits p) (named : p.names ≠ [])
    (down : ∀ name ∈ p.names, Text.canonicalName name ≠ "..") : Open empty .top p := by
  have walked : ∀ front, front <+: p.names.map Text.canonicalName →
      Path.follow [] front = front := by
    intro front hfront
    apply Path.follow_of_down
    intro name hname
    obtain ⟨name', hname', rfl⟩ := List.mem_map.1 (hfront.subset hname)
    exact down name' hname'
  have place : Path.place .top p = p.names.map Text.canonicalName := by
    show Path.follow [] (Path.steps .top p) = _
    rw [steps_top]
    exact walked _ List.prefix_rfl
  refine ⟨fits, starts_empty, ?_, ?_, ?_⟩
  · rintro ⟨front, hfront, same⟩
    rw [steps_top] at hfront
    have above : p.parent.names.map Text.canonicalName <+: p.names.map Text.canonicalName :=
      (List.dropLast_prefix _).map _
    rw [walked front (hfront.trans above), place] at same
    have shorter := hfront.length_le
    rw [same, List.length_map, List.length_map] at shorter
    have length := p.length_names_parent
    have := List.length_pos_iff.2 named
    omega
  · intro q _ content file
    rw [kind?_empty] at file
    split at file <;> cases file
  · rw [kind?_empty, place, if_neg]
    · nofun
    · exact fun none => named (List.map_eq_nil_iff.1 none)

/-- A path with few names is near to what is there. -/
theorem near_of_length (few : p.names.length < count) : t.Near cwd p count := by
  refine ⟨p.names.length, few, .inl ?_⟩
  rw [Path.up_eq, Nat.sub_self, List.take_zero]

/-- In an empty file tree a path of several names leads nowhere: there is nothing for the first of
them, which is not the last one. -/
theorem locate_empty (fits : Fits p) (several : 1 < p.names.length)
    (down : ∀ name ∈ p.names, Text.canonicalName name ≠ "..") :
    empty.locate .top p = .error .notFound := by
  cases names : p.names with
  | nil => simp [names] at several
  | cons first rest =>
    have steps : Path.steps .top p =
        Text.canonicalName first :: rest.map Text.canonicalName := by
      rw [steps_top, names, List.map_cons]
    have nowhere : empty.walk [] (Path.steps .top p) ≠ .ok (Path.place .top p) := by
      intro walked
      have proper : [Text.canonicalName first] ≠ Path.steps .top p := by
        intro same
        rw [steps, List.cons.injEq] at same
        simp [names, List.map_eq_nil_iff.1 same.2.symm] at several
      have there := (walk_ok_iff_dirs.1 walked).2.2 _ (steps ▸ List.prefix_append [_] _) proper
      rw [Path.follow_of_down, kind?_empty] at there
      · cases there
      · intro name hname
        rw [List.mem_singleton.1 hname]
        exact down first (names ▸ List.mem_cons_self)
    have clear : ∀ front, front <+: Path.steps .top p → front ≠ Path.steps .top p →
        ∀ content, empty.kind? (Path.follow [] front) ≠ some (some content) := by
      intro front _ _ content file
      rw [kind?_empty] at file
      split at file <;> cases file
    have walked := walk_clear (starts_empty.short fits) clear
    unfold locate
    rw [fits.text]
    exact walked.resolve_left nowhere

/-- In an empty file tree a path with many names is not. -/
theorem lacks_empty (fits : Fits p) (many : count < p.names.length)
    (down : ∀ name ∈ p.names, Text.canonicalName name ≠ "..") : empty.Lacks .top p count := by
  intro k hk
  have up : (p.up k).names = p.names.take (p.names.length - k) := by rw [Path.up_eq]
  have several : 1 < (p.up k).names.length := by
    rw [up, List.length_take]
    omega
  refine ⟨List.ne_nil_of_length_pos (Nat.lt_of_succ_lt several), ?_⟩
  refine locate_empty (fits.up k) several fun name hname => down name ?_
  rw [up] at hname
  exact List.mem_of_mem_take hname

/-- A path leads to its place when there are directories on its way. -/
theorem Starts.locate_of_passes (h : Starts t cwd p) (fits : Fits p)
    (dirs : ∀ q, Path.Passes cwd p q → t.kind? q = some none) :
    t.locate cwd p = .ok (Path.place cwd p) := by
  refine locate_ok_iff.2 ⟨fits.text, walk_ok_iff_dirs.2 ⟨rfl, h.short fits, ?_⟩⟩
  intro front hfront _
  exact dirs _ ⟨front, hfront, rfl⟩

end FileTree

open FileTree Writer

variable {host : Host} {writer : Writer} {w w' : World} {o : Output}

/-- Below an output directory that is there only the directories of the output may be missing. -/
theorem Writer.Ready.near [Stack] (ready : Ready host writer w o) (laid : o.Laid)
    (there : ∀ q, Path.Passes host.cwd writer.outDir q → w.tree.kind? q = some none)
    (few : o.destination.names.length ≤ mostDirs) : Writer.Near host writer w o := by
  obtain ⟨dirs, -, destination⟩ := laid.destination
  have parent : (writer.pathOf o).parent = writer.outDir ++ (⟨.here, dirs⟩ : Path) := by
    unfold pathOf Path.parent
    rw [destination, Path.append_here, Path.append_here]
    dsimp only
    rw [← List.append_assoc, List.dropLast_concat]
  have above : (writer.pathOf o).parent.up dirs.length = writer.outDir := by
    rw [parent, Path.up_eq, Path.append_here]
    simp
  rw [destination] at few
  simp only [List.length_append, List.length_singleton] at few
  have fits : Fits writer.outDir := by
    have fits := ready.opened.fits.parent.up dirs.length
    rwa [above] at fits
  have located : w.tree.locate host.cwd writer.outDir = .ok (Path.place host.cwd writer.outDir) :=
    ((starts_pathOf_iff laid).1 ready.opened.starts).locate_of_passes fits there
  rw [← above] at located
  exact ⟨dirs.length, by omega, .inr ⟨_, located⟩⟩

namespace Writer

/-- An output that an empty file tree takes, unless too many directories are missing. -/
structure Savable (writer : Writer) (o : Output) : Prop where
  encodes : (Text.encode o.text).isOk = true
  text : (checkText (writer.pathOf o).text).isOk = true
  names : ∀ name ∈ (writer.pathOf o).names.map Text.canonicalName,
    name ≠ ".." ∧ Text.nameSize name ≤ longestName

instance (writer : Writer) (o : Output) : Decidable (Savable writer o) :=
  decidable_of_iff ((Text.encode o.text).isOk = true ∧
      (checkText (writer.pathOf o).text).isOk = true ∧
      ∀ name ∈ (writer.pathOf o).names.map Text.canonicalName,
        name ≠ ".." ∧ Text.nameSize name ≤ longestName)
    ⟨fun h => ⟨h.1, h.2.1, h.2.2⟩, fun h => ⟨h.encodes, h.text, h.names⟩⟩

namespace Savable

variable (h : Savable writer o)

include h

/-- Its path has a text, and no name in it is too long. -/
theorem fits : Fits (writer.pathOf o) where
  text := by
    obtain ⟨u, same⟩ := Outcome.exists_of_isOk h.text
    exact same
  short name hname := .inr (h.names name hname).2

theorem down : ∀ name ∈ (writer.pathOf o).names, Text.canonicalName name ≠ ".." :=
  fun _ hname => (h.names _ (List.mem_map_of_mem hname)).1

/-- In an empty file tree it can be saved. -/
theorem ready (laid : o.Laid) (cwd : host.cwd = .top) (fresh : w.tree = .empty) :
    Ready host writer w o := by
  obtain ⟨bytes, encodes⟩ := Outcome.exists_of_isOk h.encodes
  refine ⟨⟨bytes, encodes⟩, ?_⟩
  rw [cwd, fresh]
  refine open_empty h.fits ?_ h.down
  obtain ⟨dirs, -, names⟩ := laid.names_append writer.outDir
  unfold pathOf
  rw [names]
  simp

end Savable

end Writer

namespace Run

/-- A failure is renamed. -/
theorem rethrow_of_error {α : Type} {x : Run α} {rename : Failure → Failure} {e : Failure}
    (h : x w = (.error e, w')) :
    tryCatch x (fun e => throw (rename e)) w = (.error (rename e), w') := by
  have caught : tryCatch x (fun e => throw (rename e)) w =
      tryCatch (ended (x w).1) (fun e => throw (rename e)) (x w).2 := rfl
  rw [caught, h]
  rfl

end Run

namespace Build

variable {generator : Generator} {c : Component} {components back : List Component}

/-- A component whose outputs can be saved and formatted is emitted, when not too many directories
are missing. -/
theorem emit_of_near [Stack] (independent : Independent host writer (c :: back))
    (generated : outputs generator c = .ok (planned generator c))
    (ready : ∀ o ∈ planned generator c, Ready host writer w o)
    (formattable : ∀ o ∈ planned generator c, Formattable host writer o)
    (near : ∀ o ∈ planned generator c, Writer.Near host writer w o) :
    ∃ files w', emit host generator writer c w = (.ok files, w') ∧
      World.Within host writer (plan generator (c :: back))
        ((plan generator (c :: back)).map (writer.placeOf host)) w w' ∧
      Settled host writer w w' (planned generator c) := by
  cases emitted : emit host generator writer c w with
  | mk outcome w' =>
    obtain ⟨stage, reports, runs⟩ := runs_emit emitted []
    have leads : Pool.Leads (step host generator writer) (start (c :: back) w)
        ⟨⟨w', [] ++ stage.formats⟩, ⟨c, stage⟩ :: waiting back⟩ := runs [] (waiting back)
    have sound := sound_of_leads independent .refl leads
    have progress : Progress host generator writer w w' c stage :=
      sound.progress _ List.mem_cons_self
    cases reports with
    | finished files =>
      obtain ⟨-, settled, -⟩ := progress_finished progress
      exact ⟨files, w', rfl, sound.within, settled⟩
    | stopped e files =>
      rcases progress_stopped progress with ⟨reason, failed, -⟩ | ⟨-, o, ho, deep⟩
      · rw [failed] at generated
        cases generated
      · exact absurd (near o ho) (deep (ready o ho) (formattable o ho)).2

/-- Without a file for the log, recording leaves the file tree. -/
theorem tree_record (unlogged : w.log.file = none) (host : Host) (r : Record) :
    (w.record host r).tree = w.tree := by
  unfold World.record
  rw [unlogged]

/-- A component with too many missing directories is not emitted, and nothing changes. -/
theorem emit_of_lacks [Stack] {os : List Output} (unlogged : w.log.file = none)
    (generated : outputs generator c = .ok (o :: os))
    (lacks : w.tree.Lacks host.cwd (writer.pathOf o).parent mostDirs) :
    ∃ path w', emit host generator writer c w = (.error (.file ⟨.tooDeep, path⟩), w') ∧
      w'.tree = w.tree ∧ w'.log.file = none := by
  let begun := w.record host ⟨.info, "Generating bindings for " ++ c.interface.component,
    "orchestrator", c.interface.component⟩
  have tree : begun.tree = w.tree := tree_record unlogged host _
  have file : begun.log.file = none := (World.record_keeps host _ w).file.trans unlogged
  obtain ⟨path, unsaved⟩ : ∃ path, writer.save host o begun =
      (.error (.file ⟨.tooDeep, path⟩), begun) := by
    apply save_of_lacks
    rw [tree]
    exact lacks
  have unwritten : writer.write host o begun = (.error (.file ⟨.tooDeep, path⟩), begun) := by
    rw [write_eq_save]
    exact Run.bind_error_iff.2 (.inl unsaved)
  have stopped : (o :: os).mapM (writer.write host) begun =
      (.error (.file ⟨.tooDeep, path⟩), begun) := by
    rw [List.mapM_cons]
    exact Run.bind_error_iff.2 (.inl unwritten)
  have blames : tryCatch ((o :: os).mapM (writer.write host))
      (fun e => throw (blamed c.interface.component e)) begun =
        (.error (.file ⟨.tooDeep, path⟩), begun) := Run.rethrow_of_error stopped
  refine ⟨path, begun, ?_, tree, file⟩
  have recorded : record host .info ("Generating bindings for " ++ c.interface.component)
      c.interface.component w = (.ok (), begun) := rfl
  have found : Run.ofExcept Failure.build (outputs generator c) begun =
      (.ok (o :: os), begun) := Run.ofExcept_ok_iff.2 ⟨generated, rfl⟩
  unfold emit
  rw [Run.bind_of_ok recorded, Run.bind_of_ok found]
  exact Run.bind_error_iff.2 (.inl blames)

/-- Two components may be emitted in the other order. -/
theorem scheduled_swapped [Stack] {c c' : Component} {w₁ w₂ : World}
    {outcome outcome' : Except Failure (List Written)}
    (h' : emit host generator writer c' w = (outcome', w₁))
    (h : emit host generator writer c w₁ = (outcome, w₂)) :
    ∃ both w₃, Scheduled host generator writer [c, c'] w both w₃ ∧
      both.map Report.written = (do
        let files ← outcome
        let files' ← outcome'
        return (files ++ files').map Written.path) ∧
      (w₂.log.file = none → w₃.tree = w₂.tree) := by
  obtain ⟨stage', reports', second⟩ := runs_emit h' []
  obtain ⟨stage, reports, first⟩ := runs_emit h ([] ++ stage'.formats)
  have waits : Pool.Runs (step host generator writer) ⟨w, []⟩ [⟨c, .waiting⟩] ⟨w, []⟩
      [⟨c, .waiting⟩] := .refl
  have leads := ((waits.append second).trans (first.append .refl)).leads
  cases reports with
  | finished files =>
    cases reports' with
    | finished files' =>
      refine ⟨_, _, .ok leads (.ok (.ok .nil)), ?_, fun unlogged => tree_record unlogged host _⟩
      show Except.ok ([files, files'].flatten.map Written.path) = _
      rw [List.flatten_cons, List.flatten_cons, List.flatten_nil, List.append_nil]
      rfl
    | stopped e stopped =>
      have rest : ∀ t ∈ ([] : List Task), t.stage = .waiting ∨ t.stage.isOver = true :=
        fun t ht => absurd ht List.not_mem_nil
      exact ⟨_, _, .error leads (.later (.first rest)), rfl, fun _ => rfl⟩
  | stopped e stopped =>
    have rest : ∀ t ∈ [(⟨c', stage'⟩ : Task)], t.stage = .waiting ∨ t.stage.isOver = true := by
      intro t ht
      rw [List.mem_singleton.1 ht]
      exact .inr reports'.isOver
    exact ⟨_, _, .error leads (.first rest), rfl, fun _ => rfl⟩

/-- Two components of which the outputs of one lie so deep that not all directories above them can
be made at once, and those of the other do not. -/
structure Deep [Stack] (generator : Generator) (writer : Writer) (near far : Component) : Prop where
  ordinary : ∀ c ∈ [near, far], c.Ordinary
  distinct : Text.bytesOf near.interface.component ≠ Text.bytesOf far.interface.component
  unformatted : writer.formats = false
  generated : ∀ c ∈ [near, far], (outputs generator c).isOk = true
  nonempty : ∀ c ∈ [near, far], planned generator c ≠ []
  savable : ∀ o ∈ plan generator [near, far], Savable writer o
  few : ∀ o ∈ planned generator near, (writer.pathOf o).names.length ≤ mostDirs
  many : ∀ o ∈ planned generator far, mostDirs + 1 < (writer.pathOf o).names.length
  below : ∀ o ∈ planned generator far, o.destination.names.length ≤ mostDirs

instance [Stack] (generator : Generator) (writer : Writer) (near far : Component) :
    Decidable (Deep generator writer near far) :=
  decidable_of_iff ((∀ c ∈ [near, far], c.Ordinary) ∧
      Text.bytesOf near.interface.component ≠ Text.bytesOf far.interface.component ∧
      writer.formats = false ∧ (∀ c ∈ [near, far], (outputs generator c).isOk = true) ∧
      (∀ c ∈ [near, far], planned generator c ≠ []) ∧
      (∀ o ∈ plan generator [near, far], Savable writer o) ∧
      (∀ o ∈ planned generator near, (writer.pathOf o).names.length ≤ mostDirs) ∧
      (∀ o ∈ planned generator far, mostDirs + 1 < (writer.pathOf o).names.length) ∧
      ∀ o ∈ planned generator far, o.destination.names.length ≤ mostDirs)
    ⟨fun ⟨ordinary, distinct, unformatted, generated, nonempty, savable, few, many, below⟩ =>
      ⟨ordinary, distinct, unformatted, generated, nonempty, savable, few, many, below⟩,
    fun h => ⟨h.ordinary, h.distinct, h.unformatted, h.generated, h.nonempty, h.savable, h.few,
      h.many, h.below⟩⟩

namespace Deep

variable {near far : Component}

section

variable [Stack] (h : Deep generator writer near far)

include h

/-- Neither of the two components gets in the way of the other. -/
theorem independent (host : Host) : Independent host writer [near, far] where
  steady formats := by
    rw [h.unformatted] at formats
    cases formats
  ordinary := h.ordinary
  distinct := by simpa using h.distinct

theorem laid : ∀ o ∈ plan generator [near, far], o.Laid := laid_of_mem_plan h.ordinary

theorem ready (cwd : host.cwd = .top) (fresh : w.tree = .empty) :
    ∀ o ∈ plan generator [near, far], Ready host writer w o :=
  fun o ho => (h.savable o ho).ready (h.laid o ho) cwd fresh

/-- Nothing is formatted, so the formatter breaks over nothing. -/
theorem formattable (host : Host) (o : Output) : Formattable host writer o := by
  intro formats
  rw [h.unformatted, Bool.false_and] at formats
  cases formats

/-- In an empty file tree the one component can be emitted. -/
theorem emit_near (cwd : host.cwd = .top) (fresh : w.tree = .empty) :
    ∃ files w', emit host generator writer near w = (.ok files, w') ∧
      World.Within host writer (plan generator [near, far])
        ((plan generator [near, far]).map (writer.placeOf host)) w w' ∧
      Settled host writer w w' (planned generator near) := by
  have few : ∀ o ∈ planned generator near, Writer.Near host writer w o := by
    intro o ho
    apply near_of_length
    have few := h.few o ho
    have length := (writer.pathOf o).length_names_parent
    have positive : 0 < mostDirs := Stack.dirs_pos
    omega
  exact emit_of_near (h.independent host) (planned_of_isOk (h.generated near List.mem_cons_self))
    (fun o ho => h.ready cwd fresh o (mem_plan List.mem_cons_self ho))
    (fun o _ => h.formattable host o) few

/-- After that the other one can be. -/
theorem emit_both (cwd : host.cwd = .top) (fresh : w.tree = .empty) :
    ∃ files w₁ files' w₂, emit host generator writer near w = (.ok files, w₁) ∧
      emit host generator writer far w₁ = (.ok files', w₂) := by
  obtain ⟨files, w₁, emitted, within, settled⟩ := h.emit_near cwd fresh
  have ready : ∀ o ∈ planned generator far, Ready host writer w₁ o := fun o ho =>
    within.ready h.laid (mem_plan (by simp) ho) (h.ready cwd fresh o (mem_plan (by simp) ho))
  have there : ∀ q, Path.Passes host.cwd writer.outDir q → w₁.tree.kind? q = some none := by
    intro q way
    obtain ⟨o, ho⟩ := List.exists_mem_of_ne_nil _ (h.nonempty near List.mem_cons_self)
    exact (settled o ho).2.dirs q ((h.laid o (mem_plan List.mem_cons_self ho)).passes_parent way)
  have alone : Independent host writer [far] :=
    ⟨(h.independent host).steady, fun c hc => h.ordinary c (List.mem_cons_of_mem _ hc), by simp⟩
  obtain ⟨files', w₂, emitted', -⟩ := emit_of_near alone
    (planned_of_isOk (h.generated far (by simp))) ready (fun o _ => h.formattable host o)
    fun o ho => (ready o ho).near (h.laid o (mem_plan (by simp) ho)) there (h.below o ho)
  exact ⟨files, w₁, files', w₂, emitted, emitted'⟩

/-- Before that it cannot be. -/
theorem emit_far (cwd : host.cwd = .top) (fresh : w.tree = .empty) (unlogged : w.log.file = none) :
    ∃ path w', emit host generator writer far w = (.error (.file ⟨.tooDeep, path⟩), w') ∧
      w'.tree = .empty ∧ w'.log.file = none := by
  obtain ⟨o, os, planned⟩ := List.exists_cons_of_ne_nil (h.nonempty far (by simp))
  have generated := planned_of_isOk (h.generated far (by simp))
  have member : o ∈ Build.planned generator far := planned ▸ List.mem_cons_self
  have savable := h.savable o (mem_plan (by simp) member)
  rw [planned] at generated
  have lacks : w.tree.Lacks host.cwd (writer.pathOf o).parent mostDirs := by
    rw [cwd, fresh]
    refine lacks_empty savable.fits.parent ?_ ?_
    · have many := h.many o member
      have length := (writer.pathOf o).length_names_parent
      omega
    · exact fun name hname => savable.down name (List.dropLast_subset _ hname)
  obtain ⟨path, w', emitted, tree, file⟩ := emit_of_lacks unlogged generated lacks
  exact ⟨path, w', emitted, tree.trans fresh, file⟩

/-- So a build goes well that takes the one component first. -/
theorem write_in_order (cwd : host.cwd = .top) (fresh : w.tree = .empty) :
    ∃ report w', write host generator writer 1 [near, far] w = (.ok report, w') := by
  obtain ⟨files, w₁, files', w₂, first, second⟩ := h.emit_both cwd fresh
  have emitted : [near, far].mapM (emit host generator writer) w = (.ok [files, files'], w₂) := by
    refine Run.mapM_cons_ok_iff.2 ⟨files, w₁, [files'], first, ?_, rfl⟩
    exact Run.mapM_cons_ok_iff.2 ⟨files', w₂, [], second, rfl, rfl⟩
  rw [write_eq, if_neg (by decide), Run.bind_of_ok emitted]
  exact ⟨_, _, rfl⟩

/-- A build that takes the other one first fails. -/
theorem write_far_first (cwd : host.cwd = .top) (fresh : w.tree = .empty)
    (unlogged : w.log.file = none) :
    ∃ path w', write host generator writer 1 [far, near] w =
      (.error (.file ⟨.tooDeep, path⟩), w') := by
  obtain ⟨path, w', emitted, -⟩ := h.emit_far cwd fresh unlogged
  have stopped : [far, near].mapM (emit host generator writer) w =
      (.error (.file ⟨.tooDeep, path⟩), w') := by
    rw [List.mapM_cons]
    exact Run.bind_error_iff.2 (.inl emitted)
  refine ⟨path, w', ?_⟩
  rw [write_eq, if_neg (by decide)]
  exact Run.bind_error_iff.2 (.inl stopped)

/-- And so does one that emits both side by side, but the other one first. -/
theorem scheduled_far_first (cwd : host.cwd = .top) (fresh : w.tree = .empty)
    (unlogged : w.log.file = none) :
    ∃ path w', Scheduled host generator writer [near, far] w
      (.error (.file ⟨.tooDeep, path⟩)) w' := by
  obtain ⟨path, w₁, failed, tree, -⟩ := h.emit_far cwd fresh unlogged
  obtain ⟨files, w₂, emitted, -⟩ := h.emit_near cwd tree
  obtain ⟨both, w', scheduled, written, -⟩ := scheduled_swapped failed emitted
  cases both with
  | ok report => cases written
  | error e =>
    obtain rfl : e = .file ⟨.tooDeep, path⟩ := Except.error.inj written
    exact ⟨path, w', scheduled⟩

end

end Deep

end Build

end Bindery
