import Bindery.Proofs.CommandLine.Ending
import Bindery.Proofs.FileTree.Alike

/-!
# A merge that fails before it writes

The merging command has the text of what it merged before it touches a file (`mergeAndSave_eq`).
Whatever fails until then, from the documents it loads to the notation it chooses, leaves every file
and directory as it was, but for what keeping a log does: the log file, and the directories it is
in (`untouched_of_unprepared`).
-/

namespace Bindery

open Outcome FileTree Run

/-! ## What keeping a log does -/

/-- Where a log file is. -/
def logPlace (cwd path : Path) : List Text := Path.place cwd (Path.settled cwd path)

/-- A tree and a later one that has directories on the way to a log file, and the log file, and is
otherwise what it was. -/
structure FileTree.OnlyLogged (cwd path : Path) (t t' : FileTree) : Prop where
  spreads : Spreads (Path.Passes cwd path.parent) (· = logPlace cwd path) t t'
  grows : Grows [logPlace cwd path] t t'

namespace FileTree

variable {t t' t'' : FileTree} {cwd path : Path}

/-- When two steps only log, so do both together. -/
theorem OnlyLogged.trans (h : OnlyLogged cwd path t t') (h' : OnlyLogged cwd path t' t'') :
    OnlyLogged cwd path t t'' :=
  ⟨h.spreads.trans h'.spreads, (h.grows.trans h'.grows).mono (by simp)⟩

/-- Making the directories of a log file. -/
theorem onlyLogged_makeDirs [Stack] (t : FileTree) (cwd path : Path) :
    OnlyLogged cwd path t (t.makeDirs cwd path.parent).1 :=
  ⟨spreads_makeDirsWithin mostDirs, (makeDirsWithin_grows mostDirs).mono (List.nil_subset _)⟩

/-- Opening the log file. -/
theorem onlyLogged_openFile {names : List Text}
    (h : t.openFile cwd (Path.settled cwd path) = .ok (t', names)) :
    names = logPlace cwd path ∧ OnlyLogged cwd path t t' := by
  obtain ⟨rfl, ⟨_, -, rfl⟩ | ⟨none, above, rfl⟩⟩ := openFile_cases h
  · exact ⟨rfl, .refl, .refl⟩
  · have vacant : t.kind? (logPlace cwd path) ≠ some Option.none := by
      rw [logPlace, none]
      exact nofun
    exact ⟨rfl, spreads_place_file above vacant rfl,
      grows_place above vacant fun _ => kind?_leaf_file⟩

/-- Adding to the log file. -/
theorem onlyLogged_of_sameBut (h : SameBut (some (logPlace cwd path)) t t') :
    OnlyLogged cwd path t t' := by
  have dirs (q : List Text) (dir : t.kind? q = some none) : t'.kind? q = some none := by
    rcases h.kind?_cases q with ⟨none, -⟩ | ⟨-, dir'⟩ | ⟨c, c', file, -⟩
    · simp [none] at dir
    · exact dir'
    · simp [file] at dir
  refine ⟨⟨dirs, fun q content file => ?_, fun q vacant => .inl ?_⟩, ⟨dirs, fun q apart => .inl ?_⟩⟩
  · rcases h.kind?_cases q with ⟨none, -⟩ | ⟨dir, -⟩ | ⟨c, c', -, file'⟩
    · simp [none] at file
    · simp [dir] at file
    · exact ⟨c', file'⟩
  · rcases h.kind?_cases q with ⟨-, none⟩ | ⟨dir, -⟩ | ⟨c, c', file, -⟩
    · exact none
    · simp [dir] at vacant
    · simp [file] at vacant
  · exact h.kind?_eq (by simpa using apart)

end FileTree

/-- A tree and a later one between which nothing was done but to keep the log that was asked for. -/
def OnlyLogging (host : Host) (logFile : Option Path.Wanted) (t t' : FileTree) : Prop :=
  match logFile with
  | none => t' = t
  | some wanted =>
    ∃ path, wanted.bind host.expand = .ok path ∧ OnlyLogged host.cwd path t t'

/-- Setting up the log without a file changes the log alone, and with one it makes the directories
that the file is in and opens it. -/
theorem World.setUpLog_cases [Stack] {host : Host} {verbose : Bool} {logFile : Option Path.Wanted}
    {w w' : World} (h : w.setUpLog host verbose logFile = (w', .ok ())) :
    let style := if verbose then Style.full else .brief
    logFile = none ∧
        w' = { w with log := { w.log with style, file := none, threshold := style.level } } ∨
      ∃ wanted path t t', logFile = some wanted ∧ wanted.bind host.expand = .ok path ∧
        w.tree.makeDirs host.cwd path.parent = (t, .ok ()) ∧
        t.openFile host.cwd (Path.settled host.cwd path) = .ok (t', logPlace host.cwd path) ∧
        w' = { w with tree := t', log := { w.log with
          style, file := some (logPlace host.cwd path), threshold := .debug } } := by
  unfold World.setUpLog at h
  cases logFile with
  | none =>
    obtain ⟨rfl, -⟩ := Prod.mk.inj h
    exact .inl ⟨rfl, rfl⟩
  | some wanted =>
    dsimp only at h
    split at h
    · cases h
    · rename_i path expanded
      split at h
      · cases h
      · rename_i t made
        split at h
        · cases h
        · rename_i t' names opened
          obtain ⟨rfl, -⟩ := openFile_cases opened
          obtain ⟨rfl, -⟩ := Prod.mk.inj h
          exact .inr ⟨wanted, path, t, t', rfl, expanded, made, opened, rfl⟩

/-- Setting up the log, and then doing nothing but keeping it. -/
theorem onlyLogging_of_setUpLog [Stack] {host : Host} {verbose : Bool}
    {logFile : Option Path.Wanted}
    {w w' : World} {t : FileTree} (h : w.setUpLog host verbose logFile = (w', .ok ()))
    (same : SameBut w'.log.file w'.tree t) : OnlyLogging host logFile w.tree t := by
  obtain ⟨rfl, rfl⟩ | ⟨wanted, path, t₁, t₂, rfl, expanded, hdirs, opened, rfl⟩ :=
    World.setUpLog_cases h
  · exact Eq.symm same
  · have made := onlyLogged_makeDirs w.tree host.cwd path
    rw [hdirs] at made
    exact ⟨path, expanded,
      (made.trans (onlyLogged_openFile opened).2).trans (onlyLogged_of_sameBut same)⟩

/-! ## What comes before a file is written -/

namespace CommandLine

open Build (bareHost)

variable {host : Host} {args : MergeArguments} {w w' : World} {e : Failure}

/-- Everything that a merge does before it writes: it loads the configuration, selects its section,
combines it with what is supplied and what it finds in other configurations, chooses the notation
of the result and makes its text. -/
def prepare [Stack] (host : Host) (args : MergeArguments) : Run (Path × Text) := do
  let base ← args.config.mapM (loadDocument host)
  let merged ← Merge.merge base args.supplied (harvestOf host args)
  let output ← Run.ofExcept Failure.fault args.output
  let text ← Run.ofExcept id (merged.textFor output)
  return (output, text)

/-- Writes a text that was prepared. -/
def writePrepared [Stack] (host : Host) (prepared : Path × Text) : Run Path := do
  Run.changeTree Failure.file fun tree => tree.writeText host.cwd prepared.1 prepared.2
  return prepared.1

/-- A merge prepares its text, and then writes it. -/
theorem mergeAndSave_eq [Stack] (host : Host) (args : MergeArguments) :
    mergeAndSave host args = prepare host args >>= writePrepared host := by
  simp only [mergeAndSave, prepare, bind_assoc, pure_bind]
  refine bind_congr fun base => bind_congr fun merged => bind_congr fun output => ?_
  funext w
  show (Run.ofExcept id (merged.save host output w.tree).2 >>= fun _ => pure output)
    { w with tree := (merged.save host output w.tree).1 } = _
  rw [Document.save]
  -- Without a text the tree that is set is the one that was there.
  cases merged.textFor output with
  | error e => rfl
  | ok text =>
    have told (outcome : Except FileError Unit) :
        Run.ofExcept id (outcome.mapError Failure.file) = Run.ofExcept Failure.file outcome := by
      cases outcome <;> rfl
    dsimp only
    rw [told]
    rfl

/-- What fails before a file is written has changed nothing but what is recorded. -/
theorem alike_of_prepare_error [Stack] (h : prepare host args w = (.error e, w')) : w.Alike w' := by
  have loads := optionMapM_of_looks (fun file => Document.load_looks host file w) args.config
  rcases bind_error_iff.1 h with h | ⟨base, w₁, loaded, h⟩
  · obtain ⟨-, rfl⟩ := Prod.mk.inj (loads.symm.trans h)
    exact .refl w
  · obtain ⟨based, rfl⟩ := Prod.mk.inj (loads.symm.trans loaded)
    have quiet := quiet_merge based w (.refl w)
    rcases bind_error_iff.1 h with h | ⟨d, w₂, merged, h⟩
    · rw [h] at quiet
      exact quiet.1
    · rw [merged] at quiet
      rcases bind_error_iff.1 h with h | ⟨path, w₃, wanted, h⟩
      · obtain ⟨f, -, -, rfl⟩ := ofExcept_error_iff.1 h
        exact quiet.1
      · obtain ⟨-, rfl⟩ := ofExcept_ok_iff.1 wanted
        rcases bind_error_iff.1 h with h | ⟨text, w₃, -, h⟩
        · obtain ⟨_, -, -, rfl⟩ := ofExcept_error_iff.1 h
          exact quiet.1
        · cases h

/-- A merge that fails before it writes ends the run with that failure. Of the tree nothing has
changed but what keeping the log did. -/
theorem untouched_of_unprepared [Stack] {argv : List Text} {i : Invocation} {w₁ w₂ : World}
    (accepted : Invocation.parse argv = .ok i) (command : i.command = .merge args)
    (logging : w.setUpLog host i.verbose i.logFile = (w₁, .ok ()))
    (failed : prepare host args w₁ = (.error e, w₂)) :
    (∃ ending, run host argv w = (ending, w₂) ∧
      (ending = .escaped e ∨
        ∃ reason, ending = .failed ("kmpbindgen merge-config failed: " ++ reason))) ∧
      OnlyLogging host i.logFile w.tree w₂.tree := by
  refine ⟨?_, onlyLogging_of_setUpLog logging (alike_of_prepare_error failed).tree⟩
  have ends : mergeAndSave host args w₁ = (.error e, w₂) := by
    rw [mergeAndSave_eq]
    exact bind_of_error failed
  have runs : run host argv w = merge host args w₁ := by
    unfold run execute
    rw [accepted]
    dsimp only
    rw [logging]
    dsimp only
    rw [command]
  have merges : merge host args w₁ =
      ((mergeReason? e).elim (.escaped e) fun reason => .failed (failedMessage mergeName reason),
        w₂) := by
    unfold merge
    rw [show (mergeAndSave host args).run w₁ = (.error e, w₂) from ends]
    dsimp only
    cases mergeReason? e with
    | none => rfl
    | some reason => rfl
  rw [runs, merges]
  cases mergeReason? e with
  | none => exact ⟨_, rfl, .inl rfl⟩
  | some reason => exact ⟨_, rfl, .inr ⟨reason, rfl⟩⟩

/-- Whether arguments are for a merge that fails before it writes. -/
def unprepared [Stack] (host : Host) (argv : List Text) (w : World) : Bool :=
  match Invocation.parse argv with
  | .ok ⟨verbose, logFile, .merge args⟩ =>
    match w.setUpLog host verbose logFile with
    | (w₁, .ok ()) => !(prepare host args w₁).1.isOk
    | _ => false
  | _ => false

/-- A world with one file. -/
def keptWorld (name : Text) : World where
  tree := .dir [(name, .file ⟨#[104, 105]⟩)]

/-- Arguments for merging into a file that has no notation, with a log. -/
def loggedMerge : List Text := "--log-file" :: "logs/run.log" :: mergeInto "m.txt"

/-- Arguments for merging a name without an encoding. -/
def unencodableMerge : List Text :=
  ["merge-config", "-o", "m.toml", "--crate-name", [.surrogate 0x4ff]]

/-- Where the ending of the output stands for no notation, a merge with a log changes nothing
else. -/
theorem untouched_of_unprepared_ending :
    ∃ i args w₁ e w₂, Invocation.parse loggedMerge = .ok i ∧ i.command = .merge args ∧
      (keptWorld "m.txt").setUpLog bareHost i.verbose i.logFile = (w₁, .ok ()) ∧
      prepare bareHost args w₁ = (.error e, w₂) ∧
      (run bareHost loggedMerge (keptWorld "m.txt")).2 = w₂ ∧
      OnlyLogging bareHost i.logFile (keptWorld "m.txt").tree w₂.tree := by
  have fails : unprepared bareHost loggedMerge (keptWorld "m.txt") = true := by decide +kernel
  unfold unprepared at fails
  split at fails
  · rename_i verbose logFile args accepted
    split at fails
    · rename_i w₁ logging
      cases failed : prepare bareHost args w₁ with
      | mk outcome w₂ =>
        rw [failed] at fails
        cases outcome with
        | ok prepared => cases fails
        | error e =>
          obtain ⟨⟨ending, runs, -⟩, untouched⟩ :=
            untouched_of_unprepared accepted rfl logging failed
          exact ⟨_, args, w₁, e, w₂, accepted, rfl, logging, failed, by rw [runs], untouched⟩
    · cases fails
  · cases fails

/-- A merge that fails can leave the directory of its log. Where what fails is to encode the text,
the file that was there is empty. -/
theorem failed_merges_leave_traces :
    ((run bareHost loggedMerge (keptWorld "m.txt")).1.status? = some 1 ∧
      (keptWorld "m.txt").tree.kind? ["logs"] = none ∧
      (run bareHost loggedMerge (keptWorld "m.txt")).2.tree.kind? ["logs"] = some none) ∧
    (∃ f, (run bareHost unencodableMerge (keptWorld "m.toml")).1 = .escaped f) ∧
      (keptWorld "m.toml").tree.kind? ["m.toml"] = some (some ⟨#[104, 105]⟩) ∧
      (run bareHost unencodableMerge (keptWorld "m.toml")).2.tree.kind? ["m.toml"] =
        some (some ByteArray.empty) :=
  ⟨⟨by decide +kernel, by decide +kernel, by decide +kernel⟩,
    Ending.escaped_of_isEscaped (by decide +kernel), by decide +kernel, by decide +kernel⟩

end CommandLine

end Bindery
