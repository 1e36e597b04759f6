import Bindery.Proofs.CommandLine.Untouched

/-!
# Where records go

A log may be set up again and again, and messages are logged in between. A record goes to the places
that the log was last set up for, and to no others: as one line to the console, when it is grave
enough for it, and as one line to the log file, when there is one. What a single step does is said
by `Log.InForce.setUp` and `Log.InForce.record`. What a whole history comes to follows by induction
(`Log.delivered_once`): the console has got the lines that the settings in force asked for, one
after another, and each file holds what it held before, and then the records that were logged while
it was the log file.

For this a record has to find the log. One of a part whose name begins with a dot may miss it
(`Log.stray_unheard`).
-/

namespace Bindery

open Outcome FileTree

/-! ## What a file holds -/

namespace FileTree

variable {t t' : FileTree} {cwd p : Path} {names : List Text}

/-- What the file at a place holds, nothing where there is no file. -/
def held (t : FileTree) (place : List Text) : ByteArray :=
  (t.kind? place).join.getD ByteArray.empty

/-- There is a file at a place. -/
def IsFile (t : FileTree) (place : List Text) : Prop :=
  ∃ content, t.kind? place = some (some content)

/-- Where no file is touched, each file holds what it held, and is one still. -/
theorem Grows.keeps_files (h : Grows [] t t') (place : List Text) :
    t'.held place = t.held place ∧ (t.IsFile place → t'.IsFile place) := by
  unfold held IsFile
  rcases h.rest place List.not_mem_nil with same | ⟨none, dir⟩
  · rw [same]
    exact ⟨rfl, id⟩
  · rw [none, dir]
    exact ⟨rfl, nofun⟩

/-- A file that is put where no directory is holds its content, and all else is what it was. -/
theorem held_place_file (content : ByteArray)
    (above : names = [] ∨ t.kind? names.dropLast = some none) (vacant : t.kind? names ≠ some none)
    (place : List Text) :
    (FileTree.place (.file content) names t).held place =
        (if place = names then content else t.held place) ∧
      (t.IsFile place → (FileTree.place (.file content) names t).IsFile place) := by
  unfold held IsFile
  rw [kind?_place_file above vacant]
  split
  · exact ⟨rfl, fun _ => ⟨content, rfl⟩⟩
  · exact ⟨rfl, id⟩

/-- Opening a file changes nothing that a file holds, and then the file is there. -/
theorem openFile_keeps_files (h : t.openFile cwd p = .ok (t', names)) :
    t'.IsFile (Path.place cwd p) ∧
      ∀ place, t'.held place = t.held place ∧ (t.IsFile place → t'.IsFile place) := by
  obtain ⟨rfl, ⟨content, there, rfl⟩ | ⟨none, above, rfl⟩⟩ := openFile_cases h
  · exact ⟨⟨content, there⟩, fun _ => ⟨rfl, id⟩⟩
  · have vacant : t.kind? (Path.place cwd p) ≠ some .none := by simp [none]
    refine ⟨⟨_, (kind?_place_file above vacant _).trans (if_pos rfl)⟩, fun place => ?_⟩
    obtain ⟨held, kept⟩ := held_place_file ByteArray.empty above vacant place
    refine ⟨held.trans ?_, kept⟩
    split
    · rename_i same
      rw [same, FileTree.held, none]
      rfl
    · rfl

/-- A file that is added to holds more, and all else is what it was. -/
theorem held_extend (there : t.IsFile names) (more : ByteArray) (place : List Text) :
    (t.extend names more).held place =
        (if place = names then t.held place ++ more else t.held place) ∧
      (t.IsFile place → (t.extend names more).IsFile place) := by
  obtain ⟨content, there⟩ := there
  have extended : t.extend names more = FileTree.place (.file (content ++ more)) names t := by
    unfold extend
    rw [kind?_eq_file.1 there]
  obtain ⟨held, kept⟩ := held_place_file (content ++ more) (top_or_above there) (by simp [there])
    place
  rw [extended]
  refine ⟨held.trans ?_, kept⟩
  split
  · rename_i same
    rw [same, FileTree.held, there]
    rfl
  · rfl

end FileTree

/-! ## What is done to a log -/

namespace Log

/-- A message: how grave it is, the part of the program that it comes from and the component that it
is about, and a pattern with arguments. -/
structure Message where
  level : Level
  part : Text := ""
  component : Text := noComponent
  pattern : Text
  args : List Value := []

/-- The record of a message, when its arguments fit its pattern. -/
def Message.record? (m : Message) : Option Record :=
  (message? m.pattern m.args).map fun text => ⟨m.level, text, m.part, m.component⟩

/-- What a log is set up for: whether its console is verbose, and its file. -/
structure Settings where
  verbose : Bool
  file : Option Path.Wanted

namespace Settings

def style (s : Settings) : Style := if s.verbose then .full else .brief

/-- The place of the log file. -/
def place? (host : Host) (s : Settings) : Option (List Text) :=
  s.file.bind fun wanted => (wanted.bind host.expand).toOption.map (logPlace host.cwd)

/-- The line that the console is to get for a record. -/
def line? (s : Settings) (r : Record) : Option Text :=
  if r.level.reaches s.style.level then some (s.style.line r) else none

/-- The line that the file at a place is to get for a record. -/
def fileLine? (host : Host) (place : List Text) (now : Text) (s : Settings) (r : Record) :
    Option ByteArray :=
  if s.place? host = some place ∧ r.level.reaches .debug then
    (Text.encode (r.fileLine now)).toOption
  else none

end Settings

/-- A step in the history of a log: it is set up, or a message is logged at a moment. -/
inductive Step where
  | setUp (s : Settings)
  | log (now : Text) (m : Message)

namespace Step

def run [Stack] (host : Host) (w : World) : Step → World
  | .setUp s => (w.setUpLog host s.verbose s.file).1
  | .log now m =>
    match m.record? with
    | some r => w.record { host with now } r
    | none => w

/-- A step that can be done: the log file can be opened, or the message has a text that can be
written and comes from a part of the program whose name does not begin with a dot. -/
def Fine [Stack] (host : Host) (w : World) : Step → Prop
  | .setUp s => (w.setUpLog host s.verbose s.file).2 = .ok ()
  | .log now m => m.part.head? ≠ some (.char '.') ∧
    ∃ r line, m.record? = some r ∧ Text.encode (r.fileLine now) = .ok line

/-- The settings in force after a step. -/
def next (s : Settings) : Step → Settings
  | .setUp s' => s'
  | .log _ _ => s

/-- The step without a log file. -/
def fileless : Step → Step
  | .setUp s => .setUp { s with file := none }
  | .log now m => .log now m

/-- The line that the console is to get. -/
def shown (s : Settings) : Step → Option Text
  | .setUp _ => none
  | .log _ m => m.record?.bind s.line?

/-- The line that the file at a place is to get. -/
def filed (host : Host) (place : List Text) (s : Settings) : Step → Option ByteArray
  | .setUp _ => none
  | .log now m => m.record?.bind (s.fileLine? host place now)

end Step

namespace History

/-- The world after a history. -/
def after [Stack] (host : Host) : World → List Step → World
  | w, [] => w
  | w, step :: steps => after host (step.run host w) steps

/-- A history of steps that can be done. -/
def Fine [Stack] (host : Host) : World → List Step → Prop
  | _, [] => True
  | w, step :: steps => step.Fine host w ∧ Fine host (step.run host w) steps

/-- The settings in force after a history. -/
def settings : Settings → List Step → Settings
  | s, [] => s
  | s, step :: steps => settings (step.next s) steps

/-- What the steps of a history give, each under the settings in force. -/
def gathered {α : Type} (give : Settings → Step → Option α) : Settings → List Step → List α
  | _, [] => []
  | s, step :: steps => (give s step).toList ++ gathered give (step.next s) steps

end History

/-! ## What the log gives -/

/-- A world and a later one: the console has got some lines, and each file has got some at its end.
Files are there still. -/
structure Gives (lines : List Text) (filed : List Text → List ByteArray) (w w' : World) : Prop where
  console : w'.log.console = w.log.console ++ lines.flatten
  held : ∀ place, w'.tree.held place = (filed place).foldl (· ++ ·) (w.tree.held place)
  files : ∀ place, w.tree.IsFile place → w'.tree.IsFile place

namespace Gives

variable {lines lines' : List Text} {filed filed' : List Text → List ByteArray} {w w' w'' : World}

theorem refl (w : World) : Gives [] (fun _ => []) w w :=
  ⟨(List.append_nil _).symm, fun _ => rfl, fun _ => id⟩

/-- What two stretches of time give, one after the other, they give together. -/
theorem trans (h : Gives lines filed w w') (h' : Gives lines' filed' w' w'') :
    Gives (lines ++ lines') (fun place => filed place ++ filed' place) w w'' where
  console := by rw [h'.console, h.console, List.flatten_append, List.append_assoc]
  held place := by rw [h'.held, h.held, List.foldl_append]
  files place file := h'.files place (h.files place file)

end Gives

/-! ## Single steps -/

variable {host : Host} {s s' : Settings} {w w' : World} {r : Record} {now : Text} {line : ByteArray}

theorem foundFrom_zero (known : Nat → Bool) : foundFrom known 0 = true := rfl

/-- A record of a part whose name does not begin with a dot finds the log. -/
theorem finds_of_plain (plain : r.part.head? ≠ some (.char '.')) (l : Log) : l.finds r = true := by
  have dots : r.dots = 0 := by
    unfold Record.dots
    cases h : r.part with
    | nil => rfl
    | cons c rest =>
      have first : (c == CodePoint.char '.') = false := by
        rw [h] at plain
        simpa using plain
      rw [List.takeWhile_cons, first]
      rfl
  rw [finds, dots, foundFrom_zero]

/-- Files take records of every level. -/
theorem reaches_debug (s : Settings) : s.style.level.reaches .debug = true := by
  unfold Settings.style
  cases s.verbose <;> decide

/-- What the level of the console lets through reaches the threshold of the log. -/
theorem reaches_threshold {l : Level} (h : l.reaches s.style.level = true) :
    l.reaches (if s.file.isSome then .debug else s.style.level) = true := by
  split
  · have lowest := reaches_debug s
    simp only [Level.reaches, decide_eq_true_eq] at *
    exact Int.le_trans lowest h
  · exact h

/-- A log that was set up, and its file opened. -/
structure InForce (host : Host) (s : Settings) (w : World) : Prop where
  style : w.log.style = s.style
  file : w.log.file = s.place? host
  named : (s.place? host).isSome = s.file.isSome
  threshold : w.log.threshold = if s.file.isSome then .debug else s.style.level
  opened : ∀ place, s.place? host = some place → w.tree.IsFile place

namespace InForce

/-- Setting up the log anew leaves nothing of what was in force, and gives nothing. -/
theorem setUp [Stack] (h : (w.setUpLog host s.verbose s.file).2 = .ok ()) :
    InForce host s (w.setUpLog host s.verbose s.file).1 ∧
      Gives [] (fun _ => []) w (w.setUpLog host s.verbose s.file).1 := by
  cases ends : w.setUpLog host s.verbose s.file with
  | mk w' outcome =>
    rw [ends] at h
    obtain rfl : outcome = .ok () := h
    obtain ⟨file, rfl⟩ | ⟨wanted, path, t, t', file, expanded, made, opened, rfl⟩ :=
      World.setUpLog_cases ends
    · have place : s.place? host = none := by rw [Settings.place?, file]; rfl
      exact ⟨⟨rfl, place.symm, by rw [place, file]; rfl, by rw [file]; rfl, by simp [place]⟩,
        (List.append_nil _).symm, fun _ => rfl, fun _ => id⟩
    · have place : s.place? host = some (logPlace host.cwd path) := by
        rw [Settings.place?, file, Option.bind_some, expanded]
        rfl
      have grows : Grows [] w.tree (w.tree.makeDirs host.cwd path.parent).1 :=
        makeDirsWithin_grows mostDirs
      rw [made] at grows
      obtain ⟨there, kept⟩ := openFile_keeps_files opened
      refine ⟨⟨rfl, place.symm, by rw [place, file]; rfl, by rw [file]; rfl, fun q hq => ?_⟩,
        (List.append_nil _).symm, fun q => (kept q).1.trans (grows.keeps_files q).1,
        fun q file => (kept q).2 ((grows.keeps_files q).2 file)⟩
      obtain rfl := Option.some.inj (place.symm.trans hq)
      exact there

/-- The levels that a logger lets through are those of its sinks. -/
theorem sinkLevels_eq (h : InForce host s w) :
    w.log.sinkLevels = s.style.level :: (if s.file.isSome then [.debug] else []) := by
  rw [sinkLevels, h.style, h.file, h.named]

/-- What a logger shows of a record is the line that the settings in force make of it. -/
theorem shown_eq (h : InForce host s w) (plain : r.part.head? ≠ some (.char '.')) :
    w.log.shown r = (s.line? r).toList.flatten := by
  rw [shown, takes, if_pos (finds_of_plain plain w.log), finds_of_plain plain, h.threshold, h.style,
    Settings.line?, Bool.true_and]
  by_cases reaches : r.level.reaches s.style.level = true
  · rw [reaches_threshold reaches, reaches]
    exact (List.append_nil _).symm
  · rw [Bool.not_eq_true] at reaches
    rw [reaches, Bool.and_false]
    rfl

/-- A record goes to the console and to the log file, as far as its level reaches, and leaves the
settings in force. -/
theorem record (h : InForce host s w) (plain : r.part.head? ≠ some (.char '.'))
    (encodes : Text.encode (r.fileLine now) = .ok line) :
    InForce host s (w.record { host with now } r) ∧
      Gives (s.line? r).toList (fun place => (s.fileLine? host place now r).toList) w
        (w.record { host with now } r) := by
  have log : (w.record { host with now } r).log = w.log.display r := rfl
  have console : (w.log.display r).console = w.log.console ++ w.log.shown r := rfl
  have takes : w.log.takes r =
      r.level.reaches (if s.file.isSome then .debug else s.style.level) := by
    rw [Log.takes, finds_of_plain plain, Bool.true_and, h.threshold]
  suffices tree : ∀ place,
      (w.record { host with now } r).tree.held place =
          (s.fileLine? host place now r).toList.foldl (· ++ ·) (w.tree.held place) ∧
        (w.tree.IsFile place → (w.record { host with now } r).tree.IsFile place) from
    ⟨⟨h.style, h.file, h.named, h.threshold, fun q hq => (tree q).2 (h.opened q hq)⟩,
      by rw [log, console, h.shown_eq plain], fun q => (tree q).1, fun q => (tree q).2⟩
  intro place
  have named := h.named
  unfold World.record
  rw [h.file, takes, encodes]
  unfold Settings.fileLine?
  cases hp : s.place? host with
  | none => exact ⟨by simp, id⟩
  | some names =>
    rw [hp] at named
    rw [← named, Option.isSome_some, if_pos rfl]
    cases r.level.reaches .debug with
    | false => exact ⟨by simp, id⟩
    | true =>
      obtain ⟨held, kept⟩ := held_extend (h.opened names hp) line place
      refine ⟨held.trans ?_, kept⟩
      by_cases same : place = names
      · subst same
        simp [encodes, Except.toOption]
      · have other : ¬ (names = place) := fun e => same e.symm
        simp [same, other]

end InForce

/-! ## Histories -/

/-- A step that can be done leaves settings in force, and gives what they ask for. -/
theorem Step.Fine.gives [Stack] {step : Step} (fine : step.Fine host w) (h : InForce host s w) :
    InForce host (step.next s) (step.run host w) ∧
      Gives (step.shown s).toList (fun place => (step.filed host place s).toList) w
        (step.run host w) := by
  cases step with
  | setUp s' => exact InForce.setUp fine
  | log now m =>
    obtain ⟨plain, r, line, fits, encodes⟩ := fine
    obtain ⟨text, -, rfl⟩ := Option.map_eq_some_iff.1 fits
    have given := h.record plain encodes
    simpa only [run, next, shown, filed, fits, Option.bind_some] using given

/-- During a history each record is shown and filed as the settings in force at its time tell. -/
theorem History.Fine.gives [Stack] {steps : List Step} (fine : Fine host w steps)
    (h : InForce host s w) : InForce host (settings s steps) (after host w steps) ∧
      Gives (gathered Step.shown s steps) (fun place => gathered (Step.filed host place) s steps) w
        (after host w steps) := by
  induction steps generalizing s w with
  | nil => exact ⟨h, .refl w⟩
  | cons step steps ih =>
    obtain ⟨first, rest⟩ := fine
    obtain ⟨h, given⟩ := first.gives h
    obtain ⟨h, given'⟩ := ih rest h
    exact ⟨h, given.trans given'⟩

/-- A file that was there, or was set up for the log, is one afterwards. -/
theorem History.Fine.isFile [Stack] {steps : List Step} (fine : Fine host w steps)
    (h : InForce host s w) {place : List Text} (there : w.tree.IsFile place ∨
      ∃ s', .setUp s' ∈ steps ∧ s'.place? host = some place) :
    (after host w steps).tree.IsFile place := by
  induction steps generalizing s w with
  | nil => exact there.resolve_right (by simp)
  | cons step steps ih =>
    obtain ⟨first, rest⟩ := fine
    obtain ⟨h', given⟩ := first.gives h
    refine ih rest h' ?_
    rcases there with file | ⟨s', mem, hp⟩
    · exact .inl (given.files place file)
    · rcases List.mem_cons.1 mem with rfl | mem
      · exact .inl (h'.opened place hp)
      · exact .inr ⟨s', mem, hp⟩

/-- What can be done with log files can be done without any, in every world. -/
theorem History.Fine.fileless [Stack] {steps : List Step} (fine : Fine host w steps) (w' : World) :
    Fine host w' (steps.map Step.fileless) := by
  induction steps generalizing w w' with
  | nil => exact trivial
  | cons step steps ih =>
    obtain ⟨first, rest⟩ := fine
    refine ⟨?_, ih rest _⟩
    cases step with
    | setUp s => rfl
    | log now m => exact first

/-- What the console is to get does not depend on the log file. -/
theorem History.gathered_fileless (s : Settings) (steps : List Step) :
    gathered Step.shown { s with file := none } (steps.map Step.fileless) =
      gathered Step.shown s steps := by
  induction steps generalizing s with
  | nil => rfl
  | cons step steps ih =>
    cases step with
    | setUp s' => exact ih s'
    | log now m => exact congrArg (List.append _) (ih s)

/-- What a history that begins with setting up the log comes to, whatever was in force before. -/
theorem History.Fine.gives_anew [Stack] {steps : List Step}
    (fine : Fine host w (.setUp s :: steps)) :
    InForce host (settings s steps) (after host w (.setUp s :: steps)) ∧
      Gives (gathered Step.shown s steps) (fun place => gathered (Step.filed host place) s steps) w
        (after host w (.setUp s :: steps)) := by
  obtain ⟨first, rest⟩ := fine
  obtain ⟨h, given⟩ := InForce.setUp first
  obtain ⟨h, given'⟩ := rest.gives h
  exact ⟨h, given.trans given'⟩

/-- However often a log is set up, it has one place for records, and a second one when it was last
set up with a file. Each message that the console is to get is one line there, which is the same
without any log file, and each file gets the lines of the messages that were logged while it was the
log file, in order, behind what it held before. -/
theorem delivered_once [Stack] {steps : List Step}
    (fine : History.Fine host w (.setUp s :: steps)) :
    let w' := History.after host w (.setUp s :: steps)
    let s' := History.settings s steps
    w'.log.sinkLevels = s'.style.level :: (if s'.file.isSome then [.debug] else []) ∧
      Gives (History.gathered Step.shown s steps)
        (fun place => History.gathered (Step.filed host place) s steps) w w' ∧
      (History.after host w ((.setUp s :: steps).map Step.fileless)).log.console = w'.log.console ∧
      ∀ s'' place, .setUp s'' ∈ .setUp s :: steps → s''.place? host = some place →
        w'.tree.IsFile place := by
  obtain ⟨h, given⟩ := fine.gives_anew
  obtain ⟨-, given'⟩ := (fine.fileless w).gives_anew
  refine ⟨h.sinkLevels_eq, given, ?_, fun s'' place mem hp => ?_⟩
  · rw [given.console, ← History.gathered_fileless]
    exact given'.console
  · have begun := (InForce.setUp fine.1).1
    refine fine.2.isFile begun ?_
    rcases List.mem_cons.1 mem with same | mem
    · obtain rfl := Step.setUp.inj same
      exact .inl (begun.opened place hp)
    · exact .inr ⟨s'', mem, hp⟩

/-- A log that is set up with a file, then without, and then with the same file again. -/
def reopened : List Step :=
  [.setUp ⟨false, some (.ok ⟨.here, ["run.log"]⟩)⟩,
    .log "1:00" { level := .debug, part := "linker", component := "counter", pattern := "first" },
    .setUp ⟨true, none⟩,
    .log "2:00" { level := .debug, part := "linker", component := "counter", pattern := "second" },
    .setUp ⟨false, some (.ok ⟨.here, ["run.log"]⟩)⟩,
    .log "3:00" { level := .info, pattern := "third" }]

open Build (bareHost)

/-- The log file of a log that is set up again holds the first and the third message, and the
console has got the second and the third one. -/
theorem delivered_once_reopened :
    ∃ w', History.after bareHost { tree := .dir [] } reopened = w' ∧
      w'.log.sinkLevels = [.info, .debug] ∧
      w'.log.console = "[kmpbindgen] DEBUG kmpbindgen.linker [counter] second\n" ++
        "[kmpbindgen] INFO third\n" ∧
      w'.tree.held ["run.log"] = ("1:00 DEBUG kmpbindgen.linker [counter]: first\n" ++
        "3:00 INFO kmpbindgen [-]: third\n").toUTF8 := by
  have fine : History.Fine bareHost { tree := .dir [] } reopened := by
    refine ⟨?_, ⟨by decide, _, _, rfl, rfl⟩, rfl, ⟨by decide, _, _, rfl, rfl⟩, ?_,
      ⟨by decide, _, _, rfl, rfl⟩, trivial⟩ <;> unfold Step.Fine <;> decide +kernel
  obtain ⟨sinks, given, -, -⟩ := delivered_once fine
  refine ⟨_, rfl, sinks, ?_, ?_⟩
  · exact given.console.trans (by decide +kernel)
  · exact (given.held _).trans (by decide +kernel)

/-- A message of a part whose name begins with a dot misses the log, though the console would have
got it. -/
theorem stray_unheard :
    let s : Settings := ⟨false, none⟩
    let w := History.after bareHost { tree := .dir [] } [.setUp s]
    let step : Step := .log "" { level := .info, part := ".x", pattern := "hi" }
    w.log.sinkLevels = [.info] ∧ step.shown s = some "[kmpbindgen] INFO hi\n" ∧
      (step.run bareHost w).log.console = w.log.console := by
  refine ⟨?_, ?_, ?_⟩ <;> decide +kernel

end Log

end Bindery
