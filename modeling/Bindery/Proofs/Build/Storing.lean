import Bindery.Proofs.Build.Aborted
import Bindery.Proofs.Build.Depth
import Bindery.Proofs.Build.Formatting
import Bindery.Proofs.FileTree.Refusing

/-!
# A writer is a store

A writer that is called again and again keeps at every place the text that was last written there.
What one call comes to is said by `Session.Answers`: it returns the path of its output, whose file
then holds the text, or it fails, and in both cases no other file has changed but that of the log. A
call that fails has left all files as they were, unless it was the formatter that broke: then the
text is stored already (`Session.Broke`). From there on it goes by induction over the calls: at each
place there is what the last call that stored its text put there (`Session.Kept`), and the results
of the formatter are those for the source files of the calls that returned
(`Session.results_after`).

A text has to have an encoding for this. The file for one that has none is opened, and so emptied,
before the text is refused.
-/

namespace Bindery

open Outcome FileTree

/-- An output whose text has an encoding. -/
def Output.Encodes (o : Output) : Prop := ∃ bytes, Text.encode o.text = .ok bytes

namespace Writer

variable {host : Host} {writer : Writer} {w w' : World} {o : Output}

/-- Of outputs written in order, the one that its place was last written with. -/
def latest (host : Host) (writer : Writer) (place : List Text) (os : List Output) : Option Output :=
  (os.filter fun o => writer.placeOf host o = place).getLast?

/-- The latest of outputs at a place is the latest of the later ones, or else of the earlier
ones. -/
theorem latest_append (place : List Text) (os os' : List Output) :
    writer.latest host place (os ++ os') =
      (writer.latest host place os').or (writer.latest host place os) := by
  unfold latest
  rw [List.filter_append, List.getLast?_append]

theorem latest_singleton (place : List Text) :
    writer.latest host place [o] = if writer.placeOf host o = place then some o else none := by
  unfold latest
  rw [List.filter_singleton]
  split <;> simp_all

/-- A call that fails touches no file if its text has an encoding, unless the formatter breaks. -/
theorem grows_of_error [Stack] {e : Failure} (encodes : o.Encodes) (unbroken : ∀ f, e ≠ .fault f)
    (h : writer.write host o w = (.error e, w')) : Grows [] w.tree w'.tree := by
  obtain ⟨bytes, encodes⟩ := encodes
  obtain ⟨reason, -, failed, -⟩ | ⟨f, broke, -⟩ := write_error h
  · exact grows_of_encodes encodes failed
  · exact absurd broke (unbroken f)

/-- Whatever a call fails on, it touches no file but its own. -/
theorem keeps_of_error [Stack] {e : Failure} (h : writer.write host o w = (.error e, w')) :
    World.Keeps [writer.placeOf host o] w w' := by
  obtain ⟨reason, -, failed, same⟩ | ⟨f, -, -, wrote⟩ := write_error h
  · have grows : Grows [writer.placeOf host o] w.tree
        (w.tree.writeText host.cwd (writer.pathOf o) o.text).1 := grows_writeText o.text
    rw [failed] at grows
    refine ⟨grows.mono (List.subset_append_left _ _), ?_⟩
    rw [same]
  · exact wrote.keeps

/-- A call that ends in a fault has stored its text, and the formatter broke over it. -/
theorem broke_of_fault [Stack] {f : Fault} (h : writer.write host o w = (.error (.fault f), w')) :
    writer.Breaks host w o f ∧ Wrote host writer [o] w w' := by
  obtain ⟨reason, other, -⟩ | ⟨f', same, breaks, wrote⟩ := write_error h
  · unfold failure at other
    split at other <;> cases other
  · obtain rfl := Failure.fault.inj same
    exact ⟨breaks, wrote⟩

/-- Any other call that fails does so on what the file system refuses, when there is nothing else to
fail on. -/
theorem write_error_refusal [Stack] {e : Failure} (encodes : o.Encodes)
    (sayable : (writer.pathOf o).Sayable) (near : Near host writer w o)
    (unbroken : ∀ f, e ≠ .fault f)
    (h : writer.write host o w = (.error e, w')) :
    ∃ problem, e = .write ⟨problem, writer.pathOf o⟩ := by
  obtain ⟨bytes, encodes⟩ := encodes
  obtain ⟨reason, rfl, failed, -⟩ | ⟨f, broke, -⟩ := write_error h
  · have refused := writeText_refusal sayable near encodes failed
    exact ⟨reason.problem, by rw [failure, if_pos refused]⟩
  · exact absurd broke (unbroken f)

/-- What is reported on formatting an output that was written. -/
theorem formats_of_ok [Stack] {result : Written} (h : writer.write host o w = (.ok result, w')) :
    result.format.toList.map FormatResult.path =
      if writer.formats && o.isSource then [writer.pathOf o] else [] := by
  cases writes_of_write h with
  | plain _ unformatted =>
    rw [unformatted, if_neg Bool.false_ne_true]
    rfl
  | formatted _ formats result =>
    rw [if_pos formats]
    exact congrArg (fun p => [p]) (path_of_formatAfter result)

end Writer

/-- A writer at work: the world, and the results of the formatter so far. -/
structure Session where
  world : World
  results : List FormatResult := []

namespace Session

open Writer

/-- A call of a writer, which returns the path that it has written to. -/
def write [Stack] (host : Host) (writer : Writer) (s : Session) (o : Output) :
    Except Failure Path × Session :=
  match writer.write host o s.world with
  | (.ok result, world) => (.ok result.path, ⟨world, s.results ++ result.format.toList⟩)
  | (.error e, world) => (.error e, ⟨world, s.results⟩)

/-- What a session has come to after some calls. -/
def after [Stack] (host : Host) (writer : Writer) : Session → List Output → Session
  | s, [] => s
  | s, o :: os => after host writer (s.write host writer o).2 os

/-- Whether a call that ended in this way has stored its text: it returned, or only the formatter
broke, which is the one to end in a fault. -/
def stores : Except Failure Path → Bool
  | .ok _ | .error (.fault _) => true
  | .error _ => false

/-- The outputs of those among some calls whose end passes a test. -/
def outputsOf [Stack] (test : Except Failure Path → Bool) (host : Host) (writer : Writer) :
    Session → List Output → List Output
  | _, [] => []
  | s, o :: os =>
    let (outcome, s') := s.write host writer o
    if test outcome then o :: outputsOf test host writer s' os
    else outputsOf test host writer s' os

/-- The outputs of those among some calls that returned. -/
def written [Stack] (host : Host) (writer : Writer) (s : Session) (os : List Output) :
    List Output :=
  outputsOf Except.isOk host writer s os

/-- The outputs of those that stored their texts. -/
def stored [Stack] (host : Host) (writer : Writer) (s : Session) (os : List Output) : List Output :=
  outputsOf stores host writer s os

variable {host : Host} {writer : Writer} {s s' : Session} {o : Output} {os : List Output}
variable {p : Path} {e : Failure} {place : List Text}

/-- A call of the writer adds the result of its formatter if it returns, and none if it fails. -/
theorem write_cases [Stack] (host : Host) (writer : Writer) (s : Session) (o : Output) :
    (∃ result w', writer.write host o s.world = (.ok result, w') ∧
        s.write host writer o = (.ok result.path, ⟨w', s.results ++ result.format.toList⟩)) ∨
      ∃ e w', writer.write host o s.world = (.error e, w') ∧
        s.write host writer o = (.error e, ⟨w', s.results⟩) := by
  unfold write
  cases h : writer.write host o s.world with
  | mk outcome w' =>
    cases outcome with
    | ok result => exact .inl ⟨result, w', rfl, rfl⟩
    | error e => exact .inr ⟨e, w', rfl, rfl⟩

/-- A single call counts if its outcome passes the test. -/
theorem outputsOf_singleton [Stack] {test : Except Failure Path → Bool}
    {outcome : Except Failure Path} (h : s.write host writer o = (outcome, s')) :
    outputsOf test host writer s [o] = if test outcome then [o] else [] := by
  rw [outputsOf, h]
  rfl

/-- Of several calls the first one counts by itself, and the rest from the session that it
leaves. -/
theorem outputsOf_cons [Stack] (test : Except Failure Path → Bool) (s : Session) (o : Output)
    (os : List Output) : outputsOf test host writer s (o :: os) =
      outputsOf test host writer s [o] ++
        outputsOf test host writer (s.write host writer o).2 os := by
  simp only [outputsOf]
  split <;> rfl

/-- Tests that agree on all outcomes count the same calls. -/
theorem outputsOf_congr [Stack] {test test' : Except Failure Path → Bool}
    (same : ∀ s o, test (write host writer s o).1 = test' (write host writer s o).1)
    (s : Session) (os : List Output) :
    outputsOf test host writer s os = outputsOf test' host writer s os := by
  induction os generalizing s with
  | nil => rfl
  | cons o os ih => simp only [outputsOf, same s o, ih]

/-- Writing does not move the log. -/
theorem file_write [Stack] (host : Host) (writer : Writer) (s : Session) (o : Output) :
    (s.write host writer o).2.world.log.file = s.world.log.file := by
  obtain ⟨result, w', h, called⟩ | ⟨e, w', h, called⟩ := write_cases host writer s o
  · rw [called]
    exact (write_ok h).2.keeps.file
  · rw [called]
    exact (keeps_of_error h).file

/-- Calls do not change which file the log has. -/
theorem file_after [Stack] (host : Host) (writer : Writer) (s : Session) (os : List Output) :
    (s.after host writer os).world.log.file = s.world.log.file := by
  induction os generalizing s with
  | nil => rfl
  | cons o os ih => exact (ih _).trans (file_write host writer s o)

/-! ## One call -/

/-- What a call does that stores its text: the text is in the file of the output, and no other file
has changed, but that of the log. -/
structure Stored (host : Host) (writer : Writer) (s : Session) (o : Output) (s' : Session) :
    Prop where
  holds : s.world.log.file ≠ some (writer.placeOf host o) → writer.Holds host s'.world o
  others : ∀ place content, place ≠ writer.placeOf host o → s.world.log.file ≠ some place →
    (s'.world.tree.get? place = some (.file content) ↔
      s.world.tree.get? place = some (.file content))

/-- What a call does that returns a path. -/
structure Returned (host : Host) (writer : Writer) (s : Session) (o : Output) (p : Path)
    (s' : Session) : Prop extends Stored host writer s o s' where
  destination : p = writer.pathOf o
  results : ∃ new, s'.results = s.results ++ new ∧
    new.map FormatResult.path = if writer.formats && o.isSource then [writer.pathOf o] else []

/-- What a call does that fails on its file: all files stay as they are, and the failure is that the
output could not be written, unless its path cannot be said or is too far from what is there. -/
structure Failed [Stack] (host : Host) (writer : Writer) (s : Session) (o : Output) (e : Failure)
    (s' : Session) : Prop where
  failure : (writer.pathOf o).Sayable → Near host writer s.world o →
    ∃ problem, e = .write ⟨problem, writer.pathOf o⟩
  files : ∀ place content, s'.world.tree.get? place = some (.file content) ↔
    s.world.tree.get? place = some (.file content)
  results : s'.results = s.results

/-- What a call does that the formatter breaks: its text is stored all the same. -/
structure Broke (host : Host) (writer : Writer) (s : Session) (o : Output) (f : Fault)
    (s' : Session) : Prop extends Stored host writer s o s' where
  breaks : writer.Breaks host s.world o f
  results : s'.results = s.results

/-- A call returns, or fails on its file or over the formatter. -/
def Answers [Stack] (host : Host) (writer : Writer) (s : Session) (o : Output) : Prop :=
  match s.write host writer o with
  | (.ok p, s') => Returned host writer s o p s'
  | (.error (.fault f), s') => Broke host writer s o f s'
  | (.error e, s') => Failed host writer s o e s'

/-- What the writer wrote is stored. -/
theorem stored_of_wrote {w' : World} {results : List FormatResult}
    (wrote : Wrote host writer [o] s.world w') : Stored host writer s o ⟨w', results⟩ where
  holds apart :=
    wrote.holds (List.nodup_singleton _) (by simpa using apart) o List.mem_cons_self
  others place content ne apart := by
    rw [← kind?_eq_file, ← kind?_eq_file]
    exact wrote.keeps.tree.file_iff (by simpa using ⟨ne, apart⟩)

/-- A call that fails, and not because the formatter broke, has failed with all files as they
were. -/
theorem failed_of_error [Stack] {w' : World} (encodes : o.Encodes) (unbroken : ∀ f, e ≠ .fault f)
    (h : writer.write host o s.world = (.error e, w')) :
    Failed host writer s o e ⟨w', s.results⟩ where
  failure sayable near := write_error_refusal encodes sayable near unbroken h
  files place content := by
    rw [← kind?_eq_file, ← kind?_eq_file]
    exact (grows_of_error encodes unbroken h).file_iff List.not_mem_nil
  results := rfl

/-- Every call with a text that can be encoded ends in one of these ways. -/
theorem answers [Stack] (s : Session) (encodes : o.Encodes) : Answers host writer s o := by
  unfold Answers
  obtain ⟨result, w', h, called⟩ | ⟨e, w', h, called⟩ := write_cases host writer s o
  · rw [called]
    obtain ⟨destination, wrote⟩ := write_ok h
    exact ⟨stored_of_wrote wrote, destination, _, rfl, formats_of_ok h⟩
  · rw [called]
    cases e with
    | fault f =>
      obtain ⟨breaks, wrote⟩ := broke_of_fault h
      exact ⟨stored_of_wrote wrote, breaks, rfl⟩
    | _ => exact failed_of_error encodes nofun h

/-! ## Many calls -/

/-- Outputs were written, and what this made of one place: it has the text of the latest output, or
was not touched. -/
structure Kept (host : Host) (writer : Writer) (place : List Text) (os : List Output)
    (w w' : World) : Prop where
  holds : ∀ o, writer.latest host place os = some o → writer.Holds host w' o
  keeps : writer.latest host place os = none → ∃ touched, place ∉ touched ∧ World.Keeps touched w w'

/-- What two sequences of calls keep, one after the other, they keep together. -/
theorem Kept.append {os os' : List Output} {w w₁ w' : World} (apart : w₁.log.file ≠ some place)
    (h : Kept host writer place os w w₁) (h' : Kept host writer place os' w₁ w') :
    Kept host writer place (os ++ os') w w' := by
  refine ⟨fun o last => ?_, fun none => ?_⟩
  · rw [latest_append, Option.or_eq_some_iff] at last
    rcases last with last | ⟨none, last⟩
    · exact h'.holds o last
    · -- Nothing came to the place later, so the file is still there.
      obtain ⟨touched, fresh, keeps⟩ := h'.keeps none
      have here : writer.placeOf host o = place := by
        simpa using (List.mem_filter.1 (List.mem_of_getLast? last)).2
      exact (h.holds o last).keeps keeps (here ▸ fresh) (here ▸ apart)
  · rw [latest_append, Option.or_eq_none_iff] at none
    obtain ⟨touched, fresh, keeps⟩ := h.keeps none.2
    obtain ⟨touched', fresh', keeps'⟩ := h'.keeps none.1
    exact ⟨touched ++ touched', by simp [fresh, fresh'], keeps.trans keeps'⟩

/-- What a call makes of a place that stores its text. -/
theorem kept_of_wrote {w' : World} (apart : s.world.log.file ≠ some place)
    (wrote : Wrote host writer [o] s.world w') : Kept host writer place [o] s.world w' := by
  refine ⟨fun o' last => ?_, fun none => ⟨_, ?_, wrote.keeps⟩⟩
  · rw [latest_singleton] at last
    split at last
    · rename_i here
      obtain rfl := Option.some.inj last
      refine wrote.holds (List.nodup_singleton _) ?_ o List.mem_cons_self
      simpa [here] using apart
    · cases last
  · rw [latest_singleton] at none
    split at none
    · cases none
    · rename_i elsewhere
      simpa using Ne.symm elsewhere

/-- What a call makes of a place that fails on its file. -/
theorem kept_of_error [Stack] {w' : World} (encodes : writer.placeOf host o = place → o.Encodes)
    (unbroken : ∀ f, e ≠ .fault f) (h : writer.write host o s.world = (.error e, w')) :
    Kept host writer place [] s.world w' := by
  refine ⟨(fun o' last => by cases last), fun _ => ?_⟩
  by_cases here : writer.placeOf host o = place
  · have grows := grows_of_error (encodes here) unbroken h
    exact ⟨[], List.not_mem_nil, grows.mono (List.nil_subset _), (keeps_of_error h).file⟩
  · exact ⟨_, by simpa using Ne.symm here, keeps_of_error h⟩

/-- What one call makes of a place. -/
theorem kept_write [Stack] (s : Session) (apart : s.world.log.file ≠ some place)
    (encodes : writer.placeOf host o = place → o.Encodes) :
    Kept host writer place (s.stored host writer [o]) s.world (s.write host writer o).2.world := by
  obtain ⟨result, w', h, called⟩ | ⟨e, w', h, called⟩ := write_cases host writer s o
  · rw [stored, outputsOf_singleton called, called]
    exact kept_of_wrote apart (write_ok h).2
  · rw [stored, outputsOf_singleton called, called]
    cases e with
    | fault f => exact kept_of_wrote apart (broke_of_fault h).2
    | _ =>
      refine kept_of_error encodes ?_ h
      nofun

/-- What many calls make of a place, if the texts that are for it have an encoding. -/
theorem kept_after [Stack] (s : Session) (apart : s.world.log.file ≠ some place)
    (encodes : ∀ o ∈ os, writer.placeOf host o = place → o.Encodes) :
    Kept host writer place (s.stored host writer os) s.world (s.after host writer os).world := by
  induction os generalizing s with
  | nil => exact ⟨(fun o last => by cases last), fun _ => ⟨[], List.not_mem_nil, .refl⟩⟩
  | cons o os ih =>
    have first := kept_write s apart (encodes o List.mem_cons_self)
    rw [← file_write host writer s o] at apart
    have rest := ih (s.write host writer o).2 apart
      fun o' ho' => encodes o' (List.mem_cons_of_mem _ ho')
    rw [stored, outputsOf_cons]
    exact first.append apart rest

/-- The formatter's results for many calls. -/
theorem results_after [Stack] (s : Session) (os : List Output) :
    ∃ new, (s.after host writer os).results = s.results ++ new ∧ new.map FormatResult.path =
      if writer.formats then writer.sourcesOf (s.written host writer os) else [] := by
  induction os generalizing s with
  | nil => exact ⟨[], (List.append_nil _).symm, by split <;> rfl⟩
  | cons o os ih =>
    obtain ⟨new, results, paths⟩ := ih (s.write host writer o).2
    rw [after, results, written, outputsOf_cons]
    obtain ⟨result, w', h, called⟩ | ⟨e, w', h, called⟩ := write_cases host writer s o
    · refine ⟨result.format.toList ++ new, by rw [called, List.append_assoc], ?_⟩
      rw [List.map_append, paths, formats_of_ok h, outputsOf_singleton called]
      cases writer.formats <;> cases source : o.isSource <;>
        simp [sourcesOf, source, written, Except.isOk, Except.toBool]
    · refine ⟨new, by rw [called], ?_⟩
      rw [paths, outputsOf_singleton called]
      rfl

/-- While no call of the formatter breaks, the calls that store their texts return. -/
theorem stored_eq_written [Stack] (unbroken : host.Answers) (s : Session) (os : List Output) :
    s.stored host writer os = s.written host writer os := by
  apply outputsOf_congr
  intro s o
  obtain ⟨result, w', -, called⟩ | ⟨e, w', h, called⟩ := write_cases host writer s o
  · rw [called]
    rfl
  · rw [called]
    cases e with
    | fault f => exact absurd (broke_of_fault h).1 (not_breaks unbroken)
    | _ => rfl

/-- The last text that was written to a place is the one that is there. A call that the formatter
breaks has written its text, and has no result of the formatter. -/
theorem last_write_wins [Stack] (host : Host) (writer : Writer) (s : Session) (os : List Output) :
    (∀ front o back, os = front ++ o :: back → o.Encodes →
      Answers host writer (s.after host writer front) o) ∧
    (∀ place, s.world.log.file ≠ some place →
      (∀ o ∈ os, writer.placeOf host o = place → o.Encodes) →
      match writer.latest host place (s.stored host writer os) with
      | some o => writer.Holds host (s.after host writer os).world o
      | none => ∀ content, (s.after host writer os).world.tree.get? place = some (.file content) ↔
          s.world.tree.get? place = some (.file content)) ∧
    (host.Answers → s.stored host writer os = s.written host writer os) ∧
    (s.after host writer os).world.log.file = s.world.log.file ∧
    ∃ new, (s.after host writer os).results = s.results ++ new ∧ new.map FormatResult.path =
      if writer.formats then writer.sourcesOf (s.written host writer os) else [] := by
  refine ⟨fun front o _ _ encodes => answers _ encodes, fun place apart encodes => ?_,
    fun unbroken => stored_eq_written unbroken s os, file_after host writer s os,
    results_after s os⟩
  have kept := kept_after s apart encodes
  split
  · rename_i o last
    exact kept.holds o last
  · rename_i none
    obtain ⟨touched, fresh, keeps⟩ := kept.keeps none
    intro content
    rw [← kind?_eq_file, ← kind?_eq_file]
    exact keeps.tree.file_iff (by simpa using ⟨fresh, apart⟩)

/-- A session in a tree where a directory stands in the way of a file. -/
def obstructed : Session := { world := { tree := Build.obstructed } }

def firstDraft : Output := .source "right" "shared" "common" false "x"

def blocked : Output := .source "right" "shared" "jvm" false "z"

def secondDraft : Output := .source "right" "shared" "common" false "y"

/-- A file is written twice, with one in between that cannot be written. -/
theorem last_write_wins_obstructed :
    obstructed.written Build.pickyHost Build.formattingWriter [firstDraft, blocked, secondDraft] =
        [firstDraft, secondDraft] ∧
      Answers Build.pickyHost Build.formattingWriter
        (obstructed.after Build.pickyHost Build.formattingWriter [firstDraft]) blocked ∧
      Build.formattingWriter.Holds Build.pickyHost
        (obstructed.after Build.pickyHost Build.formattingWriter
          [firstDraft, blocked, secondDraft]).world secondDraft ∧
      (obstructed.after Build.pickyHost Build.formattingWriter
          [firstDraft, blocked, secondDraft]).results.map FormatResult.path =
        [Build.formattingWriter.pathOf firstDraft, Build.formattingWriter.pathOf firstDraft] := by
  have encodes : ∀ o ∈ [firstDraft, blocked, secondDraft], o.Encodes := fun o ho =>
    exists_of_isOk ((by decide +kernel :
      ∀ o ∈ [firstDraft, blocked, secondDraft], (Text.encode o.text).isOk = true) o ho)
  obtain ⟨answers, last, stored, -, new, results, paths⟩ := last_write_wins Build.pickyHost
    Build.formattingWriter obstructed [firstDraft, blocked, secondDraft]
  have written : obstructed.written Build.pickyHost Build.formattingWriter
      [firstDraft, blocked, secondDraft] = [firstDraft, secondDraft] := by decide +kernel
  have latest : Build.formattingWriter.latest Build.pickyHost
      (Build.formattingWriter.placeOf Build.pickyHost secondDraft) [firstDraft, secondDraft] =
        some secondDraft := by decide +kernel
  have holds := last (Build.formattingWriter.placeOf Build.pickyHost secondDraft)
    (by simp [obstructed]) fun o ho _ => encodes o ho
  rw [stored Build.pickyHost_answers, written, latest] at holds
  refine ⟨written, answers [firstDraft] blocked [secondDraft] rfl (encodes _ (by simp)), holds, ?_⟩
  rw [results, obstructed, List.nil_append, paths, written]
  decide +kernel

/-- A session in an empty tree. -/
def fresh : Session := { world := { tree := .empty } }

/-- A text without an encoding for the file of `firstDraft`. -/
def unencodable : Output := .source "right" "shared" "common" false [.surrogate 0]

/-- An output in a package of a thousand segments. -/
def far : Output := .source "right" (Text.joined "." (List.replicate 1000 "a")) "common" false "x"

/-- An output with a NUL in its path. -/
def unsayable : Output := .source "right" "shared" [.char '\x00'] false "x"

/-- A host whose formatter prints a byte that is no text. -/
def garblingHost : Host where
  cwd := ⟨.root, []⟩
  home := ⟨.root, []⟩
  respond := fun _ _ => .broken (.undecodable ⟨0xff, 0, 1, .startByte⟩)

/-- A failure need not be that of the file system. It may have emptied a file, or have come when the
text was in it. -/
theorem draft_emptied :
    (∃ s s',
      fresh.write Build.bareHost Build.plainWriter firstDraft =
        (.ok (Build.plainWriter.pathOf firstDraft), s) ∧
      s.world.tree.bytesOf Build.bareHost.cwd (Build.plainWriter.pathOf firstDraft) =
        .ok "x".toUTF8 ∧
      s.write Build.bareHost Build.plainWriter unencodable =
        (.error (.file ⟨.unencodable ⟨0xd800, 0, 1⟩, Build.plainWriter.pathOf firstDraft⟩), s') ∧
      s'.world.tree.bytesOf Build.bareHost.cwd (Build.plainWriter.pathOf firstDraft) =
        .ok .empty) ∧
    (∃ s', fresh.write Build.bareHost Build.plainWriter unsayable =
      (.error (.file ⟨.nulInPath, Build.plainWriter.pathOf unsayable⟩), s')) ∧
    (∃ path s', fresh.write Build.bareHost Build.plainWriter far =
      (.error (.file ⟨.tooDeep, path⟩), s')) ∧
    ∃ s', fresh.write garblingHost Build.formattingWriter firstDraft =
        (.error (.fault (.undecodable ⟨0xff, 0, 1, .startByte⟩)), s') ∧
      s'.world.tree.bytesOf garblingHost.cwd (Build.formattingWriter.pathOf firstDraft) =
        .ok "x".toUTF8 := by
  obtain ⟨path, deep⟩ : ∃ path, Build.plainWriter.save Build.bareHost far fresh.world =
      (.error (.file ⟨.tooDeep, path⟩), fresh.world) := by
    refine save_of_lacks (lacks_empty ⟨by decide +kernel, ?_⟩ (by decide +kernel)
      (by decide +kernel))
    unfold Short
    decide +kernel
  refine ⟨⟨_, _, Prod.ext (by decide +kernel) rfl, by decide +kernel,
    Prod.ext (by decide +kernel) rfl, by decide +kernel⟩,
    ⟨_, Prod.ext (by decide +kernel) rfl⟩, ⟨path, fresh, ?_⟩,
    _, Prod.ext (by decide +kernel) rfl, by decide +kernel⟩
  rw [write, write_eq_save, Run.bind_of_error deep]

end Session

end Bindery
