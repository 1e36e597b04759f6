import Bindery.Build.Run
import Bindery.Proofs.Build.Destinations

/-!
# What a build does to its world

A build that ends well did every one of its parts (`Run.bind_ok_iff`). Records go to the file of
the log and to no other (`World.Keeps`), and so what writing an output left at its place is still
there after others were written, when no two of them have one place and none has that of the log's
file (`Wrote.append`).
-/

namespace Bindery

open Outcome FileTree

/-! ## Computations on a world -/

namespace Run

variable {α β : Type} {w w' : World}

/-- Computations in a row end well when both do, the second one where the first one ended. -/
theorem bind_ok_iff {x : Run α} {f : α → Run β} {b : β} :
    (x >>= f) w = (.ok b, w') ↔ ∃ a w₁, x w = (.ok a, w₁) ∧ f a w₁ = (.ok b, w') := by
  have unfolded : (x >>= f) w = ExceptT.bindCont f (x w).1 (x w).2 := rfl
  rw [unfolded]
  cases h : x w with
  | mk outcome w₁ =>
    cases outcome with
    | ok a =>
      constructor
      · exact fun hf => ⟨a, w₁, rfl, hf⟩
      · rintro ⟨a', w₁', ⟨⟩, hf⟩
        exact hf
    | error e =>
      constructor
      · rintro ⟨⟩
      · rintro ⟨a', w₁', ⟨⟩, -⟩

/-- What comes after a part that ended well. -/
theorem bind_of_ok {x : Run α} {f : α → Run β} {a : α} (h : x w = (.ok a, w')) :
    (x >>= f) w = f a w' := by
  have unfolded : (x >>= f) w = ExceptT.bindCont f (x w).1 (x w).2 := rfl
  rw [unfolded, h]
  rfl

/-- What comes after a part depends only on how it ends. -/
theorem bind_congr_of_eq {x y : Run α} (h : x w = y w) (f : α → Run β) :
    (x >>= f) w = (y >>= f) w := by
  show ExceptT.bindCont f (x w).1 (x w).2 = ExceptT.bindCont f (y w).1 (y w).2
  rw [h]

/-- What comes after a part that failed is not begun. -/
theorem bind_of_error {x : Run α} {f : α → Run β} {e : Failure} (h : x w = (.error e, w')) :
    (x >>= f) w = (.error e, w') := by
  have unfolded : (x >>= f) w = ExceptT.bindCont f (x w).1 (x w).2 := rfl
  rw [unfolded, h]
  rfl

theorem pure_ok_iff {a b : α} : (pure a : Run α) w = (.ok b, w') ↔ a = b ∧ w = w' := by
  show (Except.ok a, w) = (.ok b, w') ↔ _
  simp

/-- What is no computation on worlds ends well without changing any. -/
theorem ofExcept_ok_iff {ε : Type} {wrap : ε → Failure} {x : Except ε α} {a : α} :
    ofExcept wrap x w = (.ok a, w') ↔ x = .ok a ∧ w = w' := by
  cases x with
  | ok b =>
    show (Except.ok b, w) = (.ok a, w') ↔ _
    simp
  | error e =>
    show (Except.error (wrap e), w) = (.ok a, w') ↔ _
    simp

/-- What is told from an outcome leaves the world as it is. -/
theorem ofExcept_eq {ε : Type} (wrap : ε → Failure) (x : Except ε α) (w : World) :
    ofExcept wrap x w = (x.mapError wrap, w) := by
  cases x <;> rfl

theorem ofExcept_id (x : Except Failure α) (w : World) : ofExcept id x w = (x, w) := by
  cases x <;> rfl

/-- A computation for each member of a list ends well when it does for the first and then for the
rest. -/
theorem mapM_cons_ok_iff {f : α → Run β} {x : α} {xs : List α} {ys : List β} :
    ((x :: xs).mapM f) w = (.ok ys, w') ↔
      ∃ y w₁ rest, f x w = (.ok y, w₁) ∧ (xs.mapM f) w₁ = (.ok rest, w') ∧ y :: rest = ys := by
  rw [List.mapM_cons]
  simp only [bind_ok_iff, pure_ok_iff]
  constructor
  · rintro ⟨y, w₁, hy, rest, w₂, hrest, rfl, rfl⟩
    exact ⟨y, w₁, rest, hy, hrest, rfl⟩
  · rintro ⟨y, w₁, rest, hy, hrest, rfl⟩
    exact ⟨y, w₁, hy, rest, w', hrest, rfl, rfl⟩

/-- A traversal whose steps only look at a world leaves it as it is. -/
theorem mapM_of_looks {f : α → Run β} {g : α → Except Failure β}
    (looks : ∀ x, f x w = (g x, w)) (xs : List α) : xs.mapM f w = (xs.mapM g, w) := by
  induction xs with
  | nil => rfl
  | cons x xs ih =>
    rw [List.mapM_cons, List.mapM_cons]
    cases hx : g x with
    | error e =>
      have failed : (f x w) = (.error e, w) := (looks x).trans (by rw [hx])
      exact bind_of_error failed
    | ok y =>
      have found : (f x w) = (.ok y, w) := (looks x).trans (by rw [hx])
      rw [bind_of_ok found]
      cases hxs : xs.mapM g with
      | error e => exact bind_of_error (ih.trans (by rw [hxs]))
      | ok ys => exact bind_of_ok (ih.trans (by rw [hxs]))

/-- The same of what is done when something is there. -/
theorem optionMapM_of_looks {f : α → Run β} {g : α → Except Failure β}
    (looks : ∀ x, f x w = (g x, w)) (x : Option α) : x.mapM f w = (x.mapM g, w) := by
  cases x with
  | none => rfl
  | some x =>
    show (f x >>= fun y => pure (some y)) w = (some <$> g x, w)
    cases hx : g x with
    | error e => exact bind_of_error ((looks x).trans (by rw [hx]))
    | ok y => exact bind_of_ok ((looks x).trans (by rw [hx]))

end Run

/-! ## What records change -/

/-- A world and a later one: files were touched only at the places given and at that of the log's
file, which is still the same. -/
structure World.Keeps (touched : List (List Text)) (w w' : World) : Prop where
  tree : Grows (touched ++ w.log.file.toList) w.tree w'.tree
  file : w'.log.file = w.log.file

namespace World.Keeps

variable {touched touched' : List (List Text)} {w w' w'' : World}

theorem refl : Keeps touched w w := ⟨.refl, rfl⟩

theorem trans (h : Keeps touched w w') (h' : Keeps touched' w' w'') :
    Keeps (touched ++ touched') w w'' := by
  refine ⟨(h.tree.trans h'.tree).mono ?_, h'.file.trans h.file⟩
  rw [h.file]
  intro place hp
  simp only [List.mem_append] at hp ⊢
  tauto

end World.Keeps

/-- Adding to the end of a file changes this file alone. -/
theorem FileTree.extend_grows {t : FileTree} {names : List Text} {more : ByteArray} :
    Grows [names] t (t.extend names more) := by
  unfold extend
  split
  · rename_i content h
    have there : t.kind? names = some (some content) := kind?_eq_file.2 h
    exact grows_place (top_or_above there) (by simp [there]) fun _ => kind?_leaf_file
  · exact .refl

/-- A record changes nothing but the file of the log. -/
theorem World.record_keeps (host : Host) (r : Record) (w : World) :
    World.Keeps [] w (w.record host r) := by
  have file : (w.record host r).log.file = w.log.file := by
    show (w.log.display r).file = w.log.file
    unfold Log.display
    split <;> rfl
  refine ⟨?_, file⟩
  unfold World.record
  cases hf : w.log.file with
  | none => exact .refl
  | some names =>
    dsimp only
    split
    · exact extend_grows
    · exact .refl

/-- A record touches no file but that of the log. -/
theorem Run.record_keeps {host : Host} {r : Record} {w w' : World} {u : Unit}
    (h : Run.record host r w = (.ok u, w')) : World.Keeps [] w w' := by
  obtain rfl : w.record host r = w' := congrArg Prod.snd h
  exact w.record_keeps host r

/-- A world and a later one between which nothing was done but to record and to call the
formatter. -/
inductive World.Noted (host : Host) : World → World → Prop where
  | refl (w : World) : Noted host w w
  | record {w w' : World} (r : Record) (rest : Noted host (w.record host r) w') : Noted host w w'
  | call {w w' : World} (calls : List Formatter.Call) (rest : Noted host { w with calls } w') :
      Noted host w w'

namespace World.Noted

variable {host : Host} {w w' w'' : World}

theorem trans (h : Noted host w w') (h' : Noted host w' w'') : Noted host w w'' := by
  induction h with
  | refl w => exact h'
  | record r _ ih => exact .record r (ih h')
  | call calls _ ih => exact .call calls (ih h')

/-- What is only noted touches no file but that of the log. -/
theorem keeps (h : Noted host w w') : World.Keeps [] w w' := by
  induction h with
  | refl w => exact .refl
  | record r _ ih => exact (World.record_keeps host r _).trans ih
  | @call w _ calls _ ih =>
    have called : World.Keeps [] w { w with calls } := ⟨.refl, rfl⟩
    exact called.trans ih

end World.Noted

/-! ## What writing leaves -/

namespace Writer

variable {host : Host} {writer : Writer} {w w' w'' : World}

/-- The path that an output is written to. -/
def pathOf (writer : Writer) (o : Output) : Path := writer.outDir ++ o.destination

/-- The place of an output in the file tree. -/
def placeOf (host : Host) (writer : Writer) (o : Output) : List Text :=
  Path.place host.cwd (writer.pathOf o)

/-- The file of an output holds the bytes of its text. -/
def Holds (host : Host) (writer : Writer) (w : World) (o : Output) : Prop :=
  ∃ bytes, Text.encode o.text = .ok bytes ∧ w.tree.Holds host.cwd (writer.pathOf o) bytes

/-- Outputs were written: no other file was touched, but that of the log, and the file of each
output holds its text, when each has a place of its own and none that of the log's file. -/
structure Wrote (host : Host) (writer : Writer) (outputs : List Output) (w w' : World) : Prop where
  keeps : World.Keeps (outputs.map (writer.placeOf host)) w w'
  holds : (outputs.map (writer.placeOf host)).Nodup →
    (∀ o ∈ outputs, w.log.file ≠ some (writer.placeOf host o)) →
    ∀ o ∈ outputs, writer.Holds host w' o

/-- An output stays in its file while only other files are touched. -/
theorem Holds.keeps {touched : List (List Text)} {o : Output} (h : writer.Holds host w o)
    (keeps : World.Keeps touched w w') (fresh : writer.placeOf host o ∉ touched)
    (apart : w.log.file ≠ some (writer.placeOf host o)) : writer.Holds host w' o := by
  obtain ⟨bytes, hbytes, holds⟩ := h
  refine ⟨bytes, hbytes, holds.grows keeps.tree ?_⟩
  simpa [Writer.placeOf] using ⟨fresh, apart⟩

namespace Wrote

variable {outputs outputs' : List Output}

/-- A world in which no file was touched is one to which nothing was written. -/
theorem of_keeps (h : World.Keeps [] w w') : Wrote host writer [] w w' :=
  ⟨h, fun _ _ _ ho => absurd ho List.not_mem_nil⟩

/-- Outputs may be written in two parts. -/
theorem append (h : Wrote host writer outputs w w') (h' : Wrote host writer outputs' w' w'') :
    Wrote host writer (outputs ++ outputs') w w'' := by
  constructor
  · rw [List.map_append]
    exact h.keeps.trans h'.keeps
  · intro distinct apart o ho
    rw [List.map_append] at distinct
    obtain ⟨distinct₁, distinct₂, disjoint⟩ := List.nodup_append.1 distinct
    rcases List.mem_append.1 ho with ho | ho
    · have held := h.holds distinct₁ (fun o ho => apart o (List.mem_append_left _ ho)) o ho
      refine held.keeps h'.keeps ?_ ?_
      · intro hp
        exact disjoint _ (List.mem_map.2 ⟨o, ho, rfl⟩) _ hp rfl
      · rw [h.keeps.file]
        exact apart o (List.mem_append_left _ ho)
    · refine h'.holds distinct₂ (fun o ho => ?_) o ho
      rw [h.keeps.file]
      exact apart o (List.mem_append_right _ ho)

end Wrote

/-- A call of the formatter for a file. -/
def callFor (writer : Writer) (path : Path) : Formatter.Call :=
  ⟨writer.formatter ++ [path.text], writer.timeout⟩

/-- The calls that formatting a file makes: one, or none without a command. -/
def callsFor (writer : Writer) (path : Path) : List Formatter.Call :=
  if writer.formatter = [] then [] else [writer.callFor path]

/-- The result of formatting a file after some calls, unless the call for it breaks. -/
def formatAfter (host : Host) (writer : Writer) (before : List Formatter.Call) (path : Path) :
    Except Fault FormatResult :=
  match writer.formatter with
  | [] => .ok ⟨path, some Formatter.noCommand⟩
  | program :: _ =>
    ((host.respond before (writer.callFor path)).complaint program).map fun complaint =>
      ⟨path, complaint⟩

/-- Making a result notes it, and makes no call. -/
theorem result_noted (host : Host) (path : Path) (complaint : Option Text) (w : World) :
    ∃ w', result host path complaint w = (.ok ⟨path, complaint⟩, w') ∧ World.Noted host w w' ∧
      w'.calls = w.calls := by
  cases complaint with
  | none => exact ⟨w, rfl, .refl w, rfl⟩
  | some text => exact ⟨_, rfl, .record _ (.refl _), rfl⟩

/-- Formatting a file makes the calls that it is to make and comes to what they come to. Nothing
else is done but to record. -/
theorem format_noted (host : Host) (writer : Writer) (path : Path) (w : World) :
    ∃ w', writer.format host path w =
        ((writer.formatAfter host w.calls path).mapError Failure.fault, w') ∧
      World.Noted host w w' ∧ w'.calls = w.calls ++ writer.callsFor path := by
  cases hf : writer.formatter with
  | nil =>
    obtain ⟨w', reported, noted, calls⟩ := result_noted host path (some Formatter.noCommand) w
    refine ⟨w', ?_, noted, ?_⟩
    · simp only [format, formatAfter, hf]
      exact reported
    · rw [calls, callsFor, if_pos hf, List.append_nil]
  | cons program arguments =>
    let w₁ := w.record host ⟨.info, "Formatting " ++ path.name ++ " with " ++ program ++
      " (use --no-format to disable)", "writer", noComponent⟩
    let w₂ : World := { w₁ with calls := w.calls ++ [writer.callFor path] }
    let complaint := (host.respond w.calls (writer.callFor path)).complaint program
    have asked : writer.format host path w =
        (Run.ofExcept Failure.fault complaint >>= result host path) w₂ := by
      simp only [format, complaint, callFor, w₂, hf]
      rfl
    have noted : World.Noted host w w₂ := .record _ (.call _ (.refl w₂))
    have made : w₂.calls = w.calls ++ writer.callsFor path := by
      rw [callsFor, if_neg (by simp [hf])]
    have comes : writer.formatAfter host w.calls path = complaint.map fun c => ⟨path, c⟩ := by
      simp only [formatAfter, hf, complaint]
    rw [asked, comes]
    cases complaint with
    | error f => exact ⟨w₂, rfl, noted, made⟩
    | ok told =>
      obtain ⟨w₃, reported, later, calls⟩ := result_noted host path told w₂
      exact ⟨w₃, reported, noted.trans later, calls.trans made⟩

/-- The formatter changes no file. -/
theorem format_keeps {path : Path} {outcome : Except Failure FormatResult}
    (h : writer.format host path w = (outcome, w')) : World.Keeps [] w w' := by
  obtain ⟨w₁, formatted, noted, -⟩ := format_noted host writer path w
  obtain ⟨-, rfl⟩ := Prod.mk.inj (h.symm.trans formatted)
  exact noted.keeps

/-! ### One output -/

variable {o : Output}

/-- Puts an output into its file. -/
def save [Stack] (host : Host) (writer : Writer) (o : Output) : Run Unit := do
  Run.changeTree (failure (writer.pathOf o)) fun tree =>
    tree.writeText host.cwd (writer.pathOf o) o.text
  record host .debug ("Wrote " ++ o.title ++ " to " ++ (writer.pathOf o).text)

/-- Writing an output saves it, and then has it formatted if it is a source file. -/
theorem write_eq_save [Stack] (host : Host) (writer : Writer) (o : Output) :
    writer.write host o = (do
      writer.save host o
      if writer.formats && o.isSource then
        return ⟨writer.pathOf o, some (← writer.format host (writer.pathOf o))⟩
      else
        return ⟨writer.pathOf o, none⟩) := by
  unfold save
  rw [bind_assoc]
  rfl

/-- What saving an output does to the world, and how it ends. -/
theorem save_cases [Stack] (host : Host) (writer : Writer) (o : Output) (w : World) :
    (∃ e t, w.tree.writeText host.cwd (writer.pathOf o) o.text = (t, .error e) ∧
        writer.save host o w = (.error (failure (writer.pathOf o) e), { w with tree := t })) ∨
      ∃ t r, w.tree.writeText host.cwd (writer.pathOf o) o.text = (t, .ok ()) ∧
        writer.save host o w = (.ok (), ({ w with tree := t } : World).record host r) := by
  cases hw : w.tree.writeText host.cwd (writer.pathOf o) o.text with
  | mk t outcome =>
    have changed : Run.changeTree (failure (writer.pathOf o))
        (fun tree => tree.writeText host.cwd (writer.pathOf o) o.text) w =
          Run.ofExcept (failure (writer.pathOf o)) outcome { w with tree := t } := by
      show Run.ofExcept _ (w.tree.writeText host.cwd (writer.pathOf o) o.text).2
        { w with tree := (w.tree.writeText host.cwd (writer.pathOf o) o.text).1 } = _
      rw [hw]
    cases outcome with
    | error e => exact .inl ⟨e, t, rfl, Run.bind_of_error changed⟩
    | ok u => exact .inr ⟨t, _, rfl, Run.bind_of_ok changed⟩

/-- Saving an output makes no calls. -/
theorem save_calls [Stack] {outcome : Except Failure Unit}
    (h : writer.save host o w = (outcome, w')) : w'.calls = w.calls := by
  rcases save_cases host writer o w with ⟨e, t, -, saved⟩ | ⟨t, r, -, saved⟩
  · obtain ⟨-, rfl⟩ := Prod.mk.inj (h.symm.trans saved)
    rfl
  · obtain ⟨-, rfl⟩ := Prod.mk.inj (h.symm.trans saved)
    rfl

/-- The call of the formatter for an output breaks, after the calls that were made. -/
structure Breaks (host : Host) (writer : Writer) (w : World) (o : Output) (f : Fault) : Prop where
  formats : (writer.formats && o.isSource) = true
  result : writer.formatAfter host w.calls (writer.pathOf o) = .error f

/-- What cannot be told of a call is that it broke. -/
theorem broken_of_complaint {program : Text} {outcome : Formatter.Outcome} {f : Fault}
    (h : outcome.complaint program = .error f) : outcome = .broken f := by
  cases outcome with
  | finished status printed errors =>
    simp only [Formatter.Outcome.complaint] at h
    split at h <;> cases h
  | broken f' => rw [Except.error.inj h]
  | _ => cases h

/-- The call that breaks is the one that is made for the output. -/
theorem Breaks.broken {f : Fault} (h : writer.Breaks host w o f) :
    writer.callsFor (writer.pathOf o) = [writer.callFor (writer.pathOf o)] ∧
      host.respond w.calls (writer.callFor (writer.pathOf o)) = .broken f := by
  have result := h.result
  cases hf : writer.formatter with
  | nil =>
    simp only [formatAfter, hf] at result
    cases result
  | cons program arguments =>
    simp only [formatAfter, hf] at result
    refine ⟨?_, broken_of_complaint (map_error_iff.1 result)⟩
    rw [callsFor, if_neg (by simp [hf])]

/-- What writing an output comes to: it cannot be saved, or it is saved, and then it is formatted if
it is a source file, which the formatter may break. -/
inductive Writes [Stack] (host : Host) (writer : Writer) (o : Output) (w : World) :
    Except Failure Written → World → Prop where
  | unsaved {e : Failure} {w' : World} (failed : writer.save host o w = (.error e, w')) :
      Writes host writer o w (.error e) w'
  | plain {w' : World} (saved : writer.save host o w = (.ok (), w'))
      (unformatted : (writer.formats && o.isSource) = false) :
      Writes host writer o w (.ok ⟨writer.pathOf o, none⟩) w'
  | formatted {v w' : World} {r : FormatResult} (saved : writer.save host o w = (.ok (), v))
      (formats : (writer.formats && o.isSource) = true)
      (result : writer.formatAfter host w.calls (writer.pathOf o) = .ok r)
      (formatted : writer.format host (writer.pathOf o) v = (.ok r, w'))
      (calls : w'.calls = w.calls ++ writer.callsFor (writer.pathOf o)) :
      Writes host writer o w (.ok ⟨writer.pathOf o, some r⟩) w'
  | broken {v w' : World} {f : Fault} (saved : writer.save host o w = (.ok (), v))
      (breaks : writer.Breaks host w o f)
      (broke : writer.format host (writer.pathOf o) v = (.error (.fault f), w'))
      (calls : w'.calls = w.calls ++ writer.callsFor (writer.pathOf o)) :
      Writes host writer o w (.error (.fault f)) w'

/-- What was written in a world is told by its outcome. -/
theorem writes_of_write [Stack] {outcome : Except Failure Written}
    (h : writer.write host o w = (outcome, w')) : Writes host writer o w outcome w' := by
  rw [write_eq_save] at h
  cases saved : writer.save host o w with
  | mk ended v =>
    cases ended with
    | error e =>
      rw [Run.bind_of_error saved] at h
      obtain ⟨rfl, rfl⟩ := Prod.mk.inj h
      exact .unsaved saved
    | ok u =>
      rw [Run.bind_of_ok saved] at h
      cases formats : writer.formats && o.isSource with
      | false =>
        rw [formats, if_neg Bool.false_ne_true] at h
        obtain ⟨rfl, rfl⟩ := Prod.mk.inj h
        exact .plain saved formats
      | true =>
        rw [formats, if_pos rfl] at h
        obtain ⟨w₁, formatted, -, calls⟩ := format_noted host writer (writer.pathOf o) v
        rw [save_calls saved] at formatted calls
        cases result : writer.formatAfter host w.calls (writer.pathOf o) with
        | error f =>
          rw [result] at formatted
          rw [Run.bind_of_error formatted] at h
          obtain ⟨rfl, rfl⟩ := Prod.mk.inj h
          exact .broken saved ⟨formats, result⟩ formatted calls
        | ok r =>
          rw [result] at formatted
          rw [Run.bind_of_ok formatted] at h
          obtain ⟨rfl, rfl⟩ := Prod.mk.inj h
          exact .formatted saved formats result formatted calls

/-- Saving an output stores its text. -/
theorem wrote_of_save [Stack] (h : writer.save host o w = (.ok (), w')) :
    Wrote host writer [o] w w' := by
  rcases save_cases host writer o w with ⟨e, t, -, saved⟩ | ⟨t, r, stored, saved⟩
  · cases h.symm.trans saved
  · obtain ⟨-, rfl⟩ := Prod.mk.inj (h.symm.trans saved)
    obtain ⟨bytes, encodes, holds, grows⟩ := writeText_ok stored
    have wrote : Wrote host writer [o] w { w with tree := t } := by
      refine ⟨⟨grows.mono (List.subset_append_left _ _), rfl⟩, fun _ _ o' ho' => ?_⟩
      obtain rfl := List.mem_singleton.1 ho'
      exact ⟨bytes, encodes, holds⟩
    exact wrote.append (.of_keeps (World.record_keeps host r _))

/-- Writing an output, with all that is recorded and the call of the formatter. -/
theorem write_ok [Stack] {file : Written} (h : writer.write host o w = (.ok file, w')) :
    file.path = writer.pathOf o ∧ Wrote host writer [o] w w' := by
  cases writes_of_write h with
  | plain saved => exact ⟨rfl, wrote_of_save saved⟩
  | formatted saved _ _ formatted =>
    exact ⟨rfl, (wrote_of_save saved).append (.of_keeps (format_keeps formatted))⟩

/-- Writing outputs one after another. -/
theorem mapM_write_ok [Stack] {outputs : List Output} {files : List Written}
    (h : outputs.mapM (writer.write host) w = (.ok files, w')) :
    files.map Written.path = outputs.map writer.pathOf ∧ Wrote host writer outputs w w' := by
  induction outputs generalizing w files with
  | nil =>
    obtain ⟨rfl, rfl⟩ := Run.pure_ok_iff.1 h
    exact ⟨rfl, .of_keeps .refl⟩
  | cons o outputs ih =>
    obtain ⟨file, w₁, rest, hfile, hrest, rfl⟩ := Run.mapM_cons_ok_iff.1 h
    obtain ⟨hpath, wrote⟩ := write_ok hfile
    obtain ⟨hpaths, wrote'⟩ := ih hrest
    exact ⟨by rw [List.map_cons, List.map_cons, hpath, hpaths], wrote.append wrote'⟩

end Writer

end Bindery
