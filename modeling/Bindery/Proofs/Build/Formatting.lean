import Bindery.Proofs.Build.Sequential
import Bindery.Proofs.FileTree.Alike

/-!
# Formatting does not influence a build

A formatter is called for every source file that was written, once its text is in it, and whatever
it answers, the build goes on. So a build that formats ends as one that does not, unless a call
breaks (`Host.Answers`): both take the same steps but for records and calls (`Run.EndAlike`), and
their file trees are the same but for the file of the log. Which calls are made, and after what, is
read off the trail of the outputs written (`Trail`).
-/

namespace Bindery

open FileTree

/-! ## Worlds that are alike -/

/-- Worlds that differ in nothing but what was recorded and what was asked of the formatter. -/
structure World.Alike (w w' : World) : Prop where
  file : w.log.file = w'.log.file
  tree : SameBut w.log.file w.tree w'.tree

namespace World.Alike

variable {w w' w'' : World}

theorem refl (w : World) : w.Alike w := ⟨rfl, rfl⟩

theorem symm (h : w.Alike w') : w'.Alike w := ⟨h.file.symm, h.file ▸ h.tree.symm⟩

theorem trans (h : w.Alike w') (h' : w'.Alike w'') : w.Alike w'' :=
  ⟨h.file.trans h'.file, h.tree.trans (h.file ▸ h'.tree)⟩

/-- Recording changes nothing but the log. -/
theorem record (host : Host) (r : Record) (w : World) : w.Alike (w.record host r) := by
  refine ⟨(w.record_keeps host r).file.symm, ?_⟩
  unfold World.record
  cases hf : w.log.file with
  | none => exact .refl _
  | some names =>
    dsimp only
    split
    · exact (SameBut.refl _).extend names rfl _
    · exact .refl _

end World.Alike

/-- Worlds stay alike while nothing is done but to record and to call the formatter. -/
theorem World.Noted.alike {host : Host} {w w' : World} (h : World.Noted host w w') :
    w.Alike w' := by
  induction h with
  | refl w => exact .refl w
  | record r _ ih => exact (World.Alike.record host r _).trans ih
  | call calls _ ih => exact ⟨ih.file, ih.tree⟩

namespace Run

variable {α α' β β' γ δ : Type} {f : α → γ} {g : β → γ} {f' : α' → δ} {g' : β' → δ}
variable {x : Run α} {y : Run β}

/-- Computations that end in one way in worlds that are alike, and leave these alike. Of their
results only what `f` and `g` tell counts. -/
def EndAlike (f : α → γ) (g : β → γ) (x : Run α) (y : Run β) : Prop :=
  ∀ w w', w.Alike w' → (x w).1.map f = (y w').1.map g ∧ (x w).2.Alike (y w').2

namespace EndAlike

theorem pure {a : α} {b : β} (same : f a = g b) : EndAlike f g (pure a) (pure b) :=
  fun _ _ alike => ⟨congrArg Except.ok same, alike⟩

/-- Computations in a row end alike when their steps do, and what follows them on alike results. -/
theorem bind {k : α → Run α'} {k' : β → Run β'} (h : EndAlike f g x y)
    (hk : ∀ a b, f a = g b → EndAlike f' g' (k a) (k' b)) :
    EndAlike f' g' (x >>= k) (y >>= k') := by
  intro w w' alike
  obtain ⟨ends, after⟩ := h w w' alike
  show (ExceptT.bindCont k (x w).1 (x w).2).1.map f' =
      (ExceptT.bindCont k' (y w').1 (y w').2).1.map g' ∧
    (ExceptT.bindCont k (x w).1 (x w).2).2.Alike (ExceptT.bindCont k' (y w').1 (y w').2).2
  cases hx : x w with
  | mk outcome v =>
    cases hy : y w' with
    | mk outcome' v' =>
      rw [hx, hy] at ends after
      cases outcome with
      | ok a =>
        cases outcome' with
        | ok b => exact hk a b (Except.ok.inj ends) v v' after
        | error e => cases ends
      | error e =>
        cases outcome' with
        | ok b => cases ends
        | error e' =>
          obtain rfl := Except.error.inj ends
          exact ⟨rfl, after⟩

/-- Computations for each member of a list end alike when those for every member do. -/
theorem mapM {ι : Type} {k : ι → Run α} {k' : ι → Run β} (h : ∀ i, EndAlike f g (k i) (k' i))
    (xs : List ι) : EndAlike (List.map f) (List.map g) (xs.mapM k) (xs.mapM k') := by
  induction xs with
  | nil => exact pure rfl
  | cons i xs ih =>
    rw [List.mapM_cons, List.mapM_cons]
    refine (h i).bind fun a b same => ih.bind fun as bs sames => pure ?_
    rw [List.map_cons, List.map_cons, same, sames]

/-- Records may differ in what they say. -/
theorem record (host : Host) (r r' : Record) :
    EndAlike id id (Run.record host r) (Run.record host r') :=
  fun w w' alike =>
    ⟨rfl, (World.Alike.record host r w).symm.trans (alike.trans (World.Alike.record host r' w'))⟩

theorem ofExcept {ε : Type} (wrap : ε → Failure) (outcome : Except ε α) :
    EndAlike id id (Run.ofExcept wrap outcome) (Run.ofExcept wrap outcome) := by
  intro w w' alike
  cases outcome <;> exact ⟨rfl, alike⟩

/-- Failures renamed in the same way stay the same. -/
theorem rethrow (h : EndAlike f g x y) (rename : Failure → Failure) :
    EndAlike f g (tryCatch x fun e => throw (rename e)) (tryCatch y fun e => throw (rename e)) := by
  intro w w' alike
  obtain ⟨ends, after⟩ := h w w' alike
  have caught {ι : Type} (z : Run ι) (v : World) : tryCatch z (fun e => throw (rename e)) v =
      tryCatch (ended (z v).1) (fun e => throw (rename e)) (z v).2 := rfl
  rw [caught x w, caught y w']
  cases hx : (x w).1 with
  | ok a =>
    cases hy : (y w').1 with
    | ok b =>
      rw [hx, hy] at ends
      exact ⟨ends, after⟩
    | error e =>
      rw [hx, hy] at ends
      cases ends
  | error e =>
    cases hy : (y w').1 with
    | ok b =>
      rw [hx, hy] at ends
      cases ends
    | error e' =>
      rw [hx, hy] at ends
      obtain rfl := Except.error.inj ends
      exact ⟨rfl, after⟩

/-- The same text at the same path changes alike worlds alike. -/
theorem writeText [Stack] (wrap : FileError → Failure) (cwd p : Path) (text : Text) :
    EndAlike id id (changeTree wrap fun tree => tree.writeText cwd p text)
      (changeTree wrap fun tree => tree.writeText cwd p text) := by
  intro w w' alike
  obtain ⟨ends, trees⟩ := alike.tree.writeText cwd p text
  have changed (v : World) : changeTree wrap (fun tree => tree.writeText cwd p text) v =
      Run.ofExcept wrap (v.tree.writeText cwd p text).2
        { v with tree := (v.tree.writeText cwd p text).1 } := rfl
  rw [changed, changed, ends]
  exact ofExcept wrap _ _ _ ⟨alike.file, trees⟩

/-- A computation that ends well and leaves a world alike counts for nothing. -/
theorem skip {k : α → α'} {b : β'} (quiet : ∀ w, ∃ a w', x w = (.ok a, w') ∧ w.Alike w')
    (same : ∀ a, f' (k a) = g' b) :
    EndAlike f' g' (do return k (← x)) (Pure.pure b) := by
  intro w w' alike
  obtain ⟨a, v, hx, quiet⟩ := quiet w
  have ended : (do return k (← x) : Run α') w = (.ok (k a), v) := bind_of_ok hx
  rw [ended]
  exact ⟨congrArg Except.ok (same a), quiet.symm.trans alike⟩

end EndAlike

end Run

/-! ## Formatting or not -/

namespace Formatter

/-- What is wrong after a call that did not break can be told: nothing if it went well. -/
theorem exists_complaint (program : Text) {outcome : Outcome}
    (answered : ∀ f, outcome ≠ .broken f) :
    ∃ complaint, outcome.complaint program = .ok complaint := by
  cases outcome with
  | finished status printed errors =>
    by_cases fine : status = 0 <;> simp [Outcome.complaint, fine]
  | broken f => exact absurd rfl (answered f)
  | _ => exact ⟨_, rfl⟩

end Formatter

/-- No call of the formatter breaks: each one ends, or its program is not there, takes too long or
cannot be started. -/
def Host.Answers (host : Host) : Prop :=
  ∀ before call f, host.respond before call ≠ .broken f

/-- The writer that formats nothing. -/
def Writer.plain (writer : Writer) : Writer := { writer with formats := false }

namespace Writer

variable {host : Host} {writer : Writer} {w w' : World}

/-- What answers can be told, so every call for a file has a result. -/
theorem exists_result (answers : host.Answers) (before : List Formatter.Call) (path : Path) :
    ∃ r, writer.formatAfter host before path = .ok r := by
  cases hf : writer.formatter with
  | nil => exact ⟨⟨path, some Formatter.noCommand⟩, by simp only [formatAfter, hf]⟩
  | cons program arguments =>
    obtain ⟨complaint, told⟩ := Formatter.exists_complaint program
      (answers before (writer.callFor path))
    exact ⟨⟨path, complaint⟩, by simp only [formatAfter, hf, told]; rfl⟩

/-- A formatter that answers every call breaks over no output. -/
theorem not_breaks (answers : host.Answers) {o : Output} {f : Fault} :
    ¬writer.Breaks host w o f := by
  intro breaks
  obtain ⟨r, result⟩ : ∃ r, writer.formatAfter host w.calls (writer.pathOf o) = .ok r :=
    exists_result answers _ _
  cases result.symm.trans breaks.result

/-- Saving an output does not depend on whether outputs are formatted. -/
theorem save_alike [Stack] (host : Host) (writer : Writer) (o : Output) :
    Run.EndAlike id id (writer.save host o) (writer.plain.save host o) :=
  (Run.EndAlike.writeText _ _ _ _).bind fun _ _ _ => .record host _ _

/-- Writing an output ends alike, whether it is formatted or not. -/
theorem write_alike [Stack] (answers : host.Answers) (writer : Writer) (o : Output) :
    Run.EndAlike Written.path Written.path (writer.write host o) (writer.plain.write host o) := by
  rw [write_eq_save, write_eq_save]
  refine (save_alike host writer o).bind fun _ _ _ => ?_
  rw [if_neg (c := (writer.plain.formats && o.isSource) = true) (by simp [plain])]
  split
  · refine .skip (fun w => ?_) fun _ => rfl
    obtain ⟨w', formatted, noted, -⟩ := format_noted host writer (writer.pathOf o) w
    obtain ⟨r, result⟩ := exists_result answers w.calls (writer.pathOf o)
    rw [result] at formatted
    exact ⟨r, w', formatted, noted.alike⟩
  · exact .pure rfl

end Writer

namespace Build

variable {host : Host} {generator : Generator} {writer : Writer} {w w' : World}

/-- So does the emission of a component. -/
theorem emit_alike [Stack] (answers : host.Answers) (generator : Generator) (writer : Writer)
    (c : Component) :
    Run.EndAlike (List.map Written.path) (List.map Written.path) (emit host generator writer c)
      (emit host generator writer.plain c) := by
  refine (Run.EndAlike.record host _ _).bind fun _ _ _ => ?_
  refine (Run.EndAlike.ofExcept _ _).bind fun os os' same => ?_
  obtain rfl : os = os' := same
  refine (Run.EndAlike.rethrow (.mapM (Writer.write_alike answers writer) os) _).bind
    fun files files' same => ?_
  exact (Run.EndAlike.record host _ _).bind fun _ _ _ => .pure same

/-- So does a sequential build. -/
theorem write_alike [Stack] {workers : Int} (sequential : ¬1 < workers) (answers : host.Answers)
    (generator : Generator) (writer : Writer) (components : List Component) :
    Run.EndAlike Report.written Report.written (write host generator writer workers components)
      (write host generator writer.plain workers components) := by
  rw [write_eq, write_eq, if_neg sequential, if_neg sequential]
  refine (Run.EndAlike.mapM (emit_alike answers generator writer) components).bind
    fun files files' same => ?_
  have paths : (Report.ofWritten files.flatten).written =
      (Report.ofWritten files'.flatten).written := by
    show files.flatten.map Written.path = files'.flatten.map Written.path
    rw [List.map_flatten, List.map_flatten, same]
  exact (Run.EndAlike.record host _ _).bind fun _ _ _ => .pure paths

end Build

/-! ## What was written, and what was asked of the formatter -/

/-- A build on its way: outputs were written one after another, with records in between. -/
inductive Trail [Stack] (host : Host) (writer : Writer) :
    World → List Output → List Written → World → Prop
  | done (w : World) : Trail host writer w [] [] w
  | record {w w' : World} {os : List Output} {files : List Written} (r : Record)
      (rest : Trail host writer (w.record host r) os files w') : Trail host writer w os files w'
  | write {w v w' : World} {o : Output} {os : List Output} {file : Written} {files : List Written}
      (written : writer.write host o w = (.ok file, v)) (rest : Trail host writer v os files w') :
      Trail host writer w (o :: os) (file :: files) w'

namespace Writer

/-- The source files among outputs. -/
def sourcesOf (writer : Writer) (os : List Output) : List Path :=
  (os.filter Output.isSource).map writer.pathOf

/-- The results of formatting files one after another, after some calls, unless one breaks. -/
def formatsAfter (host : Host) (writer : Writer) :
    List Formatter.Call → List Path → Except Fault (List FormatResult)
  | _, [] => return []
  | before, path :: paths => do
    let result ← writer.formatAfter host before path
    let results ← formatsAfter host writer (before ++ writer.callsFor path) paths
    return result :: results

end Writer

namespace Trail

variable {host : Host} {writer : Writer} {w v w' : World} {os os' : List Output}
variable {files files' : List Written}

/-- Trails of outputs in a row make one trail. -/
theorem trans [Stack] (h : Trail host writer w os files v)
    (h' : Trail host writer v os' files' w') :
    Trail host writer w (os ++ os') (files ++ files') w' := by
  induction h with
  | done w => exact h'
  | record r _ ih => exact .record r (ih h')
  | write written _ ih => exact .write written (ih h')

/-- A trail passes the world in which it has come to an output. -/
theorem split [Stack] {o : Output} (h : Trail host writer w (os ++ o :: os') files w') :
    ∃ front file back v v', files = front ++ file :: back ∧ Trail host writer w os front v ∧
      writer.write host o v = (.ok file, v') ∧ Trail host writer v' os' back w' := by
  generalize whole : os ++ o :: os' = all at h
  induction h generalizing os with
  | done w => simp at whole
  | record r _ ih =>
    obtain ⟨front, file, back, v, v', rfl, before, written, after⟩ := ih whole
    exact ⟨front, file, back, v, v', rfl, .record r before, written, after⟩
  | write written rest ih =>
    cases os with
    | nil =>
      obtain ⟨rfl, rfl⟩ := List.cons.inj whole
      exact ⟨[], _, _, _, _, rfl, .done _, written, rest⟩
    | cons o' os =>
      obtain ⟨rfl, further⟩ := List.cons.inj whole
      obtain ⟨front, file, back, v, v', rfl, before, written', after⟩ := ih further
      exact ⟨_ :: front, file, back, v, v', rfl, .write written before, written', after⟩

/-- A trail tells of the paths of its outputs, in order. -/
theorem paths [Stack] (h : Trail host writer w os files w') :
    files.map Written.path = os.map writer.pathOf := by
  induction h with
  | done w => rfl
  | record _ _ ih => exact ih
  | write written _ ih =>
    rw [List.map_cons, List.map_cons, ih, (Writer.write_ok written).1]

/-- Along a trail the log stays in its file. -/
theorem file [Stack] (h : Trail host writer w os files w') : w'.log.file = w.log.file := by
  induction h with
  | done w => rfl
  | @record w _ _ _ r _ ih => exact ih.trans (w.record_keeps host r).file
  | write written _ ih => exact ih.trans (Writer.write_ok written).2.keeps.file

/-- Without formatting no calls are made. -/
theorem calls_of_plain [Stack] (plain : writer.formats = false)
    (h : Trail host writer w os files w') : w'.calls = w.calls := by
  induction h with
  | done w => rfl
  | record _ _ ih => exact ih
  | write written _ ih =>
    rw [ih]
    cases Writer.writes_of_write written with
    | plain saved => exact Writer.save_calls saved
    | formatted _ formats =>
      rw [plain, Bool.false_and] at formats
      cases formats

/-- With formatting, one call is made for every source file, in order, unless there is no command,
and the results are those of the calls. -/
theorem calls_of_formats [Stack] (formats : writer.formats = true)
    (h : Trail host writer w os files w') :
    w'.calls = w.calls ++ (writer.sourcesOf os).flatMap writer.callsFor ∧
      writer.formatsAfter host w.calls (writer.sourcesOf os) =
        .ok (files.filterMap Written.format) := by
  induction h with
  | done w => exact ⟨(List.append_nil _).symm, rfl⟩
  | record _ _ ih => exact ih
  | @write w v w' o os file files written _ ih =>
    obtain ⟨calls, results⟩ := ih
    cases Writer.writes_of_write written with
    | formatted _ called result _ made =>
      rw [formats, Bool.true_and] at called
      have here : writer.sourcesOf (o :: os) = writer.pathOf o :: writer.sourcesOf os := by
        simp [Writer.sourcesOf, called]
      rw [here, List.flatMap_cons, ← List.append_assoc, ← made, Writer.formatsAfter, ← made, result]
      refine ⟨calls, ?_⟩
      show (do return _ :: (← writer.formatsAfter host v.calls (writer.sourcesOf os))) = _
      rw [results]
      rfl
    | plain saved unformatted =>
      rw [formats, Bool.true_and] at unformatted
      have aside : writer.sourcesOf (o :: os) = writer.sourcesOf os := by
        simp [Writer.sourcesOf, unformatted]
      rw [aside, ← Writer.save_calls saved]
      exact ⟨calls, results⟩

end Trail

/-! ## Complaints -/

namespace Formatter

/-- Whether a call went well. -/
def Outcome.isFine : Outcome → Bool
  | .finished status _ _ => status == 0
  | _ => false

/-- An outcome is fine when the formatter has nothing to complain of. -/
theorem isFine_iff {program : Text} {outcome : Outcome} {complaint : Option Text}
    (told : outcome.complaint program = .ok complaint) :
    outcome.isFine = true ↔ complaint = none := by
  cases outcome with
  | finished status printed errors =>
    by_cases fine : status = 0
    · simp only [Outcome.complaint, if_pos fine, Except.ok.injEq] at told
      simp [Outcome.isFine, fine, ← told]
    · simp only [Outcome.complaint, if_neg fine, Except.ok.injEq] at told
      simp [Outcome.isFine, fine, ← told]
  | broken f => cases told
  | _ =>
    rw [← Except.ok.inj told]
    simp [Outcome.isFine]

/-- A complaint is never empty, if the reason for which a program cannot be started is not. -/
theorem complaint_ne_nil {program text : Text} {outcome : Outcome}
    (worded : ∀ reason, outcome = .refused reason → reason ≠ [])
    (told : outcome.complaint program = .ok (some text)) : text ≠ [] := by
  have spoken : ∀ words : String, words ≠ "" → Text.ofString words ≠ [] := by
    simp [Text.ofString, Text.ofChars]
  cases outcome with
  | finished status printed errors =>
    have told : (if status = 0 then .ok none else
      let ending := program ++ " exited with status " ++ toString status
      .ok (some (if (detail printed errors).isEmpty then ending
        else ending ++ ": " ++ detail printed errors))) =
        (.ok (some text) : Except Fault (Option Text)) := told
    split at told
    · cases told
    · rw [← Option.some.inj (Except.ok.inj told)]
      have ending :
          program ++ Text.ofString " exited with status " ++ Text.ofString (toString status) ≠ [] :=
        List.append_ne_nil_of_left_ne_nil
          (List.append_ne_nil_of_right_ne_nil _ (spoken " exited with status " (by decide))) _
      split
      · exact ending
      · exact List.append_ne_nil_of_left_ne_nil (List.append_ne_nil_of_left_ne_nil ending _) _
  | notFound =>
    rw [← Option.some.inj (Except.ok.inj told)]
    exact List.append_ne_nil_of_right_ne_nil _ (spoken _ (by decide))
  | timedOut =>
    rw [← Option.some.inj (Except.ok.inj told)]
    exact List.append_ne_nil_of_right_ne_nil _ (spoken _ (by decide))
  | refused reason =>
    rw [← Option.some.inj (Except.ok.inj told)]
    exact worded reason rfl
  | broken f => cases told

end Formatter

namespace Writer

variable {host : Host} {writer : Writer} {before : List Formatter.Call} {paths : List Path}

/-- Whether formatting a file goes well after some calls. Without a command it does not. -/
def formatsWell (host : Host) (writer : Writer) (before : List Formatter.Call) (path : Path) :
    Bool :=
  !writer.formatter.isEmpty && (host.respond before (writer.callFor path)).isFine

/-- The files among those formatted one after another, after some calls, that this fails for. -/
def failuresAfter (host : Host) (writer : Writer) : List Formatter.Call → List Path → List Path
  | _, [] => []
  | before, path :: paths =>
    let later := failuresAfter host writer (before ++ writer.callsFor path) paths
    if formatsWell host writer before path then later else path :: later

section Results

variable {path : Path} {r : FormatResult} {results : List FormatResult}

/-- The result for a path is about that path. -/
theorem path_of_formatAfter (h : writer.formatAfter host before path = .ok r) : r.path = path := by
  cases hf : writer.formatter with
  | nil =>
    simp only [formatAfter, hf] at h
    rw [← Except.ok.inj h]
  | cons program arguments =>
    simp only [formatAfter, hf] at h
    obtain ⟨complaint, -, rfl⟩ := Outcome.map_ok_iff.1 h
    rfl

/-- The result for a path is fine when the formatter does well after the calls before it. -/
theorem ok_of_formatAfter (h : writer.formatAfter host before path = .ok r) :
    r.ok = formatsWell host writer before path := by
  unfold formatsWell
  cases hf : writer.formatter with
  | nil =>
    simp only [formatAfter, hf] at h
    rw [← Except.ok.inj h]
    rfl
  | cons program arguments =>
    simp only [formatAfter, hf] at h
    obtain ⟨complaint, told, rfl⟩ := Outcome.map_ok_iff.1 h
    rw [Bool.eq_iff_iff]
    simp [FormatResult.ok, Formatter.isFine_iff told]

/-- The result of a formatter that failed has a message, if its refusals have words. -/
theorem message_of_formatAfter
    (worded : ∀ call reason, host.respond before call = .refused reason → reason ≠ [])
    (h : writer.formatAfter host before path = .ok r) (failed : r.ok = false) : r.message ≠ [] := by
  cases hf : writer.formatter with
  | nil =>
    simp only [formatAfter, hf] at h
    rw [← Except.ok.inj h]
    show Formatter.noCommand ≠ []
    decide
  | cons program arguments =>
    simp only [formatAfter, hf] at h
    obtain ⟨complaint, told, rfl⟩ := Outcome.map_ok_iff.1 h
    cases complaint with
    | none => cases failed
    | some text => exact Formatter.complaint_ne_nil (worded _) told

/-- The first of several files is formatted, and then the others are. -/
theorem formatsAfter_cons_ok {paths : List Path}
    (h : writer.formatsAfter host before (path :: paths) = .ok results) :
    ∃ r rest, writer.formatAfter host before path = .ok r ∧
      writer.formatsAfter host (before ++ writer.callsFor path) paths = .ok rest ∧
      results = r :: rest := by
  obtain ⟨r, first, h⟩ := Outcome.bind_ok_iff.1 h
  obtain ⟨rest, later, h⟩ := Outcome.bind_ok_iff.1 h
  exact ⟨r, rest, first, later, (Except.ok.inj h).symm⟩

/-- The failed results are those of the files that formatting fails for. -/
theorem paths_failed (h : writer.formatsAfter host before paths = .ok results) :
    (FormatResult.failed results).map FormatResult.path =
      writer.failuresAfter host before paths := by
  induction paths generalizing before results with
  | nil =>
    rw [← Except.ok.inj h]
    rfl
  | cons path paths ih =>
    obtain ⟨r, rest, first, later, rfl⟩ := formatsAfter_cons_ok h
    rw [failuresAfter, FormatResult.failed, List.filter_cons, ok_of_formatAfter first, ← ih later]
    by_cases well : formatsWell host writer before path = true
    · simp [well, FormatResult.failed]
    · simp [well, FormatResult.failed, path_of_formatAfter first]

/-- Every failed result has a message. -/
theorem message_failed
    (worded : ∀ before call reason, host.respond before call = .refused reason → reason ≠ [])
    (h : writer.formatsAfter host before paths = .ok results) :
    ∀ r ∈ FormatResult.failed results, r.message ≠ [] := by
  induction paths generalizing before results with
  | nil =>
    rw [← Except.ok.inj h]
    exact fun _ h => absurd h List.not_mem_nil
  | cons path paths ih =>
    obtain ⟨r, rest, first, later, rfl⟩ := formatsAfter_cons_ok h
    intro r' hr
    obtain ⟨hr, failed⟩ := List.mem_filter.1 hr
    rcases List.mem_cons.1 hr with rfl | hr
    · exact message_of_formatAfter (worded before) first (by simpa using failed)
    · exact ih later r' (List.mem_filter.2 ⟨hr, failed⟩)

end Results

end Writer

/-! ## The trail of a build -/

namespace Build

open Writer

variable {host : Host} {generator : Generator} {writer : Writer} {w v w' : World} {e : Failure}

/-- Where the trail of the first planned outputs ends a build may stop, perhaps with the next one,
which could not be written. -/
def Halts [Stack] (host : Host) (writer : Writer) (plan os : List Output) (v w' : World) : Prop :=
  w' = v ∨ ∃ o e, os ++ [o] <+: plan ∧ writer.write host o v = (.error e, w')

/-- More may be planned in front and behind. -/
theorem Halts.within [Stack] {plan os : List Output} (h : Halts host writer plan os v w')
    (front back : List Output) :
    Halts host writer (front ++ (plan ++ back)) (front ++ os) v w' := by
  refine h.imp_right fun ⟨o, e, next, failed⟩ => ⟨o, e, ?_, failed⟩
  rw [List.append_assoc]
  exact (List.prefix_append_right_inj _).2 (next.trans (List.prefix_append _ _))

section Halts

variable [Stack] {plan os : List Output} (answers : host.Answers)
  (h : Halts host writer plan os v w')

include answers h

/-- Where the formatter answers, a build that halts has changed no more than the file tree. -/
theorem Halts.rest : w' = { v with tree := w'.tree } := by
  rcases h with rfl | ⟨o, e, -, failed⟩
  · rfl
  · obtain ⟨reason, -, -, hw⟩ | ⟨f, -, breaks, -⟩ := Writer.write_error failed
    · exact hw
    · exact absurd breaks (not_breaks answers)

theorem Halts.calls : w'.calls = v.calls := by rw [h.rest answers]

theorem Halts.file : w'.log.file = v.log.file := by rw [h.rest answers]

end Halts

/-- A record alone is a trail without outputs. -/
theorem trail_record [Stack] {r : Record} {u : Unit} (h : Run.record host r w = (.ok u, w')) :
    Trail host writer w [] [] w' := by
  obtain rfl : w.record host r = w' := congrArg Prod.snd h
  exact .record r (.done _)

/-- Outputs written one after another make a trail. -/
theorem trail_writes [Stack] {os : List Output} {files : List Written}
    (h : os.mapM (writer.write host) w = (.ok files, w')) : Trail host writer w os files w' := by
  induction os generalizing w files with
  | nil =>
    obtain ⟨rfl, rfl⟩ := Run.pure_ok_iff.1 h
    exact .done w
  | cons o os ih =>
    obtain ⟨file, w₁, rest, hfile, hrest, rfl⟩ := Run.mapM_cons_ok_iff.1 h
    exact .write hfile (ih hrest)

/-- A component that is emitted leaves a trail of its outputs. -/
theorem trail_emit_ok [Stack] {c : Component} {files : List Written}
    (h : emit host generator writer c w = (.ok files, w')) :
    Trail host writer w (planned generator c) files w' := by
  obtain ⟨u, w₁, hstart, h⟩ := Run.bind_ok_iff.1 h
  obtain ⟨os, w₂, hos, h⟩ := Run.bind_ok_iff.1 h
  obtain ⟨generated, rfl⟩ := Run.ofExcept_ok_iff.1 hos
  obtain ⟨written, w₃, hwritten, h⟩ := Run.bind_ok_iff.1 h
  obtain ⟨u', w₄, hend, h⟩ := Run.bind_ok_iff.1 h
  obtain ⟨rfl, rfl⟩ := Run.pure_ok_iff.1 h
  rw [planned_of_ok generated]
  have begun := (trail_record hstart).trans (trail_writes (Run.rethrow_ok hwritten))
  simpa using begun.trans (trail_record hend)

/-- A component that stops a build leaves a trail of its first outputs. -/
theorem trail_emit_error [Stack] {c : Component}
    (h : emit host generator writer c w = (.error e, w')) :
    ∃ os files v, os <+: planned generator c ∧ Trail host writer w os files v ∧
      Halts host writer (planned generator c) os v w' := by
  rcases Run.bind_error_iff.1 h with h | ⟨u, w₁, hstart, h⟩
  · exact absurd h (Run.sure_record _ _ _ _ _)
  rcases Run.bind_error_iff.1 h with h | ⟨os, w₂, hos, h⟩
  · obtain ⟨reason, -, -, rfl⟩ := Run.ofExcept_error_iff.1 h
    exact ⟨[], [], w₁, List.nil_prefix, trail_record hstart, .inl rfl⟩
  obtain ⟨generated, rfl⟩ := Run.ofExcept_ok_iff.1 hos
  rcases Run.bind_error_iff.1 h with h | ⟨files, w₃, -, h⟩
  · obtain ⟨reason, hfailed, -⟩ := Run.rethrow_error h
    obtain ⟨front, o, back, files, w₃, rfl, hfront, hrefused⟩ := Run.mapM_error hfailed
    rw [planned_of_ok generated]
    refine ⟨front, files, w₃, List.prefix_append _ _, ?_, .inr ⟨o, reason, ?_, hrefused⟩⟩
    · simpa using (trail_record hstart).trans (trail_writes hfront)
    · exact ⟨back, List.append_assoc _ _ _⟩
  · rcases Run.bind_error_iff.1 h with h | ⟨_, w₄, -, h⟩
    · exact absurd h (Run.sure_record _ _ _ _ _)
    · exact absurd h (Run.sure_pure _ _ _ _)

/-- Components emitted one after another make a trail of all their outputs. -/
theorem trail_mapM_emit [Stack] {components : List Component} {files : List (List Written)}
    (h : components.mapM (emit host generator writer) w = (.ok files, w')) :
    Trail host writer w (plan generator components) files.flatten w' := by
  induction components generalizing w files with
  | nil =>
    obtain ⟨rfl, rfl⟩ := Run.pure_ok_iff.1 h
    exact .done w
  | cons c components ih =>
    obtain ⟨first, w₁, rest, hfirst, hrest, rfl⟩ := Run.mapM_cons_ok_iff.1 h
    exact (trail_emit_ok hfirst).trans (ih hrest)

/-- A sequential build that ends well leaves a trail of all planned outputs, and reports on it. -/
theorem trail_write_ok [Stack] {workers : Int} {components : List Component} {report : Report}
    (sequential : ¬1 < workers)
    (h : write host generator writer workers components w = (.ok report, w')) :
    ∃ files, Trail host writer w (plan generator components) files w' ∧
      report = Report.ofWritten files := by
  rw [write_eq, if_neg sequential] at h
  obtain ⟨files, w₁, hfiles, h⟩ := Run.bind_ok_iff.1 h
  obtain ⟨u, w₂, hrecord, h⟩ := Run.bind_ok_iff.1 h
  obtain ⟨rfl, rfl⟩ := Run.pure_ok_iff.1 h
  refine ⟨files.flatten, ?_, rfl⟩
  simpa using (trail_mapM_emit hfiles).trans (trail_record hrecord)

/-- One that stops leaves a trail of the first planned outputs. -/
theorem trail_write_error [Stack] {workers : Int} {components : List Component}
    (sequential : ¬1 < workers)
    (h : write host generator writer workers components w = (.error e, w')) :
    ∃ os files v, os <+: plan generator components ∧ Trail host writer w os files v ∧
      Halts host writer (plan generator components) os v w' := by
  rw [write_eq, if_neg sequential] at h
  rcases Run.bind_error_iff.1 h with h | ⟨files, w₁, -, h⟩
  · obtain ⟨front, c, back, files, w₁, rfl, hfront, hc⟩ := Run.mapM_error h
    obtain ⟨os, more, v, first, trail, halts⟩ := trail_emit_error hc
    have whole : plan generator (front ++ c :: back) =
        plan generator front ++ (planned generator c ++ plan generator back) := by
      unfold plan
      rw [List.flatMap_append, List.flatMap_cons]
    rw [whole]
    refine ⟨plan generator front ++ os, _, v, ?_, (trail_mapM_emit hfront).trans trail,
      halts.within _ _⟩
    exact (List.prefix_append_right_inj _).2 (first.trans (List.prefix_append _ _))
  · rcases Run.bind_error_iff.1 h with h | ⟨u, w₂, -, h⟩
    · exact absurd h (Run.sure_record _ _ _ _ _)
    · exact absurd h (Run.sure_pure _ _ _ _)

/-- A source file is formatted in a world `v` on the way of a build: the outputs in front of it were
written, its own text is in its file, and then the formatter is called and the build goes on. -/
structure Formats [Stack] (host : Host) (writer : Writer) (w : World) (front : List Output)
    (o : Output) (back : List Output) (w' v : World) : Prop where
  came : ∃ files u, Trail host writer w front files u ∧ writer.save host o u = (.ok (), v)
  calls : v.calls = w.calls ++ (writer.sourcesOf front).flatMap writer.callsFor
  saved : Saved host writer v o
  goes : ∃ r files u, writer.format host (writer.pathOf o) v = (.ok r, u) ∧
    u.calls = v.calls ++ writer.callsFor (writer.pathOf o) ∧ Trail host writer u back files w'

/-- On a trail each source is formatted after its text was written, and before the next output
is. -/
theorem formats_of_trail [Stack] (formats : writer.formats = true) {front back : List Output}
    {o : Output} {files : List Written} (h : Trail host writer w (front ++ o :: back) files w')
    (source : o.isSource = true) : ∃ v, Formats host writer w front o back w' v := by
  obtain ⟨before, file, after, u, u', -, came, written, goes⟩ := h.split
  cases writes_of_write written with
  | plain _ unformatted =>
    rw [formats, source] at unformatted
    cases unformatted
  | @formatted v _ r saved _ _ formatted calls =>
    have same : v.calls = u.calls := save_calls saved
    refine ⟨v, ⟨before, u, came, saved⟩, ?_, (save_ok saved).2, _, after, u', formatted, ?_, goes⟩
    · rw [same, (came.calls_of_formats formats).1]
    · rw [calls, same]

/-- Formatting does not influence a sequential build, while no call of the formatter breaks. It ends
as without formatting, with the same files written or the same failure, and leaves the same file
tree but for the file of the log, if there is one. What was written is the trail of the first
outputs of the plan, where a build that stops does so, perhaps with the next one, and of all of them
in a build that ends well. The formatter is called once for every source file among them, in order,
each time when the text of that file is in it, and for nothing else. The report warns of those
files, in order, that formatting failed for, and each warning has a message. -/
theorem write_formatting [Stack] {workers : Int} {components : List Component}
    {outcome outcome' : Except Failure Report} {w₁ w₂ : World} (sequential : ¬1 < workers)
    (formats : writer.formats = true) (answers : host.Answers)
    (worded : ∀ before call reason, host.respond before call = .refused reason → reason ≠ [])
    (h : write host generator writer workers components w = (outcome, w₁))
    (h' : write host generator writer.plain workers components w = (outcome', w₂)) :
    outcome.map Report.written = outcome'.map Report.written ∧
    SameBut w.log.file w₁.tree w₂.tree ∧
    w₂.calls = w.calls ∧
    ∃ os files v, os <+: plan generator components ∧ Trail host writer w os files v ∧
      Halts host writer (plan generator components) os v w₁ ∧
      w₁.calls = w.calls ++ (writer.sourcesOf os).flatMap writer.callsFor ∧
      (∀ front o back, os = front ++ o :: back → o.isSource = true →
        ∃ u, Formats host writer w front o back v u) ∧
      ∀ report, outcome = .ok report →
        os = plan generator components ∧ report.written = os.map writer.pathOf ∧
        (writer.formatsAfter host w.calls (writer.sourcesOf os)).map FormatResult.failed =
          .ok report.warnings ∧
        report.warnings.map FormatResult.path =
          writer.failuresAfter host w.calls (writer.sourcesOf os) ∧
        ∀ r ∈ report.warnings, r.message ≠ [] := by
  obtain ⟨ends, alike⟩ := write_alike sequential answers generator writer components w w (.refl w)
  rw [h, h'] at ends alike
  have file : w₁.log.file = w.log.file := by
    cases outcome with
    | ok report =>
      obtain ⟨files, trail, -⟩ := trail_write_ok sequential h
      exact trail.file
    | error e =>
      obtain ⟨os, files, v, -, trail, halts⟩ := trail_write_error sequential h
      rw [halts.file answers, trail.file]
  have plainCalls : w₂.calls = w.calls := by
    cases outcome' with
    | ok report =>
      obtain ⟨files, trail, -⟩ := trail_write_ok sequential h'
      exact trail.calls_of_plain rfl
    | error e =>
      obtain ⟨os, files, v, -, trail, halts⟩ := trail_write_error sequential h'
      rw [halts.calls answers, trail.calls_of_plain rfl]
  refine ⟨ends, file ▸ alike.tree, plainCalls, ?_⟩
  cases outcome with
  | ok report =>
    obtain ⟨files, trail, rfl⟩ := trail_write_ok sequential h
    obtain ⟨calls, results⟩ := trail.calls_of_formats formats
    refine ⟨_, files, w₁, List.prefix_rfl, trail, .inl rfl, calls, ?_, ?_⟩
    · rintro front o back whole source
      exact formats_of_trail formats (whole ▸ trail) source
    · rintro _ ⟨⟩
      refine ⟨rfl, trail.paths, ?_, paths_failed results, message_failed worded results⟩
      rw [results]
      rfl
  | error e =>
    obtain ⟨os, files, v, first, trail, halts⟩ := trail_write_error sequential h
    refine ⟨os, files, v, first, trail, halts, ?_, ?_, nofun⟩
    · rw [halts.calls answers, (trail.calls_of_formats formats).1]
    · rintro front o back whole source
      exact formats_of_trail formats (whole ▸ trail) source

/-- A host whose formatter refuses the first file only. -/
def pickyHost : Host where
  cwd := ⟨.root, []⟩
  home := ⟨.root, []⟩
  respond := fun before _ =>
    match before with
    | [] => .finished 1 none (some "line too long\nand more")
    | _ => .finished 0 none none

theorem pickyHost_answers : pickyHost.Answers := by
  intro before call f broken
  unfold pickyHost at broken
  cases before <;> cases broken

/-- A writer that has its files formatted. -/
def formattingWriter : Writer where
  outDir := ⟨.here, ["out"]⟩

/-- Of two files the first one is warned of. -/
theorem write_formatting_picky :
    ∃ report w₁ outcome' w₂,
      write pickyHost libraryName formattingWriter 1 [shared "left" "x", shared "right" "y"]
        { tree := .dir [] } = (.ok report, w₁) ∧
      write pickyHost libraryName formattingWriter.plain 1 [shared "left" "x", shared "right" "y"]
        { tree := .dir [] } = (outcome', w₂) ∧
      Except.ok report.written = outcome'.map Report.written ∧
      w₁.tree = w₂.tree ∧ w₂.calls = [] ∧
      report.warnings.map FormatResult.path = formattingWriter.failuresAfter pickyHost []
        (formattingWriter.sourcesOf (plan libraryName [shared "left" "x", shared "right" "y"])) ∧
      report.warnings.map FormatResult.message =
        [Text.ofString "ktlint exited with status 1: line too long"] := by
  obtain ⟨report, h⟩ : ∃ report, write pickyHost libraryName formattingWriter 1
      [shared "left" "x", shared "right" "y"] { tree := .dir [] } = (.ok report, _) :=
    Run.exists_of_isOk (by decide +kernel)
  have worded : ∀ before call reason, pickyHost.respond before call = .refused reason →
      reason ≠ [] := by
    intro before call reason h
    unfold pickyHost at h
    cases before <;> cases h
  obtain ⟨ends, trees, plainCalls, os, files, v, -, -, -, -, -, reported⟩ :=
    write_formatting (by decide) rfl pickyHost_answers worded h (Prod.ext rfl rfl)
  obtain ⟨rfl, -, -, failures, -⟩ := reported report rfl
  refine ⟨report, _, _, _, h, rfl, ends, trees, plainCalls, failures, ?_⟩
  have shown : (write pickyHost libraryName formattingWriter 1
      [shared "left" "x", shared "right" "y"] { tree := .dir [] }).1.map
        (fun report => report.warnings.map FormatResult.message) =
      .ok [Text.ofString "ktlint exited with status 1: line too long"] := by decide +kernel
  rw [h] at shown
  exact Except.ok.inj shown

end Build

end Bindery
