import Bindery.Proofs.Build.Written
import Bindery.Proofs.FileTree.Refusing

/-!
# Where a build stops

A computation that fails stopped at one of its parts, and those in front of it ended well
(`Run.bind_error_iff`, `Run.mapM_error`). Records never fail (`Run.Sure`), so an output that is not
written failed on its file, or the formatter broke over it (`Writer.write_error`). A file that the
file system refuses is left alone (`Writer.write_refused`). A component that stops a build had no
bundle, or had written the outputs in front of the refused one (`Build.emit_error`).
-/

namespace Bindery

/-! ## Computations that fail -/

namespace Run

variable {α β : Type} {w w' : World} {e : Failure}

/-- Computations in a row fail when the first one does, or the second one where the first one
ended. -/
theorem bind_error_iff {x : Run α} {f : α → Run β} :
    (x >>= f) w = (.error e, w') ↔
      x w = (.error e, w') ∨ ∃ a w₁, x w = (.ok a, w₁) ∧ f a w₁ = (.error e, w') := by
  have unfolded : (x >>= f) w = ExceptT.bindCont f (x w).1 (x w).2 := rfl
  rw [unfolded]
  cases h : x w with
  | mk outcome w₁ =>
    cases outcome with
    | ok a =>
      constructor
      · intro hf
        exact .inr ⟨a, w₁, rfl, hf⟩
      · rintro (⟨⟨⟩⟩ | ⟨a', w₁', ⟨⟩, hf⟩)
        exact hf
    | error e' =>
      constructor
      · intro hf
        obtain ⟨⟩ : ((Except.error e' : Except Failure β), w₁) = (.error e, w') := hf
        exact .inl rfl
      · rintro (⟨⟨⟩⟩ | ⟨a, w₁', ⟨⟩, -⟩)
        rfl

/-- What is no computation on worlds fails without changing any. -/
theorem ofExcept_error_iff {ε : Type} {wrap : ε → Failure} {x : Except ε α} :
    ofExcept wrap x w = (.error e, w') ↔
      ∃ reason, x = .error reason ∧ wrap reason = e ∧ w = w' := by
  cases x with
  | ok a =>
    show (Except.ok a, w) = (.error e, w') ↔ _
    simp
  | error reason =>
    show (Except.error (wrap reason), w) = (.error e, w') ↔ _
    simp

/-- A traversal that fails does so at one member, and went well over those in front of it. -/
theorem mapM_error {f : α → Run β} {xs : List α} (h : xs.mapM f w = (.error e, w')) :
    ∃ front x back ys w₁, xs = front ++ x :: back ∧ front.mapM f w = (.ok ys, w₁) ∧
      f x w₁ = (.error e, w') := by
  induction xs generalizing w with
  | nil =>
    rw [List.mapM_nil] at h
    cases h
  | cons x xs ih =>
    rw [List.mapM_cons] at h
    rcases bind_error_iff.1 h with h | ⟨y, w₁, hy, h⟩
    · exact ⟨[], x, xs, [], w, rfl, rfl, h⟩
    · rcases bind_error_iff.1 h with h | ⟨ys, w₂, -, h⟩
      · obtain ⟨front, x', back, ys, w₂, rfl, hfront, hx'⟩ := ih h
        refine ⟨x :: front, x', back, y :: ys, w₂, rfl, ?_, hx'⟩
        exact mapM_cons_ok_iff.2 ⟨y, w₁, ys, hy, hfront, rfl⟩
      · cases h

/-- A failure that is only renamed was one before. -/
theorem rethrow_error {x : Run α} {rename : Failure → Failure}
    (h : tryCatch x (fun e => throw (rename e)) w = (.error e, w')) :
    ∃ reason, x w = (.error reason, w') ∧ rename reason = e := by
  have caught : tryCatch x (fun e => throw (rename e)) w =
      tryCatch (ended (x w).1) (fun e => throw (rename e)) (x w).2 := rfl
  rw [caught] at h
  cases hx : x w with
  | mk outcome w₁ =>
    rw [hx] at h
    cases outcome with
    | ok a => cases h
    | error reason =>
      obtain ⟨hrename, rfl⟩ := Prod.mk.inj h
      exact ⟨reason, rfl, Except.error.inj hrename⟩

/-! ## Computations that never fail -/

/-- A computation that ends well in every world. -/
def Sure (x : Run α) : Prop := ∀ w e w', x w ≠ (.error e, w')

theorem sure_pure (a : α) : Sure (pure a) := by
  rintro w e w' ⟨⟩

theorem sure_record (host : Host) (r : Record) : Sure (Run.record host r) := by
  rintro w e w' ⟨⟩

end Run

/-! ## Writing that fails -/

namespace Writer

variable {host : Host} {writer : Writer} {w w' : World} {o : Output}

/-- An output that is not saved failed on its file. -/
theorem save_failed [Stack] {e : Failure} (h : writer.save host o w = (.error e, w')) :
    ∃ reason, failure (writer.pathOf o) reason = e ∧
      w.tree.writeText host.cwd (writer.pathOf o) o.text = (w'.tree, .error reason) ∧
      w' = { w with tree := w'.tree } := by
  rcases save_cases host writer o w with ⟨reason, t, stored, saved⟩ | ⟨t, r, -, saved⟩
  · obtain ⟨same, rfl⟩ := Prod.mk.inj (h.symm.trans saved)
    obtain rfl := Except.error.inj same
    exact ⟨reason, rfl, stored, rfl⟩
  · cases h.symm.trans saved

/-- An output that is not written could not be saved, or the formatter broke over it. -/
theorem write_error [Stack] {e : Failure} (h : writer.write host o w = (.error e, w')) :
    (∃ reason, failure (writer.pathOf o) reason = e ∧
        w.tree.writeText host.cwd (writer.pathOf o) o.text = (w'.tree, .error reason) ∧
        w' = { w with tree := w'.tree }) ∨
      ∃ f, e = .fault f ∧ writer.Breaks host w o f ∧ Wrote host writer [o] w w' := by
  cases writes_of_write h with
  | unsaved failed => exact .inl (save_failed failed)
  | broken saved breaks broke =>
    exact .inr ⟨_, rfl, breaks, (wrote_of_save saved).append (.of_keeps (format_keeps broke))⟩

/-- Where the file system refuses an output, no file is touched. -/
theorem write_refused [Stack] {e : WriteError}
    (h : writer.write host o w = (.error (.write e), w')) :
    e.path = writer.pathOf o ∧ World.Keeps [] w w' := by
  obtain ⟨reason, hfailure, hwrite, hw⟩ | ⟨f, ⟨⟩, -⟩ := write_error h
  unfold failure at hfailure
  split at hfailure
  · rename_i refused
    obtain rfl := Failure.write.inj hfailure
    have grows : FileTree.Grows [] w.tree w'.tree := FileTree.writeText_refused hwrite refused
    refine ⟨rfl, ⟨grows.mono (List.nil_subset _), ?_⟩⟩
    rw [hw]
  · cases hfailure

/-- Writing fails on the file system or on the formatter, and never as a build. -/
theorem write_ne_build [Stack] {e : BuildError} :
    writer.write host o w ≠ (.error (.build e), w') := by
  intro h
  obtain ⟨reason, hfailure, -⟩ | ⟨f, ⟨⟩, -⟩ := write_error h
  unfold failure at hfailure
  split at hfailure <;> cases hfailure

end Writer

/-! ## A component that stops a build -/

namespace Build

variable {host : Host} {generator : Generator} {writer : Writer} {w w' : World}

/-- Why a component stops a build: the outputs that were written of it, and those that were not. -/
inductive Stops (generator : Generator) (writer : Writer) (c : Component) :
    BuildProblem → List Output → List Output → Prop where
  | generation {reason : Text} (failed : generator c.config c.interface = .error reason) :
      Stops generator writer c (.generation reason) [] []
  | write {b : Bundle} {written rest : List Output} {o : Output} {problem : FileProblem}
      (generated : generator c.config c.interface = .ok b)
      (order : c.outputs b = written ++ o :: rest) :
      Stops generator writer c (.write ⟨problem, writer.pathOf o⟩) written (o :: rest)

/-- Outputs are refused only because the generator refuses, with a reason. -/
theorem outputs_error {c : Component} {e : BuildError} (h : outputs generator c = .error e) :
    ∃ reason, generator c.config c.interface = .error reason ∧
      e = ⟨c.interface.component, .generation reason⟩ := by
  unfold outputs at h
  split at h
  · cases h
  · rename_i reason hreason
    exact ⟨reason, hreason, (Except.error.inj h).symm⟩

/-- A failure is blamed on a component when a file could not be written, and else was blamed
before. -/
theorem blamed_eq_build {name : Text} {failure : Failure} {e : BuildError}
    (h : blamed name failure = .build e) :
    (∃ reason, failure = .write reason ∧ e = ⟨name, .write reason⟩) ∨ failure = .build e := by
  unfold blamed at h
  split at h
  · rename_i reason
    exact .inl ⟨reason, rfl, (Failure.build.inj h).symm⟩
  · exact .inr h

/-- The component that an error names stopped as it says, and what was written of it is there. -/
theorem emit_error [Stack] {c : Component} {e : BuildError}
    (h : emit host generator writer c w = (.error (.build e), w')) :
    e.component = c.interface.component ∧
      ∃ written rest, Stops generator writer c e.problem written rest ∧
        writer.Wrote host written w w' := by
  rcases Run.bind_error_iff.1 h with h | ⟨_, w₁, hstart, h⟩
  · exact absurd h (Run.sure_record _ _ _ _ _)
  have started : writer.Wrote host [] w w₁ := .of_keeps (Run.record_keeps hstart)
  rcases Run.bind_error_iff.1 h with h | ⟨os, w₂, hos, h⟩
  · obtain ⟨e', hgenerate, hwrap, rfl⟩ := Run.ofExcept_error_iff.1 h
    obtain ⟨reason, hreason, rfl⟩ := outputs_error hgenerate
    obtain rfl := Failure.build.inj hwrap
    exact ⟨rfl, [], [], .generation hreason, started⟩
  obtain ⟨generated, rfl⟩ := Run.ofExcept_ok_iff.1 hos
  obtain ⟨b, hb, rfl⟩ := outputs_ok generated
  rcases Run.bind_error_iff.1 h with h | ⟨files, w₃, -, h⟩
  · obtain ⟨failure, hfailed, hblamed⟩ := Run.rethrow_error h
    obtain ⟨written, o, rest, files, w₃, order, hwritten, hrefused⟩ := Run.mapM_error hfailed
    have wrote : writer.Wrote host written w w₃ := started.append (Writer.mapM_write_ok hwritten).2
    rcases blamed_eq_build hblamed with ⟨reason, rfl, rfl⟩ | rfl
    · obtain ⟨hpath, keeps⟩ := Writer.write_refused hrefused
      refine ⟨rfl, written, o :: rest, ?_, ?_⟩
      · show Stops generator writer c (.write reason) written (o :: rest)
        rw [show reason = ⟨reason.problem, writer.pathOf o⟩ by rw [← hpath]]
        exact .write hb order
      · exact List.append_nil written ▸ wrote.append (.of_keeps keeps)
    · exact absurd hrefused Writer.write_ne_build
  · rcases Run.bind_error_iff.1 h with h | ⟨_, w₄, -, h⟩
    · exact absurd h (Run.sure_record _ _ _ _ _)
    · exact absurd h (Run.sure_pure _ _ _ _)

/-- A sequential build that stops does so at one component, after all in front of it. -/
theorem write_error [Stack] {workers : Int} {components : List Component} {e : BuildError}
    (sequential : ¬1 < workers)
    (h : write host generator writer workers components w = (.error (.build e), w')) :
    ∃ front c back bundles written rest, components = front ++ c :: back ∧
      e.component = c.interface.component ∧
      List.Forall₂ (fun c b => generator c.config c.interface = .ok b) front bundles ∧
      Stops generator writer c e.problem written rest ∧
      writer.Wrote host (outputsOf front bundles ++ written) w w' := by
  simp only [write, if_neg sequential] at h
  rcases Run.bind_error_iff.1 h with h | ⟨files, w₁, -, h⟩
  · obtain ⟨front, c, back, files, w₁, hcomponents, hfront, hc⟩ := Run.mapM_error h
    obtain ⟨bundles, hbundles, -, wrote⟩ := mapM_emit_ok hfront
    obtain ⟨hname, written, rest, stops, wrote'⟩ := emit_error hc
    exact ⟨front, c, back, bundles, written, rest, hcomponents, hname, hbundles, stops,
      wrote.append wrote'⟩
  · rcases Run.bind_error_iff.1 h with h | ⟨_, w₂, -, h⟩
    · exact absurd h (Run.sure_record _ _ _ _ _)
    · exact absurd h (Run.sure_pure _ _ _ _)

end Build

end Bindery
