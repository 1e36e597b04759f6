import Bindery.Proofs.Outcome
import Mathlib

/-!
# Computations that keep an invariant

A computation with a state that may fail is described by what it keeps of its state and by what it
may fail with (`Keeps`), as a specification that is put together from those of its parts.
-/

namespace Bindery

open Std.Do Outcome

set_option mvcgen.warning false

/-- A computation that keeps an invariant of its state, and fails in certain ways only. -/
abbrev Keeps {σ ε α : Type} (Inv : σ → Prop) (Trouble : ε → Prop)
    (x : StateT σ (Except ε) α) : Prop :=
  ⦃fun s => ⌜Inv s⌝⦄ x ⦃post⟨fun _ s => ⌜Inv s⌝, fun e => ⌜Trouble e⌝⟩⦄

/-- What a computation without a state ends with, as a specification. -/
theorem ends_spec {ε α : Type} {good : α → Prop} {P : ε → Prop} {x : Except ε α}
    (h : Ends good P x) : ⦃⌜True⌝⦄ x ⦃post⟨fun a => ⌜good a⌝, fun e => ⌜P e⌝⟩⦄ := by
  intro _
  cases x with
  | ok a => exact h.finds a rfl
  | error e => exact h.fails e rfl

section Keeps

variable {σ ε α β : Type} {Inv : σ → Prop} {Trouble : ε → Prop}

/-- What keeps an invariant is judged from every state that has it, in all its endings. -/
theorem keeps_iff {x : StateT σ (Except ε) α} :
    Keeps Inv Trouble x ↔ ∀ s, Inv s → Ends (fun e => Inv e.2) Trouble (x s) := by
  refine forall₂_congr fun s hs => ?_
  simp only [WP.wp, PredTrans.apply, PredTrans.pushArg, StateT.run]
  cases x s with
  | ok e => exact ⟨fun kept => ends_ok kept, fun ends => ends.finds e rfl⟩
  | error e => exact ⟨fun trouble => ends_error trouble, fun ends => ends.fails e rfl⟩

@[spec 2000] theorem throw_spec {e : ε} {Q : PostCond α (.arg σ (.except ε .pure))} :
    ⦃fun _ => Q.2.1 e⦄ (throw e : StateT σ (Except ε) α) ⦃Q⦄ := fun _ h => h

theorem keeps_throw {e : ε} (h : Trouble e) :
    Keeps Inv Trouble (throw e : StateT σ (Except ε) α) := fun _ _ => h

/-- Going through a list keeps what each step keeps. -/
theorem keeps_mapM {f : α → StateT σ (Except ε) β} (h : ∀ a, Keeps Inv Trouble (f a))
    (xs : List α) : Keeps Inv Trouble (xs.mapM f) := by
  induction xs with
  | nil => mvcgen [List.mapM_nil]
  | cons x xs ih => mvcgen [List.mapM_cons, h, ih]

theorem keeps_forM {f : α → StateT σ (Except ε) PUnit}
    (h : ∀ a, Keeps Inv Trouble (f a)) (xs : List α) : Keeps Inv Trouble (xs.forM f) := by
  induction xs with
  | nil => mvcgen [List.forM_nil]
  | cons x xs ih =>
    rw [List.forM_eq_forM] at *
    rw [List.forM_cons]
    mvcgen [h, ih]

end Keeps

end Bindery
