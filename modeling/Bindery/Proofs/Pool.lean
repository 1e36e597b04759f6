/-!
# Tasks that take turns

A pool has tasks and a state that they share. In a turn one task takes one step (`Pool.turn`), and a
schedule says whose turn it is (`Pool.turns`), so what holds under every schedule holds of every
interleaving of the tasks that keeps the steps of each in order. What a step of any task keeps,
every schedule keeps (`Pool.turns_preserves`).
-/

namespace Bindery

/-- Tasks, and what they share. -/
structure Pool (σ τ : Type) where
  shared : σ
  tasks : List τ

namespace Pool

variable {σ τ : Type} {step : σ → τ → σ × τ} {p p' p'' : Pool σ τ}

/-- One step of the task at a position. Where no task is nothing happens. -/
def turn (step : σ → τ → σ × τ) (p : Pool σ τ) (i : Nat) : Pool σ τ :=
  match p.tasks[i]? with
  | some t => ⟨(step p.shared t).1, p.tasks.set i (step p.shared t).2⟩
  | none => p

/-- Steps of the tasks that a schedule names, one after another. -/
def turns (step : σ → τ → σ × τ) (schedule : List Nat) (p : Pool σ τ) : Pool σ τ :=
  schedule.foldl (turn step) p

/-- The turn of a task among others. -/
theorem turn_append (s : σ) (front : List τ) (t : τ) (back : List τ) :
    turn step ⟨s, front ++ t :: back⟩ front.length =
      ⟨(step s t).1, front ++ (step s t).2 :: back⟩ := by
  have there : (front ++ t :: back)[front.length]? = some t := by
    rw [List.getElem?_append_right (Nat.le_refl _), Nat.sub_self, List.getElem?_cons_zero]
  have put : (front ++ t :: back).set front.length (step s t).2 =
      front ++ (step s t).2 :: back := by
    rw [List.set_append_right _ _ (Nat.le_refl _), Nat.sub_self, List.set_cons_zero]
  unfold turn
  dsimp only
  rw [there]
  dsimp only
  rw [put]

/-- A turn changes nothing, or is that of a task among others. -/
theorem turn_cases (step : σ → τ → σ × τ) (p : Pool σ τ) (i : Nat) :
    turn step p i = p ∨ ∃ front t back, p.tasks = front ++ t :: back ∧
      turn step p i = ⟨(step p.shared t).1, front ++ (step p.shared t).2 :: back⟩ := by
  by_cases h : i < p.tasks.length
  · right
    have parts : p.tasks = p.tasks.take i ++ p.tasks[i] :: p.tasks.drop (i + 1) := by
      rw [← List.drop_eq_getElem_cons h, List.take_append_drop]
    have position : (p.tasks.take i).length = i := by
      rw [List.length_take]
      omega
    refine ⟨_, _, _, parts, ?_⟩
    calc
      turn step p i
        = turn step ⟨p.shared, p.tasks.take i ++ p.tasks[i] :: p.tasks.drop (i + 1)⟩
            (p.tasks.take i).length := by rw [← parts, position]
      _ = _ := turn_append p.shared _ p.tasks[i] _
  · left
    have absent : p.tasks[i]? = none := List.getElem?_eq_none (by omega)
    unfold turn
    rw [absent]

/-- What a step of any task keeps, every schedule keeps. -/
theorem turns_preserves {P : Pool σ τ → Prop}
    (keeps : ∀ s front t back, P ⟨s, front ++ t :: back⟩ →
      P ⟨(step s t).1, front ++ (step s t).2 :: back⟩)
    (schedule : List Nat) (h : P p) : P (turns step schedule p) := by
  induction schedule generalizing p with
  | nil => exact h
  | cons i schedule ih =>
    refine ih ?_
    rcases turn_cases step p i with same | ⟨front, t, back, tasks, turned⟩
    · rw [same]
      exact h
    · rw [turned]
      apply keeps
      rw [← tasks]
      exact h

/-! ## Some schedule -/

/-- Some schedule leads from one pool to another. -/
def Leads (step : σ → τ → σ × τ) (p p' : Pool σ τ) : Prop :=
  ∃ schedule, turns step schedule p = p'

theorem Leads.refl : Leads step p p := ⟨[], rfl⟩

theorem Leads.trans (h : Leads step p p') (h' : Leads step p' p'') : Leads step p p'' := by
  obtain ⟨schedule, rfl⟩ := h
  obtain ⟨schedule', rfl⟩ := h'
  exact ⟨schedule ++ schedule', List.foldl_append⟩

/-- Some schedule gets tasks from their states to others while all tasks around them wait. -/
def Runs (step : σ → τ → σ × τ) (s : σ) (tasks : List τ) (s' : σ) (tasks' : List τ) : Prop :=
  ∀ front back, Leads step ⟨s, front ++ (tasks ++ back)⟩ ⟨s', front ++ (tasks' ++ back)⟩

section Runs

variable {s s' s'' : σ} {t t' : τ} {tasks tasks' tasks'' others others' : List τ}

theorem Runs.refl : Runs step s tasks s tasks := fun _ _ => .refl

theorem Runs.trans (h : Runs step s tasks s' tasks') (h' : Runs step s' tasks' s'' tasks'') :
    Runs step s tasks s'' tasks'' :=
  fun front back => (h front back).trans (h' front back)

/-- One step of a task alone is a run. -/
theorem runs_of_step (h : step s t = (s', t')) : Runs step s [t] s' [t'] := by
  intro front back
  refine ⟨[front.length], ?_⟩
  have turned : turn step ⟨s, front ++ t :: back⟩ front.length = _ := turn_append s front t back
  rw [h] at turned
  exact turned

/-- Some tasks run, and then others do. -/
theorem Runs.append (h : Runs step s tasks s' tasks') (h' : Runs step s' others s'' others') :
    Runs step s (tasks ++ others) s'' (tasks' ++ others') := by
  intro front back
  have first := h front (others ++ back)
  have second := h' (front ++ tasks') back
  rw [List.append_assoc, List.append_assoc] at second
  rw [List.append_assoc, List.append_assoc]
  exact first.trans second

/-- A run of all tasks is one of the ways in which the pool can go. -/
theorem Runs.leads (h : Runs step s tasks s' tasks') : Leads step ⟨s, tasks⟩ ⟨s', tasks'⟩ := by
  have whole := h [] []
  rw [List.append_nil, List.append_nil] at whole
  exact whole

end Runs

end Pool

end Bindery
