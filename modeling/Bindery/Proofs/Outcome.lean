import Mathlib.Data.List.Perm.Basic
import Bindery.Failure

/-!
# Inverting computations that may fail

When a computation in `Except` ends well, so did every part of it. `bind_ok_iff` peels off one
part, and `mapM_ok_iff` turns a traversal into a relation between the list that was gone through
and the list of its results.

A computation that fails is described by what it may fail with: `Only` holds of a whole when it
holds of its parts, and `Ends` says of a computation what it may find, too. A traversal fails with
what it fails with first (`FailsFirst`). Two computations that go the same way are compared part by
part (`SameEnd`).
-/

namespace Bindery.Outcome

variable {ε ε' α β : Type}

/-- Two steps end well when the first does, and the second with what it gave. -/
theorem bind_ok_iff {x : Except ε α} {f : α → Except ε β} {b : β} :
    (x >>= f) = .ok b ↔ ∃ a, x = .ok a ∧ f a = .ok b := by
  cases x <;> simp [bind, Except.bind]

theorem map_ok_iff {x : Except ε α} {f : α → β} {b : β} :
    (f <$> x) = .ok b ↔ ∃ a, x = .ok a ∧ f a = b := by
  cases x <;> simp [Functor.map, Except.map]

theorem map_error_iff {x : Except ε α} {f : α → β} {e : ε} : x.map f = .error e ↔ x = .error e := by
  cases x <;> simp [Except.map]

theorem pure_ok_iff {a b : α} : (pure a : Except ε α) = .ok b ↔ a = b := by
  simp [pure, Except.pure]

/-- A bind ends well when both computations do, if whether the second does hangs on nothing that
the first finds. -/
theorem exists_bind_and {x : Except ε α} {f : α → Except ε β} {fine : Prop}
    (hf : ∀ a, x = .ok a → ((∃ b, f a = .ok b) ↔ fine)) :
    (∃ b, (x >>= f) = .ok b) ↔ (∃ a, x = .ok a) ∧ fine := by
  simp only [bind_ok_iff]
  constructor
  · rintro ⟨b, a, ha, hb⟩
    exact ⟨⟨a, ha⟩, (hf a ha).1 ⟨b, hb⟩⟩
  · rintro ⟨⟨a, ha⟩, h⟩
    obtain ⟨b, hb⟩ := (hf a ha).2 h
    exact ⟨b, a, ha, hb⟩

theorem exists_bind_pure {x : Except ε α} {g : α → β} :
    (∃ b, (do return g (← x) : Except ε β) = .ok b) ↔ ∃ a, x = .ok a :=
  (exists_bind_and fun a _ => iff_of_true ⟨g a, rfl⟩ trivial).trans (iff_of_eq (and_true _))

theorem exists_map {x : Except ε α} {g : α → β} :
    (∃ b, g <$> x = .ok b) ↔ ∃ a, x = .ok a := by
  simp only [map_ok_iff]
  exact ⟨fun ⟨_, a, ha, _⟩ => ⟨a, ha⟩, fun ⟨a, ha⟩ => ⟨g a, a, ha, rfl⟩⟩

/-- What is known to have ended well ended with something. -/
theorem exists_of_isOk {x : Except ε α} (h : x.isOk = true) : ∃ a, x = .ok a := by
  cases x with
  | ok a => exact ⟨a, rfl⟩
  | error e => cases h

theorem throw_ne_ok {e : ε} {a : α} : (throw e : Except ε α) ≠ .ok a := by
  rintro ⟨⟩

theorem mapError_ok_iff {x : Except ε α} {wrap : ε → ε'} {a : α} :
    x.mapError wrap = .ok a ↔ x = .ok a := by
  cases x <;> simp [Except.mapError]

/-- A renamed error is the new name of an error. -/
theorem mapError_error_iff {x : Except ε α} {wrap : ε → ε'} {e : ε'} :
    x.mapError wrap = .error e ↔ ∃ reason, x = .error reason ∧ wrap reason = e := by
  cases x <;> simp [Except.mapError]

/-- Refusals of a configuration are failures; what is accepted stays the same. -/
theorem config_ok_iff {x : Except ConfigError α} {a : α} :
    (liftM x : Except Failure α) = .ok a ↔ x = .ok a :=
  mapError_ok_iff

theorem fault_ok_iff {x : Except Fault α} {a : α} :
    (liftM x : Except Failure α) = .ok a ↔ x = .ok a :=
  mapError_ok_iff

/-- A step for each member of a list ends well when it does for every member. -/
theorem mapM_ok_iff {f : α → Except ε β} {xs : List α} {ys : List β} :
    xs.mapM f = .ok ys ↔ List.Forall₂ (fun x y => f x = .ok y) xs ys := by
  induction xs generalizing ys with
  | nil =>
    rw [List.mapM_nil, pure_ok_iff, List.forall₂_nil_left_iff]
    exact eq_comm
  | cons x xs ih =>
    simp only [List.mapM_cons, bind_ok_iff, pure_ok_iff, List.forall₂_cons_left_iff, ih]
    constructor
    · rintro ⟨y, hy, ys', hys, rfl⟩
      exact ⟨y, ys', hy, hys, rfl⟩
    · rintro ⟨y, ys', hy, hys, rfl⟩
      exact ⟨y, hy, ys', hys, rfl⟩

/-- A computation on what may be there ends well when there is nothing, or when it ends well on what
is there. -/
theorem optionMapM_ok_iff {f : α → Except ε β} {x : Option α} {y : Option β} :
    x.mapM f = .ok y ↔ x.map f = y.map Except.ok := by
  cases x <;> cases y <;> simp [pure_ok_iff, map_ok_iff]

/-- A step that may not be made fails only when it is made. -/
theorem optionMapM_error_iff {f : α → Except ε β} {x : Option α} {e : ε} :
    x.mapM f = .error e ↔ ∃ a, x = some a ∧ f a = .error e := by
  cases x with
  | none => simp [pure, Except.pure]
  | some a => cases h : f a <;> simp [h, Functor.map, Except.map]

/-- Members of a list are all found when each is. -/
theorem mapM_some_iff {f : α → Option β} {xs : List α} {ys : List β} :
    xs.mapM f = some ys ↔ List.Forall₂ (fun x y => f x = some y) xs ys := by
  induction xs generalizing ys with
  | nil =>
    rw [List.mapM_nil, Option.pure_def, Option.some_inj, List.forall₂_nil_left_iff]
    exact eq_comm
  | cons x xs ih =>
    simp only [List.mapM_cons, Option.bind_eq_bind, Option.bind_eq_some_iff, Option.pure_def,
      Option.some_inj, List.forall₂_cons_left_iff, ih]
    constructor
    · rintro ⟨y, hy, ys', hys, rfl⟩
      exact ⟨y, ys', hy, hys, rfl⟩
    · rintro ⟨y, ys', hy, hys, rfl⟩
      exact ⟨y, hy, ys', hys, rfl⟩

/-- Computations that are the same on members that go together are so on the lists. -/
theorem mapM_eq_of_forall₂ {m : Type → Type} [Monad m] [LawfulMonad m] {γ : Type} {f : α → m γ}
    {g : β → m γ} {xs : List α} {ys : List β} (h : List.Forall₂ (fun x y => f x = g y) xs ys) :
    xs.mapM f = ys.mapM g := by
  induction h with
  | nil => rfl
  | cons same _ ih => rw [List.mapM_cons, List.mapM_cons, same, ih]

theorem isSome_mapM (f : α → Option β) (xs : List α) :
    (xs.mapM f).isSome = xs.all fun x => (f x).isSome := by
  induction xs with
  | nil => rfl
  | cons x xs ih =>
    rw [List.mapM_cons, List.all_cons, ← ih]
    cases f x with
    | none => rfl
    | some y => cases xs.mapM f <;> rfl

/-- Members that are related to something each make up a list that is related. -/
theorem exists_forall₂ {R : α → β → Prop} {xs : List α} (h : ∀ x ∈ xs, ∃ y, R x y) :
    ∃ ys, List.Forall₂ R xs ys := by
  induction xs with
  | nil => exact ⟨[], .nil⟩
  | cons x xs ih =>
    obtain ⟨y, hy⟩ := h x List.mem_cons_self
    obtain ⟨ys, hys⟩ := ih fun x' hx' => h x' (List.mem_cons_of_mem _ hx')
    exact ⟨y :: ys, .cons hy hys⟩

/-- Every member of the first of two related lists is related to one of the second. -/
theorem exists_mem_of_forall₂ {R : α → β → Prop} {xs : List α} {ys : List β}
    (h : List.Forall₂ R xs ys) : ∀ x ∈ xs, ∃ y ∈ ys, R x y := by
  induction h with
  | nil => simp
  | cons hxy _ ih =>
    intro x hx
    rcases List.mem_cons.1 hx with rfl | hx
    · exact ⟨_, List.mem_cons_self, hxy⟩
    · obtain ⟨y, hy, related⟩ := ih x hx
      exact ⟨y, List.mem_cons_of_mem _ hy, related⟩

/-- Every member of a list is related to some member of the other. -/
theorem exists_of_forall₂ {R : α → β → Prop} {xs : List α} {ys : List β}
    (h : List.Forall₂ R xs ys) (x : α) (hx : x ∈ xs) : ∃ y, R x y := by
  obtain ⟨y, -, related⟩ := exists_mem_of_forall₂ h x hx
  exact ⟨y, related⟩

/-- Members that are related one by one to others are so in every order. -/
theorem exists_perm_forall₂ {γ : Type} {R : α → β → Prop} {S : γ → β → Prop} {T : α → γ → Prop}
    {xs order : List α} {ys : List β} {zs : List γ} (h : List.Forall₂ R xs ys)
    (perm : xs.Perm order) (parts : List.Forall₂ T order zs)
    (step : ∀ x y z, x ∈ xs → R x y → T x z → S z y) :
    ∃ ys', List.Forall₂ S zs ys' ∧ ys.Perm ys' := by
  obtain ⟨ys', related, perm'⟩ := List.perm_comp_forall₂ perm.symm h
  refine ⟨ys', ?_, perm'.symm⟩
  have mem : ∀ x ∈ order, x ∈ xs := fun x => perm.mem_iff.2
  clear perm perm' h
  induction parts generalizing ys' with
  | nil =>
    cases related
    exact .nil
  | cons hz _ ih =>
    cases related with
    | cons hy rest =>
      exact .cons (step _ _ _ (mem _ List.mem_cons_self) hy hz)
        (ih _ rest fun x hx => mem x (List.mem_cons_of_mem _ hx))

/-- In another order a list decodes to the same members in another order, or not at all. -/
theorem mapM_some_perm {f : α → Option β} {xs ys : List α} (perm : xs.Perm ys) :
    Option.Rel List.Perm (xs.mapM f) (ys.mapM f) := by
  cases h : xs.mapM f with
  | none =>
    have fails : (ys.mapM f).isSome = false := by
      rw [isSome_mapM, ← perm.all_eq, ← isSome_mapM, h]
      rfl
    rw [Option.isSome_eq_false_iff, Option.isNone_iff_eq_none] at fails
    rw [fails]
    exact .none
  | some decoded =>
    obtain ⟨decoded', found, perm'⟩ := exists_perm_forall₂ (T := Eq)
      (S := fun x y => f x = some y) (mapM_some_iff.1 h) perm (List.forall₂_same.2 fun _ _ => rfl)
      fun x y z _ hy hz => hz ▸ hy
    rw [mapM_some_iff.2 found]
    exact .some perm'

/-- A traversal ends well when the computation does on every member. -/
theorem exists_mapM_ok_iff {f : α → Except ε β} {xs : List α} :
    (∃ ys, xs.mapM f = .ok ys) ↔ ∀ x ∈ xs, ∃ y, f x = .ok y := by
  simp only [mapM_ok_iff]
  exact ⟨fun ⟨_, h⟩ => exists_of_forall₂ h, exists_forall₂⟩

/-- What is there on the one side is related to something on the other. -/
theorem exists_of_rel_some {R : α → β → Prop} {a : α} {y : Option β} (h : Option.Rel R (some a) y) :
    ∃ b, y = some b ∧ R a b := by
  cases h with
  | some related => exact ⟨_, rfl, related⟩

theorem eq_none_of_rel {R : α → β → Prop} {y : Option β} (h : Option.Rel R none y) : y = none := by
  cases h
  rfl

/-- Where decoding undoes `encode`, a list decodes to the members that it encodes. -/
theorem mapM_some_iff_of_encode {decode : α → Option β} {encode : β → α}
    (decodes : ∀ {x y}, decode x = some y ↔ x = encode y) {xs : List α} {ys : List β} :
    xs.mapM decode = some ys ↔ xs = ys.map encode := by
  rw [mapM_some_iff]
  simp only [decodes]
  rw [← List.forall₂_map_right_iff, List.forall₂_eq_eq_eq]

/-! ## Computations that end in the same way -/

section SameEnd

/-- Two computations that end in the same way: with results that are related, or with one error. -/
inductive SameEnd (R : α → β → Prop) : Except ε α → Except ε β → Prop where
  | ok {a : α} {b : β} (related : R a b) : SameEnd R (.ok a) (.ok b)
  | error (e : ε) : SameEnd R (.error e) (.error e)

variable {α' β' : Type} {R : α → β → Prop} {S : α' → β' → Prop}

/-- Two steps end the same way when their first steps do, and the second ones on related values. -/
theorem SameEnd.bind {x : Except ε α} {y : Except ε β} {f : α → Except ε α'} {g : β → Except ε β'}
    (h : SameEnd R x y) (hf : ∀ a b, R a b → SameEnd S (f a) (g b)) :
    SameEnd S (x >>= f) (y >>= g) := by
  cases h with
  | ok related => exact hf _ _ related
  | error e => exact .error e

/-- The first steps may be the same one. -/
theorem SameEnd.bind_eq {x y : Except ε α} {f : α → Except ε α'} {g : α → Except ε β'} (h : x = y)
    (hf : ∀ a, SameEnd S (f a) (g a)) : SameEnd S (x >>= f) (y >>= g) := by
  subst h
  cases x with
  | ok a => exact hf a
  | error e => exact .error e

/-- Renaming errors keeps ends the same. -/
theorem SameEnd.mapError {x : Except ε α} {y : Except ε β} (h : SameEnd R x y) (wrap : ε → ε') :
    SameEnd R (x.mapError wrap) (y.mapError wrap) := by
  cases h with
  | ok related => exact .ok related
  | error e => exact .error (wrap e)

end SameEnd

/-! ## Ways to fail -/

section Only

variable {P : ε → Prop}

/-- A computation that fails in certain ways only. -/
def Only (P : ε → Prop) (x : Except ε α) : Prop := ∀ e, x = .error e → P e

theorem only_pure (a : α) : Only P (pure a : Except ε α) := nofun

theorem only_error {e : ε} (h : P e) : Only P (.error e : Except ε α) := by
  rintro _ ⟨⟩
  exact h

/-- Two steps fail only as one of them does. -/
theorem only_bind {x : Except ε α} {f : α → Except ε β} (hx : Only P x) (hf : ∀ a, Only P (f a)) :
    Only P (x >>= f) := by
  intro e h
  cases x with
  | ok a => exact hf a e h
  | error e' =>
    obtain rfl := Except.error.inj h
    exact hx e' rfl

theorem only_map {x : Except ε α} (hx : Only P x) (f : α → β) : Only P (x.map f) := by
  intro e h
  exact hx e (map_error_iff.1 h)

/-- A step for each member fails only as the step does. -/
theorem only_mapM {f : α → Except ε β} (hf : ∀ a, Only P (f a)) (xs : List α) :
    Only P (xs.mapM f) := by
  induction xs with
  | nil => exact only_pure []
  | cons x xs ih =>
    rw [List.mapM_cons]
    apply only_bind (hf x)
    intro y
    apply only_bind ih
    intro ys
    exact only_pure _

end Only

/-! ## Ways to end -/

section Ends

variable {good : α → Prop} {good' : β → Prop} {P : ε → Prop}

/-- A computation that finds nothing but what is good, and fails in certain ways only. -/
structure Ends (good : α → Prop) (P : ε → Prop) (x : Except ε α) : Prop where
  finds : ∀ a, x = .ok a → good a
  fails : Only P x

theorem ends_ok {a : α} (h : good a) : Ends good P (.ok a) :=
  ⟨fun _ found => Except.ok.inj found ▸ h, only_pure a⟩

theorem ends_error {e : ε} (h : P e) : Ends good P (.error e) := ⟨nofun, only_error h⟩

theorem Only.ends {x : Except ε α} (h : Only P x) : Ends (fun _ => True) P x :=
  ⟨fun _ _ => trivial, h⟩

/-- Two steps end as asked when the first does, and the second on what is good. -/
theorem Ends.bind {x : Except ε α} {f : α → Except ε β} (hx : Ends good P x)
    (hf : ∀ a, good a → Ends good' P (f a)) : Ends good' P (x >>= f) := by
  cases x with
  | ok a => exact hf a (hx.finds a rfl)
  | error e => exact ends_error (hx.fails e rfl)

theorem Ends.map {x : Except ε α} {f : α → β} (hx : Ends good P x)
    (hf : ∀ a, good a → good' (f a)) : Ends good' P (x.map f) := by
  cases x with
  | ok a => exact ends_ok (hf a (hx.finds a rfl))
  | error e => exact ends_error (hx.fails e rfl)

/-- What ends as asked ends as less is asked. -/
theorem Ends.mono {good'' : α → Prop} {P' : ε → Prop} {x : Except ε α} (h : Ends good P x)
    (finds : ∀ a, good a → good'' a) (fails : ∀ e, P e → P' e) : Ends good'' P' x :=
  ⟨fun a found => finds a (h.finds a found), fun e failed => fails e (h.fails e failed)⟩

end Ends

/-! ## Failing first -/

section FailsFirst

variable {f : α → Except ε β} {xs : List α} {e : ε}

/-- The first member of a list that a computation fails on, and what it fails with. -/
def FailsFirst (f : α → Except ε β) (xs : List α) (e : ε) : Prop :=
  ∃ front x back, xs = front ++ x :: back ∧ (∀ y ∈ front, ∃ b, f y = .ok b) ∧ f x = .error e

/-- Where not all members end well, one of them fails first. -/
theorem exists_failsFirst (h : ∃ x ∈ xs, ∀ b, f x ≠ .ok b) : ∃ e, FailsFirst f xs e := by
  induction xs with
  | nil => simp at h
  | cons x xs ih =>
    cases hx : f x with
    | error e => exact ⟨e, [], x, xs, rfl, by simp, hx⟩
    | ok b =>
      have later : ∃ y ∈ xs, ∀ b, f y ≠ .ok b := by
        obtain ⟨y, hy, fails⟩ := h
        rcases List.mem_cons.1 hy with rfl | hy
        · exact absurd hx (fails b)
        · exact ⟨y, hy, fails⟩
      obtain ⟨e, front, y, back, rfl, fine, fails⟩ := ih later
      exact ⟨e, x :: front, y, back, rfl, List.forall_mem_cons.2 ⟨⟨b, hx⟩, fine⟩, fails⟩

/-- A traversal fails with what it fails with first. -/
theorem FailsFirst.mapM (h : FailsFirst f xs e) : xs.mapM f = .error e := by
  obtain ⟨front, x, back, rfl, fine, fails⟩ := h
  induction front with
  | nil =>
    rw [List.nil_append, List.mapM_cons, fails]
    rfl
  | cons y front ih =>
    obtain ⟨⟨b, hy⟩, fine⟩ := List.forall_mem_cons.1 fine
    rw [List.cons_append, List.mapM_cons, hy]
    show (List.mapM f (front ++ x :: back) >>= _) = _
    rw [ih fine]
    rfl

/-- A step for each member of a list fails as the first one that fails. -/
theorem mapM_error_iff : xs.mapM f = .error e ↔ FailsFirst f xs e := by
  refine ⟨fun h => ?_, FailsFirst.mapM⟩
  by_cases fails : ∃ x ∈ xs, ∀ b, f x ≠ .ok b
  · obtain ⟨e', first⟩ := exists_failsFirst fails
    obtain rfl := Except.error.inj (h.symm.trans first.mapM)
    exact first
  · push Not at fails
    obtain ⟨ys, found⟩ := exists_forall₂ fails
    rw [mapM_ok_iff.2 found] at h
    cases h

/-- So it fails as it does for some member. -/
theorem exists_of_mapM_error (h : xs.mapM f = .error e) : ∃ x ∈ xs, f x = .error e := by
  obtain ⟨front, x, back, rfl, -, failed⟩ := mapM_error_iff.1 h
  exact ⟨x, List.mem_append_right _ (.head _), failed⟩

/-- Going on with what is found does not change where a computation fails first. -/
theorem FailsFirst.map {γ : Type} {f : α → Except ε β} (h : FailsFirst f xs e)
    (further : α → β → γ) : FailsFirst (fun x => (f x).map (further x)) xs e := by
  obtain ⟨front, x, back, rfl, fine, fails⟩ := h
  refine ⟨front, x, back, rfl, fun y hy => ?_, ?_⟩
  · obtain ⟨b, hb⟩ := fine y hy
    exact ⟨further y b, congrArg (Except.map (further y)) hb⟩
  · exact congrArg (Except.map (further x)) fails

end FailsFirst

end Bindery.Outcome
