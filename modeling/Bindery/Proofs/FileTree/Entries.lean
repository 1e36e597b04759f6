import Bindery.FileTree.Basic
import Bindery.Proofs.Assoc

/-!
# What stands where in a file tree

A file tree is looked at place by place: nothing stands at a list of names, or a directory, or a
regular file with its content (`kind?`). Putting a node at one place changes what stands there
and nothing else (`kind?_place`). A tree that grows (`Grows`) keeps its directories, and keeps
its regular files except those at the places named.
-/

namespace Bindery.FileTree

/-- The content of a regular file. -/
def content? : FileTree → Option ByteArray
  | .file content => some content
  | .dir _ => none

/-- What stands at a place: nothing, a directory (which has no content), or a regular file with
its content. -/
def kind? (t : FileTree) (names : List Text) : Option (Option ByteArray) :=
  (t.get? names).map content?

variable {t t' t'' new new' : FileTree} {names more : List Text} {content : ByteArray}

@[simp] theorem kind?_nil : t.kind? [] = some t.content? := rfl

@[simp] theorem kind?_file_cons {name : Text} :
    (FileTree.file content).kind? (name :: names) = none := rfl

@[simp] theorem kind?_dir_cons {name : Text} {children : List (Text × FileTree)} :
    (FileTree.dir children).kind? (name :: names) =
      (Assoc.get? name children).bind fun child => child.kind? names := by
  unfold kind?
  rw [get?]
  cases Assoc.get? name children <;> rfl

theorem content?_eq_none : t.content? = none ↔ ∃ children, t = .dir children := by
  cases t <;> simp [content?]

theorem content?_eq_some : t.content? = some content ↔ t = .file content := by
  cases t <;> simp [content?]

/-- A directory is a node that has one. -/
theorem kind?_eq_dir :
    t.kind? names = some none ↔ ∃ children, t.get? names = some (.dir children) := by
  simp only [kind?, Option.map_eq_some_iff, content?_eq_none]
  constructor
  · rintro ⟨_, h, children, rfl⟩
    exact ⟨children, h⟩
  · rintro ⟨children, h⟩
    exact ⟨_, h, children, rfl⟩

/-- A file is a node that has its content. -/
theorem kind?_eq_file :
    t.kind? names = some (some content) ↔ t.get? names = some (.file content) := by
  simp [kind?, Option.map_eq_some_iff, content?_eq_some]

/-- What something stands below is a directory. -/
theorem kind?_above {e : Option ByteArray} (h : t.kind? (names ++ more) = some e)
    (below : more ≠ []) : t.kind? names = some none := by
  induction names generalizing t with
  | nil =>
    obtain ⟨name, rest, rfl⟩ := List.exists_cons_of_ne_nil below
    cases t with
    | file content => simp at h
    | dir children => rfl
  | cons name names ih =>
    cases t with
    | file content => simp at h
    | dir children =>
      rw [List.cons_append, kind?_dir_cons, Option.bind_eq_some_iff] at h
      obtain ⟨child, hchild, h⟩ := h
      rw [kind?_dir_cons, hchild, Option.bind_some]
      exact ih h

/-- Above anything that is there stands a directory. -/
theorem kind?_dropLast {e : Option ByteArray} (h : t.kind? names = some e) (ne : names ≠ []) :
    t.kind? names.dropLast = some none := by
  rw [← List.dropLast_concat_getLast ne] at h
  exact kind?_above h (List.cons_ne_nil _ _)

/-- What stands somewhere is the top, or there is a directory right above it. -/
theorem top_or_above {e : Option ByteArray} (h : t.kind? names = some e) :
    names = [] ∨ t.kind? names.dropLast = some none := by
  by_cases top : names = []
  · exact .inl top
  · exact .inr (kind?_dropLast h top)

/-- Nothing stands below what is no directory. -/
theorem kind?_below (vacant : t.kind? names ≠ some none) (below : more ≠ []) :
    t.kind? (names ++ more) = none := by
  cases h : t.kind? (names ++ more) with
  | none => rfl
  | some e => exact absurd (kind?_above h below) vacant

/-- The place above a place is a directory, and has what that leads to unless it is the top. -/
theorem dir_of_above {name : Text} (above : t.kind? (name :: names).dropLast = some none) :
    ∃ children, t = .dir children ∧
      (names = [] ∨ ∃ child, Assoc.get? name children = some child ∧
        child.kind? names.dropLast = some none) := by
  cases names with
  | nil =>
    obtain ⟨children, rfl⟩ := content?_eq_none.1 (Option.some.inj above)
    exact ⟨children, rfl, .inl rfl⟩
  | cons name' names =>
    rw [List.dropLast_cons_of_ne_nil (List.cons_ne_nil _ _)] at above
    cases t with
    | file content => simp at above
    | dir children =>
      rw [kind?_dir_cons, Option.bind_eq_some_iff] at above
      exact ⟨children, rfl, .inr above⟩

/-- What stands in a directory after a node was put under a name. -/
theorem kind?_put {name : Text} {children : List (Text × FileTree)} (place' : List Text)
    (same : ∀ rest, new.kind? rest = if rest = names then some new'.content?
      else (FileTree.dir children).kind? (name :: rest)) :
    (FileTree.dir (Assoc.put name new children)).kind? place' =
      if place' = name :: names then some new'.content?
      else (FileTree.dir children).kind? place' := by
  cases place' with
  | nil => rfl
  | cons name' rest =>
    by_cases hn : name' = name
    · subst hn
      rw [kind?_dir_cons, Assoc.get?_put_self (Text.same_self _), Option.bind_some, same]
      simp
    · rw [kind?_dir_cons, Assoc.get?_put_of_ne hn, if_neg (by simp [hn]), kind?_dir_cons]

/-- Putting a leaf at a place changes what stands there and nothing else, when there is a
directory to put it in and no directory in its place. -/
theorem kind?_place (above : names = [] ∨ t.kind? names.dropLast = some none)
    (vacant : t.kind? names ≠ some none)
    (leaf : ∀ more, more ≠ [] → new.kind? more = none) (place' : List Text) :
    (place new names t).kind? place' =
      if place' = names then some new.content? else t.kind? place' := by
  induction names generalizing t place' with
  | nil =>
    split
    · rename_i h
      rw [h]
      rfl
    · rename_i h
      exact (leaf place' h).trans (kind?_below vacant h).symm
  | cons name names ih =>
    obtain ⟨children, rfl, last | ⟨child, hchild, above⟩⟩ :=
      dir_of_above (above.resolve_left (List.cons_ne_nil _ _))
    · subst last
      refine kind?_put place' fun rest => ?_
      split
      · rename_i h
        rw [h]
        rfl
      · rename_i h
        exact (leaf rest h).trans (kind?_below vacant h).symm
    · rw [place, hchild]
      refine kind?_put place' fun rest => ?_
      rw [Option.getD_some, kind?_dir_cons, hchild, Option.bind_some]
      exact ih (.inr above) (by simpa [hchild] using vacant) rest

/-! ## Growing -/

/-- A tree and a later one: at the places touched anything may have happened to what is no
directory, and elsewhere nothing but that directories were made where nothing was. -/
structure Grows (touched : List (List Text)) (t t' : FileTree) : Prop where
  dirs : ∀ place, t.kind? place = some none → t'.kind? place = some none
  rest : ∀ place, place ∉ touched →
    t'.kind? place = t.kind? place ∨ t.kind? place = none ∧ t'.kind? place = some none

namespace Grows

variable {touched touched' : List (List Text)}

theorem refl : Grows touched t t := ⟨fun _ h => h, fun _ _ => .inl rfl⟩

/-- Growth through two steps touches what either of them touches. -/
theorem trans (h : Grows touched t t') (h' : Grows touched' t' t'') :
    Grows (touched ++ touched') t t'' := by
  refine ⟨fun place hp => h'.dirs place (h.dirs place hp), fun place hp => ?_⟩
  rw [List.mem_append, not_or] at hp
  rcases h.rest place hp.1 with e | ⟨e, d⟩
  · rw [← e]
    exact h'.rest place hp.2
  · exact .inr ⟨e, h'.dirs place d⟩

/-- Growth may be said to touch more than it does. -/
theorem mono (h : Grows touched t t') (sub : touched ⊆ touched') : Grows touched' t t' :=
  ⟨h.dirs, fun place hp => h.rest place fun m => hp (sub m)⟩

/-- The regular files at places that were not touched are those that were there before. -/
theorem file_iff (h : Grows touched t t') {place : List Text} (fresh : place ∉ touched) :
    t'.kind? place = some (some content) ↔ t.kind? place = some (some content) := by
  rcases h.rest place fresh with e | ⟨e, d⟩
  · rw [e]
  · rw [e, d]
    simp

end Grows

/-- Putting a leaf where no directory is touches that place alone. -/
theorem grows_place (above : names = [] ∨ t.kind? names.dropLast = some none)
    (vacant : t.kind? names ≠ some none) (leaf : ∀ more, more ≠ [] → new.kind? more = none) :
    Grows [names] t (place new names t) := by
  constructor
  · intro place' hp
    rw [kind?_place above vacant leaf, if_neg, hp]
    rintro rfl
    exact vacant hp
  · intro place' hp
    rw [kind?_place above vacant leaf, if_neg (by simpa using hp)]
    exact .inl rfl

theorem kind?_leaf_dir (below : more ≠ []) : (FileTree.dir []).kind? more = none := by
  obtain ⟨name, rest, rfl⟩ := List.exists_cons_of_ne_nil below
  rfl

theorem kind?_leaf_file (below : more ≠ []) : (FileTree.file content).kind? more = none := by
  obtain ⟨name, rest, rfl⟩ := List.exists_cons_of_ne_nil below
  rfl

/-- Putting a file where no directory is. -/
theorem kind?_place_file (above : names = [] ∨ t.kind? names.dropLast = some none)
    (vacant : t.kind? names ≠ some none) (place' : List Text) :
    (place (.file content) names t).kind? place' =
      if place' = names then some (some content) else t.kind? place' :=
  kind?_place above vacant (fun _ => kind?_leaf_file) place'

/-- Making a directory where nothing is touches no place at all. -/
theorem grows_place_dir (above : names = [] ∨ t.kind? names.dropLast = some none)
    (vacant : t.kind? names = none) : Grows [] t (place (.dir []) names t) := by
  have vacant' : t.kind? names ≠ some none := by simp [vacant]
  refine ⟨(grows_place above vacant' fun _ => kind?_leaf_dir).dirs, fun place' _ => ?_⟩
  rw [kind?_place above vacant' fun _ => kind?_leaf_dir]
  split
  · rename_i h
    exact .inr ⟨h ▸ vacant, rfl⟩
  · exact .inl rfl

end Bindery.FileTree
