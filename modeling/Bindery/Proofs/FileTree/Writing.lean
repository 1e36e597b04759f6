import Bindery.FileTree.Text
import Bindery.Proofs.FileTree.Entries
import Bindery.Proofs.Outcome

/-!
# Writing files

Where a path leads is said by its names alone (`Path.place`): walking it only finds out whether
it can be gone, and then it can still be gone in every tree that has grown (`Grows.locate`).
Making directories touches no file (`makeDirsWithin_grows`), and writing a text leaves the file at
its place with the bytes of the text, and touches no other one (`writeText_ok`).
-/

namespace Bindery

open Outcome

/-- The names that are reached from a place. -/
def Path.follow (here names : List Text) : List Text :=
  names.foldl (fun before (name : Text) =>
    if name = ".." then before.dropLast else before ++ [name]) here

/-- The place in the tree that a path leads to from the directory `cwd`. -/
def Path.place (cwd p : Path) : List Text :=
  Path.follow [] ((cwd ++ p).names.map Text.canonicalName)

namespace FileTree

variable {t t' : FileTree} {here names place : List Text} {cwd p : Path}

/-! ## Walking -/

/-- A first step leads up, or to a name that is not too long, and the walk goes on from there. -/
theorem walk_cons_ok_iff {name : Text} :
    t.walk here (name :: names) = .ok place ↔ t.kind? here = some none ∧
      (name = ".." ∧ t.walk here.dropLast names = .ok place ∨
        name ≠ ".." ∧ Text.nameSize name ≤ longestName ∧
          t.walk (here ++ [name]) names = .ok place) := by
  rw [walk, kind?]
  cases t.get? here with
  | none => simp
  | some node =>
    cases node with
    | file content => simp [content?]
    | dir children =>
      by_cases up : name = ".."
      · simp [content?, up]
      · by_cases long : longestName < Text.nameSize name
        · have : ¬Text.nameSize name ≤ longestName := by omega
          simp [content?, up, long, this]
        · have : Text.nameSize name ≤ longestName := by omega
          simp [content?, up, long, this]

/-- A walk ends where its names lead. -/
theorem follow_of_walk (h : t.walk here names = .ok place) : Path.follow here names = place := by
  induction names generalizing here with
  | nil => exact Except.ok.inj h
  | cons name names ih =>
    obtain ⟨-, ⟨up, h⟩ | ⟨down, -, h⟩⟩ := walk_cons_ok_iff.1 h
    · rw [← ih h]
      simp [Path.follow, up]
    · rw [← ih h]
      simp [Path.follow, down]

/-- Above where a walk ends there is a directory. -/
theorem above_of_walk (above : here = [] ∨ t.kind? here.dropLast = some none)
    (h : t.walk here names = .ok place) : place = [] ∨ t.kind? place.dropLast = some none := by
  induction names generalizing here with
  | nil => exact Except.ok.inj h ▸ above
  | cons name names ih =>
    obtain ⟨hdir, ⟨-, h⟩ | ⟨-, -, h⟩⟩ := walk_cons_ok_iff.1 h
    · refine ih ?_ h
      rcases top_or_above hdir with rfl | above
      · exact .inl rfl
      · exact top_or_above above
    · refine ih (.inr ?_) h
      rwa [List.dropLast_concat]

/-- What can be walked can still be walked when no directory is lost. -/
theorem walk_of_dirs (dirs : ∀ place, t.kind? place = some none → t'.kind? place = some none)
    (h : t.walk here names = .ok place) : t'.walk here names = .ok place := by
  induction names generalizing here with
  | nil => exact h
  | cons name names ih =>
    obtain ⟨hdir, rest⟩ := walk_cons_ok_iff.1 h
    refine walk_cons_ok_iff.2 ⟨dirs here hdir, ?_⟩
    exact rest.imp (fun ⟨up, h⟩ => ⟨up, ih h⟩) fun ⟨down, short, h⟩ => ⟨down, short, ih h⟩

/-- The place that a path leads to is the one that its names tell, and a directory stands above
it. -/
theorem locate_ok (h : t.locate cwd p = .ok place) :
    place = Path.place cwd p ∧ (place = [] ∨ t.kind? place.dropLast = some none) := by
  obtain ⟨_, -, h⟩ := bind_ok_iff.1 h
  exact ⟨(follow_of_walk h).symm, above_of_walk (.inl rfl) h⟩

/-- A path that leads somewhere leads there in every tree that has grown. -/
theorem Grows.locate {touched : List (List Text)} (grows : Grows touched t t')
    (h : t.locate cwd p = .ok place) : t'.locate cwd p = .ok place := by
  obtain ⟨text, htext, h⟩ := bind_ok_iff.1 h
  exact bind_ok_iff.2 ⟨text, htext, walk_of_dirs grows.dirs h⟩

/-! ## Making directories -/

/-- A refusal of a path changes only what is refused. -/
theorem refuse_ok_iff {α : Type} {x : Except FileProblem α} {a : α} :
    refuse p x = .ok a ↔ x = .ok a := by
  cases x <;> simp [refuse]

/-- Making a directory touches no file. -/
theorem grows_of_makeDir (h : t.makeDir cwd p = .ok t') : Grows [] t t' := by
  obtain ⟨names, hnames, h⟩ := bind_ok_iff.1 (refuse_ok_iff.1 h)
  cases vacant : t.get? names with
  | some node => simp [vacant] at h
  | none =>
    simp only [vacant, Except.ok.injEq] at h
    subst h
    exact grows_place_dir (locate_ok hnames).2 (by rw [kind?, vacant, Option.map_none])

/-- Nor does it when something was there already. -/
theorem orThere_grows {made : Except FileError FileTree}
    (h : ∀ t', made = .ok t' → Grows [] t t') : Grows [] t (orThere t cwd p made).1 := by
  cases made with
  | ok t' => exact h t' rfl
  | error e => exact Grows.refl

/-- Making directories touches no file, whether it ends well or not. -/
theorem makeDirsWithin_grows (count : Nat) : Grows [] t (makeDirsWithin t cwd count p).1 := by
  induction count generalizing p with
  | zero => exact Grows.refl
  | succ count ih =>
    have direct : Grows [] t (orThere t cwd p (t.makeDir cwd p)).1 :=
      orThere_grows fun _ => grows_of_makeDir
    rw [makeDirsWithin]
    split
    · cases hparent : makeDirsWithin t cwd count p.parent with
      | mk t₁ outcome =>
        have above : Grows [] t t₁ := by
          have := ih (p := p.parent)
          rwa [hparent] at this
        cases outcome with
        | error e => exact above
        | ok _ =>
          dsimp only
          split
          · exact above
          · exact above.trans (orThere_grows fun _ => grows_of_makeDir)
    · exact direct

/-! ## Writing -/

/-- The regular file at a path has these bytes. -/
def Holds (t : FileTree) (cwd p : Path) (bytes : ByteArray) : Prop :=
  t.locate cwd p = .ok (Path.place cwd p) ∧ t.kind? (Path.place cwd p) = some (some bytes)

/-- The bytes that a path holds are read from it. -/
theorem Holds.bytesOf {bytes : ByteArray} (h : t.Holds cwd p bytes) :
    t.bytesOf cwd p = .ok bytes := by
  refine refuse_ok_iff.2 (bind_ok_iff.2 ⟨_, h.1, ?_⟩)
  rw [kind?_eq_file.1 h.2]

/-- What a file holds it still holds when others were touched. -/
theorem Holds.grows {bytes : ByteArray} {touched : List (List Text)} (h : t.Holds cwd p bytes)
    (grows : Grows touched t t') (fresh : Path.place cwd p ∉ touched) : t'.Holds cwd p bytes :=
  ⟨grows.locate h.1, (grows.file_iff fresh).2 h.2⟩

/-- Storing a file leaves its bytes at its place and touches no other. -/
theorem store_ok {bytes : ByteArray} (h : t.store cwd p bytes = .ok t') :
    t'.Holds cwd p bytes ∧ Grows [Path.place cwd p] t t' := by
  obtain ⟨names, hnames, h⟩ := bind_ok_iff.1 (refuse_ok_iff.1 h)
  obtain ⟨rfl, above⟩ := locate_ok hnames
  have vacant : t.kind? (Path.place cwd p) ≠ some none := by
    intro hdir
    obtain ⟨children, hc⟩ := kind?_eq_dir.1 hdir
    simp [hc] at h
  have stored : FileTree.place (.file bytes) (Path.place cwd p) t = t' := by
    split at h
    · cases h
    · exact Except.ok.inj h
  have grows : Grows [Path.place cwd p] t t' :=
    stored ▸ grows_place above vacant fun _ => kind?_leaf_file
  refine ⟨⟨grows.locate hnames, ?_⟩, grows⟩
  rw [← stored, kind?_place_file above vacant, if_pos rfl]

/-- Writing a text leaves its bytes at its place and touches no other. -/
theorem writeText_ok [Stack] {text : Text} (h : t.writeText cwd p text = (t', .ok ())) :
    ∃ bytes, Text.encode text = .ok bytes ∧ t'.Holds cwd p bytes ∧
      Grows [Path.place cwd p] t t' := by
  have made : Grows [] t (makeDirsWithin t cwd mostDirs p.parent).1 := makeDirsWithin_grows _
  unfold writeText makeDirs at h
  split at h
  · simp at h
  · rename_i t₁ hdirs
    rw [hdirs] at made
    dsimp only at h
    split at h
    · simp at h
    · rename_i t₂ hstore
      obtain ⟨rfl, hencoded⟩ := Prod.mk.inj h
      cases he : Text.encode text with
      | error reason =>
        rw [he] at hencoded
        cases hencoded
      | ok bytes =>
        rw [he] at hstore
        obtain ⟨holds, grows⟩ := store_ok hstore
        exact ⟨bytes, rfl, holds, made.trans grows⟩

end FileTree

end Bindery
