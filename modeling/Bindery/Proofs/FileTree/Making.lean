import Bindery.Proofs.FileTree.Ways

/-!
# Making directories and files

What an attempt to make directories or to write a file can change is known before it is made: it
makes directories where nothing is on the way, and a file at the end (`Spreads`). Whether it ends
well is known too. A file is written where its way is open (`writeText_open`) unless more
directories are missing than can be made at once, and where a file was written its way was open
(`open_of_writeText`). A way stays open while a tree spreads elsewhere (`Open.spreads`).
-/

namespace Bindery

open Outcome

namespace FileTree

variable {t t' t'' : FileTree} {cwd p : Path} {names place q : List Text} {count : Nat}

/-! ## Spreading -/

/-- A tree and a later one, in which directories and files stay what they are, and where nothing
was there may be a directory at the places of `ways` and a file at those of `spots`. -/
structure Spreads (ways spots : List Text → Prop) (t t' : FileTree) : Prop where
  dirs : ∀ q, t.kind? q = some none → t'.kind? q = some none
  files : ∀ q content, t.kind? q = some (some content) →
    ∃ content', t'.kind? q = some (some content')
  news : ∀ q, t.kind? q = none → t'.kind? q = none ∨ t'.kind? q = some none ∧ ways q ∨
    (∃ content, t'.kind? q = some (some content)) ∧ spots q

namespace Spreads

variable {ways spots ways' spots' : List Text → Prop}

theorem refl : Spreads ways spots t t :=
  ⟨fun _ h => h, fun _ content h => ⟨content, h⟩, fun _ h => .inl h⟩

/-- What spreads in two steps spreads. -/
theorem trans (h : Spreads ways spots t t') (h' : Spreads ways spots t' t'') :
    Spreads ways spots t t'' := by
  refine ⟨fun q hq => h'.dirs q (h.dirs q hq), ?_, ?_⟩
  · intro q content hq
    obtain ⟨content', hq'⟩ := h.files q content hq
    exact h'.files q content' hq'
  · intro q hq
    rcases h.news q hq with none | ⟨dir, way⟩ | ⟨⟨content, file⟩, spot⟩
    · exact h'.news q none
    · exact .inr (.inl ⟨h'.dirs q dir, way⟩)
    · exact .inr (.inr ⟨h'.files q content file, spot⟩)

/-- More places may be allowed than are used. -/
theorem mono (h : Spreads ways spots t t') (hways : ∀ q, ways q → ways' q)
    (hspots : ∀ q, spots q → spots' q) : Spreads ways' spots' t t' := by
  refine ⟨h.dirs, h.files, fun q hq => ?_⟩
  rcases h.news q hq with none | ⟨dir, way⟩ | ⟨file, spot⟩
  · exact .inl none
  · exact .inr (.inl ⟨dir, hways q way⟩)
  · exact .inr (.inr ⟨file, hspots q spot⟩)

/-- What is a directory now was one, or was made on a way. -/
theorem dir_cases (h : Spreads ways spots t t') (hq : t'.kind? q = some none) :
    t.kind? q = some none ∨ t.kind? q = none ∧ ways q := by
  rcases hk : t.kind? q with _ | _ | content
  · rcases h.news q hk with none | ⟨-, way⟩ | ⟨⟨content, file⟩, -⟩
    · simp [none] at hq
    · exact .inr ⟨rfl, way⟩
    · simp [file] at hq
  · exact .inl rfl
  · obtain ⟨content', file⟩ := h.files q content hk
    simp [file] at hq

/-- What is a file now was one, or was made at a spot. -/
theorem file_cases {content : ByteArray} (h : Spreads ways spots t t')
    (hq : t'.kind? q = some (some content)) :
    (∃ content', t.kind? q = some (some content')) ∨ spots q := by
  rcases hk : t.kind? q with _ | _ | content'
  · rcases h.news q hk with none | ⟨dir, -⟩ | ⟨-, spot⟩
    · simp [none] at hq
    · simp [dir] at hq
    · exact .inr spot
  · simp [h.dirs q hk] at hq
  · exact .inl ⟨content', rfl⟩

end Spreads

/-- Making a directory where nothing is. -/
theorem spreads_place_dir {ways spots : List Text → Prop}
    (above : names = [] ∨ t.kind? names.dropLast = some none)
    (vacant : t.kind? names = none) (way : ways names) :
    Spreads ways spots t (FileTree.place (.dir []) names t) := by
  have put : ∀ q, (FileTree.place (.dir []) names t).kind? q =
      if q = names then some none else t.kind? q :=
    kind?_place above (by simp [vacant]) fun _ => kind?_leaf_dir
  refine ⟨?_, ?_, ?_⟩
  · intro q hq
    rw [put, if_neg, hq]
    rintro rfl
    simp [vacant] at hq
  · intro q content hq
    refine ⟨content, ?_⟩
    rw [put, if_neg, hq]
    rintro rfl
    simp [vacant] at hq
  · intro q hq
    rw [put]
    split
    · rename_i same
      exact .inr (.inl ⟨rfl, same ▸ way⟩)
    · exact .inl hq

/-- Putting a file where no directory is. -/
theorem spreads_place_file {ways spots : List Text → Prop} {content : ByteArray}
    (above : names = [] ∨ t.kind? names.dropLast = some none)
    (vacant : t.kind? names ≠ some none) (spot : spots names) :
    Spreads ways spots t (FileTree.place (.file content) names t) := by
  have put : ∀ q, (FileTree.place (.file content) names t).kind? q =
      if q = names then some (some content) else t.kind? q :=
    kind?_place_file above vacant
  refine ⟨?_, ?_, ?_⟩
  · intro q hq
    rw [put, if_neg, hq]
    rintro rfl
    exact vacant hq
  · intro q content' hq
    rw [put]
    split
    · exact ⟨content, rfl⟩
    · exact ⟨content', hq⟩
  · intro q hq
    rw [put]
    split
    · rename_i same
      exact .inr (.inr ⟨⟨content, rfl⟩, same ▸ spot⟩)
    · exact .inl hq

/-! ## One directory -/

/-- Makes a directory unless it is there already. -/
def ensureDir (t : FileTree) (cwd p : Path) : FileTree × Except FileError Unit :=
  orThere t cwd p (t.makeDir cwd p)

/-- A directory is not made where its path leads to no place. -/
theorem makeDir_of_error {problem : FileProblem} (h : t.locate cwd p = .error problem) :
    t.makeDir cwd p = .error ⟨problem, p⟩ := by
  unfold makeDir
  rw [h]
  rfl

/-- A directory is made at the place of its path, if nothing is there. -/
theorem makeDir_of_ok (h : t.locate cwd p = .ok place) :
    t.makeDir cwd p = match t.get? place with
      | some _ => .error ⟨.exists, p⟩
      | none => .ok (FileTree.place (.dir []) place t) := by
  unfold makeDir
  rw [h]
  show refuse p (match t.get? place with | some _ => _ | none => _) = _
  cases t.get? place <;> rfl

/-- Making a directory finds nothing when something above it is missing. -/
theorem makeDir_notFound {path : Path} (h : t.makeDir cwd p = .error ⟨.notFound, path⟩) :
    t.locate cwd p = .error .notFound ∧ path = p := by
  cases hl : t.locate cwd p with
  | error problem =>
    rw [makeDir_of_error hl] at h
    obtain ⟨rfl, rfl⟩ := FileError.mk.inj (Except.error.inj h)
    exact ⟨rfl, rfl⟩
  | ok place =>
    rw [makeDir_of_ok hl] at h
    split at h
    · cases h
    · cases h

/-- What is refused for the path is refused for making sure of a directory. -/
theorem ensureDir_of_error {problem : FileProblem} (h : t.locate cwd p = .error problem) :
    t.ensureDir cwd p = (t, .error ⟨problem, p⟩) := by
  unfold ensureDir
  rw [makeDir_of_error h]
  simp [orThere, node?, h]

/-- Where a path leads to nothing the directory is made, and a directory is left alone. -/
theorem ensureDir_of_ok (h : t.locate cwd p = .ok place) :
    t.ensureDir cwd p = match t.kind? place with
      | none => (FileTree.place (.dir []) place t, .ok ())
      | some none => (t, .ok ())
      | some (some _) => (t, .error ⟨.exists, p⟩) := by
  unfold ensureDir
  rw [makeDir_of_ok h, kind?]
  cases hp : t.get? place with
  | none => rfl
  | some node =>
    cases node with
    | dir children => simp [orThere, node?, h, hp, isDir, content?]
    | file content => simp [orThere, node?, h, hp, isDir, content?]

/-- Making sure of a directory makes only those that the way to it passes. -/
theorem spreads_ensureDir {spots : List Text → Prop} :
    Spreads (Path.Passes cwd p) spots t (t.ensureDir cwd p).1 := by
  cases h : t.locate cwd p with
  | error problem =>
    rw [ensureDir_of_error h]
    exact .refl
  | ok place =>
    obtain ⟨rfl, above⟩ := locate_ok h
    rw [ensureDir_of_ok h]
    split
    · rename_i vacant
      exact spreads_place_dir above vacant Path.passes_place
    · exact .refl
    · exact .refl

/-- A directory that was made or found is there, and its way can be walked before and after. -/
theorem ensureDir_ok (h : t.ensureDir cwd p = (t', .ok ())) :
    t.locate cwd p = .ok (Path.place cwd p) ∧ t'.kind? (Path.place cwd p) = some none := by
  cases hl : t.locate cwd p with
  | error problem =>
    rw [ensureDir_of_error hl] at h
    simp at h
  | ok place =>
    obtain ⟨rfl, above⟩ := locate_ok hl
    refine ⟨rfl, ?_⟩
    rw [ensureDir_of_ok hl] at h
    split at h
    · rename_i vacant
      obtain ⟨rfl, -⟩ := Prod.mk.inj h
      rw [kind?_place above (by simp [vacant]) fun _ => kind?_leaf_dir, if_pos rfl]
      rfl
    · rename_i dir
      obtain ⟨rfl, -⟩ := Prod.mk.inj h
      exact dir
    · simp at h

/-- On a clear way a directory is made, or something above it is missing. -/
theorem ensureDir_clear (fits : Fits p) (starts : Starts t cwd p)
    (clear : ∀ q, Path.Passes cwd p q → ∀ content, t.kind? q ≠ some (some content)) :
    t.locate cwd p = .error .notFound ∨ (t.ensureDir cwd p).2 = .ok () := by
  have walked : t.walk [] (Path.steps cwd p) = .ok (Path.place cwd p) ∨
      t.walk [] (Path.steps cwd p) = .error .notFound :=
    walk_clear (starts.short fits) fun front hfront _ => clear _ ⟨front, hfront, rfl⟩
  rcases walked with walked | walked
  · right
    rw [ensureDir_of_ok (locate_ok_iff.2 ⟨fits.text, walked⟩)]
    split
    · rfl
    · rfl
    · rename_i content file
      exact absurd file (clear _ Path.passes_place content)
  · left
    unfold locate
    rw [fits.text]
    exact walked

/-! ## Many directories -/

/-- Directories are made one after another: the directory itself where nothing is missing above it,
and else after those above it. -/
theorem makeDirsWithin_succ_cases (t : FileTree) (cwd : Path) (count : Nat) (p : Path) :
    makeDirsWithin t cwd (count + 1) p = t.ensureDir cwd p ∧
        (p.names = [] ∨ t.locate cwd p ≠ .error .notFound) ∨
      p.names ≠ [] ∧ t.locate cwd p = .error .notFound ∧
        ((∃ t₁ e, makeDirsWithin t cwd count p.parent = (t₁, .error e) ∧
            makeDirsWithin t cwd (count + 1) p = (t₁, .error e)) ∨
          ∃ t₁, makeDirsWithin t cwd count p.parent = (t₁, .ok ()) ∧
            makeDirsWithin t cwd (count + 1) p = t₁.ensureDir cwd p) := by
  have direct : (p.names = [] ∨ ∀ path, t.makeDir cwd p ≠ .error ⟨.notFound, path⟩) →
      makeDirsWithin t cwd (count + 1) p = t.ensureDir cwd p := by
    intro h
    rw [makeDirsWithin]
    split
    · rename_i path names hmade
      rcases h with h | h
      · rw [h] at names
        cases names
      · exact absurd hmade (h _)
    · rfl
  by_cases top : p.names = []
  · exact .inl ⟨direct (.inl top), .inl top⟩
  by_cases missing : t.locate cwd p = .error .notFound
  · refine .inr ⟨top, missing, ?_⟩
    obtain ⟨name, names, hnames⟩ := List.exists_cons_of_ne_nil top
    cases hparent : makeDirsWithin t cwd count p.parent with
    | mk t₁ outcome =>
      cases outcome with
      | error e =>
        refine .inl ⟨t₁, e, rfl, ?_⟩
        simp only [makeDirsWithin, hnames, makeDir_of_error missing, hparent]
      | ok _ =>
        refine .inr ⟨t₁, rfl, ?_⟩
        simp only [makeDirsWithin, hnames, makeDir_of_error missing, hparent]
        split
        · rename_i path hmade
          obtain ⟨hl, rfl⟩ := makeDir_notFound hmade
          exact (ensureDir_of_error hl).symm
        · rfl
  · refine .inl ⟨direct (.inr ?_), .inr missing⟩
    intro path hmade
    exact missing (makeDir_notFound hmade).1

/-- And so does making all directories above it. -/
theorem spreads_makeDirsWithin {spots : List Text → Prop} (count : Nat) :
    Spreads (Path.Passes cwd p) spots t (makeDirsWithin t cwd count p).1 := by
  induction count generalizing p with
  | zero => exact .refl
  | succ count ih =>
    have above : Spreads (Path.Passes cwd p) spots t (makeDirsWithin t cwd count p.parent).1 :=
      ih.mono (fun _ way => way.of_parent) fun _ spot => spot
    obtain ⟨direct, -⟩ | ⟨-, -, ⟨t₁, e, hparent, failed⟩ | ⟨t₁, hparent, last⟩⟩ :=
      makeDirsWithin_succ_cases t cwd count p
    · rw [direct]
      exact spreads_ensureDir
    · rw [hparent] at above
      rw [failed]
      exact above
    · rw [hparent] at above
      rw [last]
      exact above.trans spreads_ensureDir

/-- Directories that were made are there, down to the last, and the way could be begun before. -/
theorem makeDirsWithin_ok (h : makeDirsWithin t cwd count p = (t', .ok ())) :
    Starts t cwd p ∧ ∀ q, Path.Passes cwd p q → t'.kind? q = some none := by
  induction count generalizing p t' with
  | zero => simp [makeDirsWithin] at h
  | succ count ih =>
    have last : ∀ t₁ : FileTree, t₁.ensureDir cwd p = (t', .ok ()) →
        ∀ q, Path.Passes cwd p q → t'.kind? q = some none := by
      intro t₁ made
      obtain ⟨located, dir⟩ := ensureDir_ok made
      have spread : Spreads (Path.Passes cwd p) (fun _ => False) t₁ (t₁.ensureDir cwd p).1 :=
        spreads_ensureDir
      rw [made] at spread
      exact dirs_of_locate (locate_of_dirs spread.dirs located) dir
    obtain ⟨direct, -⟩ | ⟨-, -, ⟨t₁, e, -, failed⟩ | ⟨t₁, hparent, made⟩⟩ :=
      makeDirsWithin_succ_cases t cwd count p
    · rw [direct] at h
      exact ⟨starts_of_locate (ensureDir_ok h).1, last t h⟩
    · rw [failed] at h
      simp at h
    · rw [made] at h
      exact ⟨(ih hparent).1, last t₁ h⟩

/-- Where a way cannot be begun no directory is made. -/
theorem makeDirsWithin_of_not_starts (h : ¬Starts t cwd p) (count : Nat) :
    (makeDirsWithin t cwd count p).1 = t := by
  induction count generalizing p with
  | zero => rfl
  | succ count ih =>
    obtain ⟨direct, -⟩ | ⟨-, -, ⟨t₁, e, hparent, failed⟩ | ⟨t₁, hparent, -⟩⟩ :=
      makeDirsWithin_succ_cases t cwd count p
    · rw [direct]
      cases hl : t.locate cwd p with
      | error problem => rw [ensureDir_of_error hl]
      | ok place => exact absurd (starts_of_locate hl) h
    · have unchanged := @ih p.parent h
      rw [hparent] at unchanged
      rw [failed]
      exact unchanged
    · exact absurd (makeDirsWithin_ok hparent).1 h

/-- No path leads anywhere for a number of steps up. -/
def Lacks (t : FileTree) (cwd p : Path) (count : Nat) : Prop :=
  ∀ k < count, (p.up k).names ≠ [] ∧ t.locate cwd (p.up k) = .error .notFound

/-- More directories are missing when the last one is, and as many above it as before. -/
theorem lacks_succ : t.Lacks cwd p (count + 1) ↔
    (p.names ≠ [] ∧ t.locate cwd p = .error .notFound) ∧ t.Lacks cwd p.parent count := by
  constructor
  · intro h
    exact ⟨h 0 (Nat.succ_pos _), fun k hk => h (k + 1) (Nat.succ_lt_succ hk)⟩
  · rintro ⟨here, above⟩ k hk
    cases k with
    | zero => exact here
    | succ k => exact above k (Nat.lt_of_succ_lt_succ hk)

/-- Some path not too many steps up leads somewhere, or has no names left. -/
def Near (t : FileTree) (cwd p : Path) (count : Nat) : Prop :=
  ∃ k < count, (p.up k).names = [] ∨ ∃ place, t.locate cwd (p.up k) = .ok place

/-- What is near stays near while directories stay. -/
theorem Near.of_dirs (h : t.Near cwd p count)
    (dirs : ∀ q, t.kind? q = some none → t'.kind? q = some none) : t'.Near cwd p count := by
  obtain ⟨k, hk, top | ⟨place, located⟩⟩ := h
  · exact ⟨k, hk, .inl top⟩
  · exact ⟨k, hk, .inr ⟨place, locate_of_dirs dirs located⟩⟩

/-- A path that is near does not lack too many directories. -/
theorem Near.not_lacks (h : t.Near cwd p count) : ¬t.Lacks cwd p count := by
  intro lacks
  obtain ⟨k, hk, top | ⟨place, located⟩⟩ := h
  · exact (lacks k hk).1 top
  · have missing := (lacks k hk).2
    rw [located] at missing
    cases missing

/-- Where too many directories are missing none is made. -/
theorem makeDirsWithin_of_lacks (h : t.Lacks cwd p count) :
    ∃ path, makeDirsWithin t cwd count p = (t, .error ⟨.tooDeep, path⟩) := by
  induction count generalizing p with
  | zero => exact ⟨p, rfl⟩
  | succ count ih =>
    obtain ⟨⟨named, missing⟩, above⟩ := lacks_succ.1 h
    obtain ⟨path, hparent⟩ := ih above
    obtain ⟨-, found⟩ | ⟨-, -, ⟨t₁, e, hparent', failed⟩ | ⟨t₁, hparent', -⟩⟩ :=
      makeDirsWithin_succ_cases t cwd count p
    · rcases found with top | found
      · exact absurd top named
      · exact absurd missing found
    · rw [hparent] at hparent'
      obtain ⟨rfl, same⟩ := Prod.mk.inj hparent'
      rw [failed, ← same]
      exact ⟨path, rfl⟩
    · rw [hparent] at hparent'
      cases congrArg Prod.snd hparent'

/-- On a clear way directories are made, unless too many are missing. -/
theorem makeDirsWithin_clear (fits : Fits p) (starts : Starts t cwd p)
    (clear : ∀ q, Path.Passes cwd p q → ∀ content, t.kind? q ≠ some (some content)) (count : Nat) :
    (makeDirsWithin t cwd count p).2 = .ok () ∨ t.Lacks cwd p count := by
  induction count generalizing p with
  | zero => exact .inr fun k hk => absurd hk (Nat.not_lt_zero k)
  | succ count ih =>
    have above := ih fits.parent starts fun q way => clear q way.of_parent
    obtain ⟨direct, found⟩ | ⟨ne, missing, ⟨t₁, e, hparent, failed⟩ | ⟨t₁, hparent, last⟩⟩ :=
      makeDirsWithin_succ_cases t cwd count p
    · left
      rw [direct]
      refine (ensureDir_clear fits starts clear).resolve_left ?_
      refine found.elim (fun top missing => ?_) id
      rw [starts.locate_of_top fits top] at missing
      cases missing
    · right
      rw [hparent] at above
      exact lacks_succ.2 ⟨⟨ne, missing⟩, above.resolve_left nofun⟩
    · left
      have spread : Spreads (Path.Passes cwd p.parent) (fun _ => False) t
          (makeDirsWithin t cwd count p.parent).1 := spreads_makeDirsWithin count
      rw [hparent] at spread
      rw [last]
      have starts₁ : Starts t₁ cwd p := starts.of_dirs spread.dirs
      have located := starts₁.locate_of_parent fits ne (makeDirsWithin_ok hparent).2
      refine (ensureDir_clear fits starts₁ ?_).resolve_left ?_
      · intro q way content file
        obtain ⟨content', file⟩ := (spread.file_cases file).resolve_right id
        exact clear q way content' file
      · rw [located]
        nofun

/-! ## Writing a file -/

/-- Nothing is stored where a path leads to no place. -/
theorem store_of_error {problem : FileProblem} {bytes : ByteArray}
    (h : t.locate cwd p = .error problem) : t.store cwd p bytes = .error ⟨problem, p⟩ := by
  unfold store
  rw [h]
  rfl

/-- Bytes are stored at the place of a path, unless a directory is there. -/
theorem store_of_ok {bytes : ByteArray} (h : t.locate cwd p = .ok place) :
    t.store cwd p bytes = match t.kind? place with
      | some none => .error ⟨.isDirectory, p⟩
      | _ => .ok (FileTree.place (.file bytes) place t) := by
  unfold store
  rw [h, kind?]
  simp only [bind, Except.bind]
  cases t.get? place with
  | none => rfl
  | some node =>
    cases node with
    | dir children => rfl
    | file content => rfl

/-- A file that is opened was there, or is there now without anything in it. -/
theorem openFile_cases {names : List Text} (h : t.openFile cwd p = .ok (t', names)) :
    names = Path.place cwd p ∧
      ((∃ content, t.kind? (Path.place cwd p) = some (some content) ∧ t' = t) ∨
        t.kind? (Path.place cwd p) = none ∧
          (Path.place cwd p = [] ∨ t.kind? (Path.place cwd p).dropLast = some none) ∧
          t' = FileTree.place (.file ByteArray.empty) (Path.place cwd p) t) := by
  obtain ⟨_, located, h⟩ := bind_ok_iff.1 (refuse_ok_iff.1 h)
  obtain ⟨rfl, above⟩ := locate_ok located
  cases there : t.get? (Path.place cwd p) with
  | some node =>
    simp only [there] at h
    cases node with
    | dir children => cases h
    | file content =>
      cases h
      exact ⟨rfl, .inl ⟨content, kind?_eq_file.2 there, rfl⟩⟩
  | none =>
    simp only [there] at h
    cases h
    exact ⟨rfl, .inr ⟨by simp [kind?, there], above, rfl⟩⟩

/-- A text file is written after the directories above it, where no directory stands. A text
without an encoding leaves its file empty. -/
theorem writeText_cases [Stack] (t : FileTree) (cwd p : Path) (text : Text) :
    (∃ t₁ e, t.makeDirs cwd p.parent = (t₁, .error e) ∧
        t.writeText cwd p text = (t₁, .error e)) ∨
      ∃ t₁, t.makeDirs cwd p.parent = (t₁, .ok ()) ∧
        ((∃ e, t₁.store cwd p ((Text.encode text).toOption.getD ByteArray.empty) = .error e ∧
            t.writeText cwd p text = (t₁, .error e)) ∨
          ∃ t₂, t₁.store cwd p ((Text.encode text).toOption.getD ByteArray.empty) = .ok t₂ ∧
            t.writeText cwd p text =
              (t₂, (Text.encode text).mapError (fun reason => ⟨.unencodable reason, p⟩) *>
                .ok ())) := by
  unfold writeText
  split
  · rename_i t₁ e hdirs
    exact .inl ⟨t₁, e, hdirs, rfl⟩
  · rename_i t₁ hdirs
    refine .inr ⟨t₁, hdirs, ?_⟩
    dsimp only
    split
    · rename_i e hstore
      exact .inl ⟨e, hstore, rfl⟩
    · rename_i t₂ hstore
      exact .inr ⟨t₂, hstore, rfl⟩

/-- An attempt to write a file makes directories on its way, and the file apart from them. -/
theorem spreads_writeText [Stack] (text : Text) :
    Spreads (Path.Passes cwd p.parent)
      (fun q => q = Path.place cwd p ∧ ¬Path.Passes cwd p.parent q) t
      (t.writeText cwd p text).1 := by
  have made : Spreads (Path.Passes cwd p.parent)
      (fun q => q = Path.place cwd p ∧ ¬Path.Passes cwd p.parent q) t
      (t.makeDirs cwd p.parent).1 := spreads_makeDirsWithin mostDirs
  obtain ⟨t₁, e, hdirs, h⟩ | ⟨t₁, hdirs, ⟨e, -, h⟩ | ⟨t₂, hstore, h⟩⟩ :=
    writeText_cases t cwd p text
  · rw [hdirs] at made
    rw [h]
    exact made
  · rw [hdirs] at made
    rw [h]
    exact made
  · rw [hdirs] at made
    rw [h]
    refine made.trans ?_
    have dirs := (makeDirsWithin_ok hdirs).2
    cases hl : t₁.locate cwd p with
    | error problem =>
      rw [store_of_error hl] at hstore
      cases hstore
    | ok place =>
      obtain ⟨rfl, above⟩ := locate_ok hl
      rw [store_of_ok hl] at hstore
      split at hstore
      · cases hstore
      · rename_i vacant
        obtain rfl := Except.ok.inj hstore
        exact spreads_place_file above vacant ⟨rfl, fun way => vacant (dirs _ way)⟩

/-- An attempt to write a file touches no other file. -/
theorem grows_writeText [Stack] (text : Text) :
    Grows [Path.place cwd p] t (t.writeText cwd p text).1 := by
  have made : Grows [] t (t.makeDirs cwd p.parent).1 := makeDirsWithin_grows mostDirs
  obtain ⟨t₁, e, hdirs, h⟩ | ⟨t₁, hdirs, ⟨e, -, h⟩ | ⟨t₂, hstore, h⟩⟩ :=
    writeText_cases t cwd p text
  · rw [hdirs] at made
    rw [h]
    exact made.mono (List.nil_subset _)
  · rw [hdirs] at made
    rw [h]
    exact made.mono (List.nil_subset _)
  · rw [hdirs] at made
    rw [h]
    exact made.trans (store_ok hstore).2

/-- An attempt to write a file does not make its way one that can be begun. -/
theorem starts_of_writeText [Stack] {text : Text} (h : Starts (t.writeText cwd p text).1 cwd p) :
    Starts t cwd p := by
  by_contra unbegun
  have unchanged : (t.makeDirs cwd p.parent).1 = t :=
    makeDirsWithin_of_not_starts (p := p.parent) unbegun mostDirs
  obtain ⟨t₁, e, hdirs, hw⟩ | ⟨t₁, hdirs, -⟩ := writeText_cases t cwd p text
  · rw [hdirs] at unchanged
    rw [hw, show t₁ = t from unchanged] at h
    exact unbegun h
  · exact unbegun (makeDirsWithin_ok hdirs).1

/-- Nothing stands in the way of a file: the file system takes its path, the way can be begun,
no file is on it, and no directory is or comes where the file goes. -/
structure Open (t : FileTree) (cwd p : Path) : Prop where
  fits : Fits p
  starts : Starts t cwd p
  aside : ¬Path.Passes cwd p.parent (Path.place cwd p)
  clear : ∀ q, Path.Passes cwd p.parent q → ∀ content, t.kind? q ≠ some (some content)
  vacant : t.kind? (Path.place cwd p) ≠ some none

namespace Open

variable {ways spots : List Text → Prop}

/-- What is open stays open while nothing comes in its way. -/
theorem spreads (h : Open t cwd p) (spread : Spreads ways spots t t')
    (noDir : ¬ways (Path.place cwd p)) (noFile : ∀ q, Path.Passes cwd p.parent q → ¬spots q) :
    Open t' cwd p where
  fits := h.fits
  starts := h.starts.of_dirs spread.dirs
  aside := h.aside
  clear q way content file := by
    obtain ⟨content', file⟩ := (spread.file_cases file).resolve_right (noFile q way)
    exact h.clear q way content' file
  vacant dir := by
    rcases spread.dir_cases dir with dir | ⟨-, way⟩
    · exact h.vacant dir
    · exact noDir way

/-- What is open was open before, once its way could be begun. -/
theorem back (h : Open t' cwd p) (spread : Spreads ways spots t t') (starts : Starts t cwd p) :
    Open t cwd p where
  fits := h.fits
  starts := starts
  aside := h.aside
  clear q way content file := by
    obtain ⟨content', file⟩ := spread.files q content file
    exact h.clear q way content' file
  vacant dir := h.vacant (spread.dirs _ dir)

/-- A path that can be opened names something. -/
theorem names_ne_nil (h : Open t cwd p) : p.names ≠ [] := by
  intro top
  refine h.aside ?_
  rw [Path.parent_eq_self top]
  exact Path.passes_place

end Open

/-- Where a file was written its way was open, and now there are directories on it. -/
theorem open_of_writeText [Stack] {text : Text} (h : t.writeText cwd p text = (t', .ok ())) :
    Open t cwd p ∧ ∀ q, Path.Passes cwd p.parent q → t'.kind? q = some none := by
  obtain ⟨t₁, e, -, failed⟩ | ⟨t₁, hdirs, ⟨e, -, failed⟩ | ⟨t₂, hstore, stored⟩⟩ :=
    writeText_cases t cwd p text
  · simp [failed] at h
  · simp [failed] at h
  · rw [stored] at h
    obtain ⟨rfl, -⟩ := Prod.mk.inj h
    have spread : Spreads (Path.Passes cwd p.parent) (fun _ => False) t
        (t.makeDirs cwd p.parent).1 := spreads_makeDirsWithin mostDirs
    rw [hdirs] at spread
    obtain ⟨starts, dirs⟩ := makeDirsWithin_ok hdirs
    cases hl : t₁.locate cwd p with
    | error problem =>
      rw [store_of_error hl] at hstore
      cases hstore
    | ok place =>
      obtain ⟨rfl, above⟩ := locate_ok hl
      rw [store_of_ok hl] at hstore
      split at hstore
      · cases hstore
      · rename_i vacant
        obtain rfl := Except.ok.inj hstore
        have opened : Open t₁ cwd p :=
          { fits := fits_of_locate hl
            starts := starts_of_locate hl
            aside := fun way => vacant (dirs _ way)
            clear := fun q way content file => by simp [dirs q way] at file
            vacant := vacant }
        refine ⟨opened.back spread starts, fun q way => ?_⟩
        exact (grows_place above vacant fun _ => kind?_leaf_file).dirs q (dirs q way)

/-- Where too many directories are missing nothing is written. -/
theorem writeText_of_lacks [Stack] (h : t.Lacks cwd p.parent mostDirs) (text : Text) :
    ∃ path, t.writeText cwd p text = (t, .error ⟨.tooDeep, path⟩) := by
  obtain ⟨path, made⟩ := makeDirsWithin_of_lacks h
  refine ⟨path, ?_⟩
  unfold writeText makeDirs
  rw [made]

/-- On an open way a text with an encoding is written, unless too many directories are missing. -/
theorem writeText_open [Stack] {text : Text} {bytes : ByteArray} (h : Open t cwd p)
    (encodes : Text.encode text = .ok bytes) :
    (t.writeText cwd p text).2 = .ok () ∨ t.Lacks cwd p.parent mostDirs := by
  rcases makeDirsWithin_clear h.fits.parent h.starts h.clear mostDirs with made | lacks
  · left
    have spread : Spreads (Path.Passes cwd p.parent) (fun _ => False) t
        (t.makeDirs cwd p.parent).1 := spreads_makeDirsWithin mostDirs
    obtain ⟨t₁, e, hdirs, failed⟩ | ⟨t₁, hdirs, rest⟩ := writeText_cases t cwd p text
    · rw [show makeDirsWithin t cwd mostDirs p.parent = (t₁, .error e) from hdirs] at made
      cases made
    · rw [hdirs] at spread
      have opened : Open t₁ cwd p := h.spreads spread h.aside fun _ _ => id
      have located := opened.starts.locate_of_parent h.fits h.names_ne_nil
        (makeDirsWithin_ok hdirs).2
      have stored : ∀ content, t₁.store cwd p content =
          .ok (FileTree.place (.file content) (Path.place cwd p) t₁) := by
        intro content
        rw [store_of_ok located]
        split
        · rename_i dir
          exact absurd dir opened.vacant
        · rfl
      obtain ⟨e, hstore, -⟩ | ⟨t₂, -, written⟩ := rest
      · rw [stored] at hstore
        cases hstore
      · rw [written, encodes]
        rfl
  · exact .inr lacks

/-- Where one text can be written, every text with an encoding can. -/
theorem writeText_of_writable [Stack] {text text' : Text} {bytes : ByteArray}
    (writable : (t.writeText cwd p text).2 = .ok ()) (encodes : Text.encode text' = .ok bytes) :
    ∃ t', t.writeText cwd p text' = (t', .ok ()) := by
  obtain ⟨t₁, e, -, failed⟩ | ⟨t₁, hdirs, ⟨e, -, failed⟩ | ⟨t₂, hstore, -⟩⟩ :=
    writeText_cases t cwd p text
  · rw [failed] at writable
    cases writable
  · rw [failed] at writable
    cases writable
  · cases hl : t₁.locate cwd p with
    | error problem =>
      rw [store_of_error hl] at hstore
      cases hstore
    | ok place =>
      rw [store_of_ok hl] at hstore
      have vacant : t₁.kind? place ≠ some none := by
        intro dir
        rw [dir] at hstore
        cases hstore
      have stored : t₁.store cwd p bytes = .ok (FileTree.place (.file bytes) place t₁) := by
        rw [store_of_ok hl]
        split
        · rename_i dir
          exact absurd dir vacant
        · rfl
      refine ⟨FileTree.place (.file bytes) place t₁, ?_⟩
      unfold writeText
      rw [hdirs, encodes]
      dsimp only [Except.toOption, Option.getD]
      rw [stored]
      rfl

end FileTree

end Bindery
