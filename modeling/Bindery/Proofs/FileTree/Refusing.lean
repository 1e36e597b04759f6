import Bindery.Proofs.FileTree.Making

/-!
# Writing that the file system refuses

An attempt to write a file can fail without the file system being asked: for the text of the path,
for the text to be written, or for too many directories that are missing. Where none of these is the
case (`Path.Sayable`, `FileTree.Near`), a failure is a refusal of the file system
(`writeText_refusal`). What fails leaves every file as it is, but for a text that was stored and has
no encoding (`writeText_error`).
-/

namespace Bindery

open Outcome

/-- A path that can be said to a file system: its text has an encoding, and no NUL in it. -/
structure Path.Sayable (p : Path) : Prop where
  encodes : Text.checkName p.text = .ok ()
  noNul : .char '\x00' ∉ p.text

/-- A path whose text begins one that can be said can be said. -/
theorem Path.Sayable.of_begins {p q : Path} (h : p.Sayable) (begins : q.text <+: p.text) :
    q.Sayable := by
  obtain ⟨rest, whole⟩ := begins
  have encodes := Text.checkName_ok_iff.1 h.encodes
  have noNul := h.noNul
  rw [← whole] at encodes noNul
  exact ⟨Text.checkName_ok_iff.2 fun c hc => encodes c (List.mem_append_left _ hc),
    fun hc => noNul (List.mem_append_left _ hc)⟩

/-- So can the one above it. -/
theorem Path.Sayable.parent {p : Path} (h : p.Sayable) : p.parent.Sayable := by
  rcases FileTree.text_parent p with dot | begins
  · exact ⟨by rw [dot]; decide +kernel, by rw [dot]; decide +kernel⟩
  · exact h.of_begins begins

namespace FileTree

variable {t t' : FileTree} {cwd p : Path} {here names : List Text} {count : Nat}

/-- A walk fails only with a refusal of the file system. -/
theorem walk_refusal {problem : FileProblem} (h : t.walk here names = .error problem) :
    problem.isRefusal = true := by
  induction names generalizing here with
  | nil => cases h
  | cons name names ih =>
    rw [walk] at h
    split at h
    · obtain rfl := Except.error.inj h
      rfl
    · obtain rfl := Except.error.inj h
      rfl
    · split at h
      · exact ih h
      · split at h
        · obtain rfl := Except.error.inj h
          rfl
        · exact ih h

/-- And so does finding the place of a path that can be said. -/
theorem locate_refusal (sayable : p.Sayable) {problem : FileProblem}
    (h : t.locate cwd p = .error problem) : problem.isRefusal = true := by
  unfold locate checkText at h
  rw [sayable.encodes] at h
  simp only [List.contains_iff_mem, sayable.noNul, if_false] at h
  split at h
  · obtain rfl := Except.error.inj h
    rfl
  · exact walk_refusal h

/-- And making sure of a directory there. -/
theorem ensureDir_refusal (sayable : p.Sayable) {e : FileError}
    (h : t.ensureDir cwd p = (t', .error e)) : e.problem.isRefusal = true := by
  cases hl : t.locate cwd p with
  | error problem =>
    rw [ensureDir_of_error hl] at h
    obtain rfl := Except.error.inj (congrArg Prod.snd h)
    exact locate_refusal sayable hl
  | ok place =>
    rw [ensureDir_of_ok hl] at h
    split at h
    · cases congrArg Prod.snd h
    · cases congrArg Prod.snd h
    · obtain rfl := Except.error.inj (congrArg Prod.snd h)
      rfl

/-- Directories that are not made are refused by the file system, or too many of them are missing.
-/
theorem makeDirsWithin_refusal (sayable : p.Sayable) {e : FileError}
    (h : makeDirsWithin t cwd count p = (t', .error e)) :
    e.problem.isRefusal = true ∨ t.Lacks cwd p count := by
  induction count generalizing p t' e with
  | zero => exact .inr fun k hk => absurd hk (Nat.not_lt_zero k)
  | succ count ih =>
    obtain ⟨direct, -⟩ | ⟨named, missing, ⟨t₁, e₁, hparent, failed⟩ | ⟨t₁, -, last⟩⟩ :=
      makeDirsWithin_succ_cases t cwd count p
    · exact .inl (ensureDir_refusal sayable (direct.symm.trans h))
    · obtain ⟨-, same⟩ := Prod.mk.inj (failed.symm.trans h)
      obtain rfl := Except.error.inj same
      exact (ih sayable.parent hparent).imp_right fun above =>
        lacks_succ.2 ⟨⟨named, missing⟩, above⟩
    · exact .inl (ensureDir_refusal sayable (last.symm.trans h))

variable {text : Text} {bytes : ByteArray} {e : FileError}

/-- A text with an encoding, at a path that can be said and with not too many directories missing,
is written or refused by the file system. -/
theorem writeText_refusal [Stack] (sayable : p.Sayable) (near : t.Near cwd p.parent mostDirs)
    (encodes : Text.encode text = .ok bytes) (h : t.writeText cwd p text = (t', .error e)) :
    e.problem.isRefusal = true := by
  obtain ⟨t₁, e₁, hdirs, failed⟩ | ⟨t₁, -, ⟨e₁, hstore, failed⟩ | ⟨t₂, -, written⟩⟩ :=
    writeText_cases t cwd p text
  · obtain ⟨-, same⟩ := Prod.mk.inj (failed.symm.trans h)
    obtain rfl := Except.error.inj same
    exact (makeDirsWithin_refusal sayable.parent hdirs).resolve_right near.not_lacks
  · obtain ⟨-, same⟩ := Prod.mk.inj (failed.symm.trans h)
    obtain rfl := Except.error.inj same
    cases hl : t₁.locate cwd p with
    | error problem =>
      rw [store_of_error hl] at hstore
      obtain rfl := Except.error.inj hstore
      exact locate_refusal sayable hl
    | ok place =>
      rw [store_of_ok hl] at hstore
      split at hstore
      · obtain rfl := Except.error.inj hstore
        rfl
      · cases hstore
  · rw [encodes] at written
    cases congrArg Prod.snd (written.symm.trans h)

/-- An attempt to write a text that fails touches no file, unless the text was stored and has no
encoding. -/
theorem writeText_error [Stack] (h : t.writeText cwd p text = (t', .error e)) :
    Grows [] t t' ∨ ∃ reason, Text.encode text = .error reason ∧ e = ⟨.unencodable reason, p⟩ := by
  have made : Grows [] t (t.makeDirs cwd p.parent).1 := makeDirsWithin_grows mostDirs
  obtain ⟨t₁, e₁, hdirs, failed⟩ | ⟨t₁, hdirs, ⟨e₁, -, failed⟩ | ⟨t₂, -, written⟩⟩ :=
    writeText_cases t cwd p text
  · rw [hdirs] at made
    obtain ⟨rfl, -⟩ := Prod.mk.inj (failed.symm.trans h)
    exact .inl made
  · rw [hdirs] at made
    obtain ⟨rfl, -⟩ := Prod.mk.inj (failed.symm.trans h)
    exact .inl made
  · cases encoded : Text.encode text with
    | ok bytes =>
      rw [encoded] at written
      cases congrArg Prod.snd (written.symm.trans h)
    | error reason =>
      rw [encoded] at written
      obtain ⟨-, same⟩ := Prod.mk.inj (written.symm.trans h)
      exact .inr ⟨reason, rfl, (Except.error.inj same).symm⟩

/-- So it does not when the text has an encoding. -/
theorem grows_of_encodes [Stack] (encodes : Text.encode text = .ok bytes)
    (h : t.writeText cwd p text = (t', .error e)) : Grows [] t t' := by
  refine (writeText_error h).resolve_right ?_
  rintro ⟨reason, encoded, -⟩
  rw [encodes] at encoded
  cases encoded

/-- A file that the file system refuses to write is left alone, and so are all others. -/
theorem writeText_refused [Stack] (h : t.writeText cwd p text = (t', .error e))
    (refused : e.problem.isRefusal = true) : Grows [] t t' := by
  refine (writeText_error h).resolve_right ?_
  rintro ⟨reason, -, rfl⟩
  cases refused

/-! ## Too many missing directories -/

/-- Finding a place makes no directory, so there are never too many to be made. -/
theorem locate_only (t : FileTree) (cwd p : Path) : Only (· ≠ .tooDeep) (t.locate cwd p) := by
  refine only_bind ?_ fun _ problem walked deep => ?_
  · unfold checkText
    split
    · exact only_error nofun
    · split
      · exact only_error nofun
      · split
        · exact only_error nofun
        · exact only_pure ()
  · cases deep ▸ walk_refusal walked

/-- Nor are there when a single one is made. -/
theorem ensureDir_ne_tooDeep {path : Path} :
    t.ensureDir cwd p ≠ (t', .error ⟨.tooDeep, path⟩) := by
  intro h
  cases hl : t.locate cwd p with
  | error problem =>
    rw [ensureDir_of_error hl] at h
    obtain rfl := (FileError.mk.inj (Except.error.inj (congrArg Prod.snd h))).1
    exact t.locate_only cwd p _ hl rfl
  | ok place =>
    rw [ensureDir_of_ok hl] at h
    split at h
    · cases congrArg Prod.snd h
    · cases congrArg Prod.snd h
    · cases congrArg Prod.snd h

/-- There are too many directories to be made only where as many are missing. -/
theorem lacks_of_makeDirsWithin {path : Path}
    (h : makeDirsWithin t cwd count p = (t', .error ⟨.tooDeep, path⟩)) : t.Lacks cwd p count := by
  induction count generalizing p t' with
  | zero => exact fun k hk => absurd hk (Nat.not_lt_zero k)
  | succ count ih =>
    obtain ⟨direct, -⟩ | ⟨named, missing, ⟨t₁, e₁, hparent, failed⟩ | ⟨t₁, -, last⟩⟩ :=
      makeDirsWithin_succ_cases t cwd count p
    · exact absurd (direct.symm.trans h) ensureDir_ne_tooDeep
    · obtain ⟨rfl, same⟩ := Prod.mk.inj (failed.symm.trans h)
      obtain rfl := Except.error.inj same
      exact lacks_succ.2 ⟨⟨named, missing⟩, ih hparent⟩
    · exact absurd (last.symm.trans h) ensureDir_ne_tooDeep

/-- And so it is for the directories above a file. -/
theorem lacks_of_writeText [Stack] {path : Path}
    (h : t.writeText cwd p text = (t', .error ⟨.tooDeep, path⟩)) :
    t.Lacks cwd p.parent mostDirs := by
  obtain ⟨t₁, e₁, hdirs, failed⟩ | ⟨t₁, -, ⟨e₁, hstore, failed⟩ | ⟨t₂, -, written⟩⟩ :=
    writeText_cases t cwd p text
  · obtain ⟨-, same⟩ := Prod.mk.inj (failed.symm.trans h)
    obtain rfl := Except.error.inj same
    exact lacks_of_makeDirsWithin hdirs
  · obtain ⟨-, same⟩ := Prod.mk.inj (failed.symm.trans h)
    obtain rfl := Except.error.inj same
    cases hl : t₁.locate cwd p with
    | error problem =>
      rw [store_of_error hl] at hstore
      obtain rfl := (FileError.mk.inj (Except.error.inj hstore)).1
      exact absurd rfl (t₁.locate_only cwd p _ hl)
    | ok place =>
      rw [store_of_ok hl] at hstore
      split at hstore
      · cases hstore
      · cases hstore
  · cases encoded : Text.encode text with
    | ok bytes =>
      rw [encoded] at written
      cases congrArg Prod.snd (written.symm.trans h)
    | error reason =>
      rw [encoded] at written
      cases congrArg Prod.snd (written.symm.trans h)

end FileTree

end Bindery
