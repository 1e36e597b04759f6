import Bindery.Proofs.FileTree.Making

/-!
# Trees that differ in one file

Two trees are alike but for a file when they are one tree once that file is emptied (`blank`,
`SameBut`). What makes directories and writes files asks only what is a directory, a file or
nothing, so it ends in one way in both trees, and leaves them alike (`SameBut.writeText`).
-/

namespace Bindery

namespace Assoc

variable {α β : Type} {key : Text}

/-- Values that are changed under their keys are found as they were, and changed. -/
theorem get?_mapValues (f : Text → α → β) (entries : List (Text × α)) :
    get? key (entries.map fun e => (e.1, f e.1 e.2)) = (get? key entries).map (f key) := by
  induction entries with
  | nil => rfl
  | cons e rest ih =>
    rw [List.map_cons, get?, get?]
    by_cases same : Key.same e.1 key = true
    · rw [if_pos same, if_pos same, Option.map_some, beq_iff_eq.1 same]
    · rw [if_neg same, if_neg same, ih]

/-- Putting a value commutes with changing all values under their keys. -/
theorem put_mapValues (f : Text → α → β) (v : α) (entries : List (Text × α)) :
    (put key v entries).map (fun e => (e.1, f e.1 e.2)) =
      put key (f key v) (entries.map fun e => (e.1, f e.1 e.2)) := by
  induction entries with
  | nil => rfl
  | cons e rest ih =>
    rw [put, List.map_cons, put]
    by_cases same : Key.same e.1 key = true
    · rw [if_pos same, if_pos same, List.map_cons, beq_iff_eq.1 same]
    · rw [if_neg same, if_neg same, List.map_cons, ih]

/-- Putting the value that is there changes nothing. -/
theorem put_get? {v : α} {entries : List (Text × α)} (there : get? key entries = some v) :
    put key v entries = entries := by
  induction entries with
  | nil => cases there
  | cons e rest ih =>
    rw [get?] at there
    rw [put]
    by_cases same : Key.same e.1 key = true
    · rw [if_pos same] at there ⊢
      rw [← Option.some.inj there]
    · rw [if_neg same] at there ⊢
      rw [ih there]

end Assoc

namespace FileTree

/-! ## Emptying a file -/

/-- The tree with the file at a list of names emptied, if there is one. -/
def blank : List Text → FileTree → FileTree
  | [], .file _ => .file ByteArray.empty
  | [], .dir children => .dir children
  | _ :: _, .file content => .file content
  | name :: names, .dir children =>
    .dir (children.map fun e => (e.1, if e.1 = name then blank names e.2 else e.2))

variable {t t' new : FileTree} {names q : List Text} {content : ByteArray}

/-- What is blank stays so. -/
theorem blank_blank (names : List Text) (t : FileTree) :
    blank names (blank names t) = blank names t := by
  induction names generalizing t with
  | nil => cases t <;> rfl
  | cons name names ih =>
    cases t with
    | file content => rfl
    | dir children =>
      simp only [blank, List.map_map]
      congr 1
      refine List.map_congr_left fun e _ => ?_
      by_cases same : e.1 = name
      · simp [same, ih]
      · simp [same]

/-- What is a directory, a file or nothing is so still. -/
theorem isDir_blank (names q : List Text) (t : FileTree) :
    ((blank names t).get? q).map isDir = (t.get? q).map isDir := by
  induction q generalizing names t with
  | nil => cases names <;> cases t <;> rfl
  | cons n q ih =>
    cases names with
    | nil => cases t <;> rfl
    | cons name names =>
      cases t with
      | file content => rfl
      | dir children =>
        rw [blank, get?, get?, Assoc.get?_mapValues fun k child =>
          if k = name then blank names child else child]
        cases Assoc.get? n children with
        | none => rfl
        | some child =>
          rw [Option.map_some, Option.bind_some, Option.bind_some]
          split
          · exact ih names child
          · rfl

/-- Elsewhere everything is what it was. -/
theorem kind?_blank (ne : q ≠ names) (t : FileTree) : (blank names t).kind? q = t.kind? q := by
  induction names generalizing q t with
  | nil =>
    cases t with
    | file content => exact (kind?_leaf_file ne).trans (kind?_leaf_file ne).symm
    | dir children => rfl
  | cons name names ih =>
    cases t with
    | file content => rfl
    | dir children =>
      cases q with
      | nil => rfl
      | cons n q =>
        have child (child : FileTree) :
            (if n = name then blank names child else child).kind? q = child.kind? q := by
          split
          · rename_i same
            exact ih (fun below => ne (by rw [same, below])) child
          · rfl
        rw [blank, kind?_dir_cons, kind?_dir_cons,
          Assoc.get?_mapValues fun k child => if k = name then blank names child else child]
        cases Assoc.get? n children with
        | none => rfl
        | some node => exact child node

/-- A node can be put in place before or after a file is emptied. -/
theorem blank_place (names q : List Text) (t : FileTree) :
    blank names (place new q (blank names t)) = blank names (place new q t) := by
  induction q generalizing names t with
  | nil => rfl
  | cons n q ih =>
    cases t with
    | file content => cases names <;> rfl
    | dir children =>
      cases names with
      | nil => rfl
      | cons name names =>
        have twice := blank_blank (name :: names) (.dir children)
        simp only [blank, dir.injEq] at twice
        have child : blank names (place new q
            (((Assoc.get? n children).map (blank names)).getD (.dir []))) =
            blank names (place new q ((Assoc.get? n children).getD (.dir []))) := by
          cases Assoc.get? n children with
          | some child => exact ih names child
          | none => rfl
        simp only [blank, place]
        rw [Assoc.put_mapValues (fun k child => if k = name then blank names child else child),
          Assoc.put_mapValues (fun k child => if k = name then blank names child else child),
          Assoc.get?_mapValues (fun k child => if k = name then blank names child else child),
          twice]
        by_cases same : n = name
        · simp only [same, if_true]
          rw [← same]
          exact congrArg (fun v => FileTree.dir (Assoc.put n v _)) child
        · simp only [same, if_false, Option.map_id']

/-- Whatever the content of a file, emptied it is the same. -/
theorem blank_place_self (there : t.get? names = some (.file content)) (content' : ByteArray) :
    blank names (place (.file content') names t) = blank names t := by
  induction names generalizing t with
  | nil =>
    obtain rfl := Option.some.inj there
    rfl
  | cons name names ih =>
    cases t with
    | file content => cases there
    | dir children =>
      obtain ⟨child, hchild, there⟩ := Option.bind_eq_some_iff.1 there
      have found : Assoc.get? name (children.map fun e =>
          (e.1, if e.1 = name then blank names e.2 else e.2)) = some (blank names child) := by
        rw [Assoc.get?_mapValues fun k child => if k = name then blank names child else child,
          hchild]
        simp
      simp only [blank, place]
      rw [Assoc.put_mapValues fun k child => if k = name then blank names child else child, hchild,
        if_pos rfl, Option.getD_some, ih there, Assoc.put_get? found]

/-- Adding to a file that is blank makes no difference. -/
theorem blank_extend (names : List Text) (more : ByteArray) (t : FileTree) :
    blank names (t.extend names more) = blank names t := by
  unfold extend
  split
  · rename_i content there
    exact blank_place_self there _
  · rfl

/-! ## Trees that are alike -/

/-- The tree with a file emptied, if one is given. -/
def butFor : Option (List Text) → FileTree → FileTree
  | none, t => t
  | some names, t => blank names t

/-- Trees that are the same but for the content of a file, if one is given. -/
def SameBut (file : Option (List Text)) (t t' : FileTree) : Prop := butFor file t = butFor file t'

namespace SameBut

variable {file : Option (List Text)} {cwd p : Path}

theorem refl (t : FileTree) : SameBut file t t := rfl

/-- Trees that are the same but for a file have directories at the same places. -/
theorem isDir (h : SameBut file t t') (q : List Text) :
    (t.get? q).map FileTree.isDir = (t'.get? q).map FileTree.isDir := by
  cases file with
  | none => exact congrArg (fun t => (get? q t).map FileTree.isDir) h
  | some names =>
    have emptied : blank names t = blank names t' := h
    rw [← isDir_blank names q t, emptied, isDir_blank]

/-- They stay so when the same is placed in both. -/
theorem place (h : SameBut file t t') (new : FileTree) (q : List Text) :
    SameBut file (FileTree.place new q t) (FileTree.place new q t') := by
  cases file with
  | none => exact congrArg (FileTree.place new q) h
  | some names =>
    have emptied : blank names t = blank names t' := h
    show blank names _ = blank names _
    rw [← blank_place names q t, emptied, blank_place]

/-- What stands at a place of one tree stands there in the other one, but for the content of a
file. -/
theorem kind?_cases (h : SameBut file t t') (q : List Text) :
    t.kind? q = none ∧ t'.kind? q = none ∨ t.kind? q = some none ∧ t'.kind? q = some none ∨
      ∃ c c', t.kind? q = some (some c) ∧ t'.kind? q = some (some c') := by
  have same := h.isDir q
  unfold kind?
  rcases ht : t.get? q with _ | _ | _ <;> rcases ht' : t'.get? q with _ | _ | _ <;>
    simp_all [FileTree.isDir, content?]

/-- And they have the same at every other place. -/
theorem kind?_eq (h : SameBut (some names) t t') (ne : q ≠ names) : t'.kind? q = t.kind? q := by
  have emptied : blank names t = blank names t' := h
  rw [← kind?_blank ne t', ← emptied, kind?_blank ne]

/-- The same ways lead through both. -/
theorem walk (h : SameBut file t t') (here names : List Text) :
    t.walk here names = t'.walk here names := by
  induction names generalizing here with
  | nil => rfl
  | cons name names ih =>
    have same := h.isDir here
    rw [FileTree.walk, FileTree.walk]
    rcases ht : t.get? here with _ | _ | _ <;> rcases ht' : t'.get? here with _ | _ | _ <;>
      simp_all [FileTree.isDir]

/-- So paths lead to the same places in both. -/
theorem locate (h : SameBut file t t') (cwd p : Path) : t.locate cwd p = t'.locate cwd p := by
  unfold FileTree.locate
  simp only [h.walk]

/-! What is done to both trees ends in one way, and leaves them alike. -/

/-- Two changes of trees that end in one way, and leave the trees alike. -/
def Both (file : Option (List Text)) (r r' : FileTree × Except FileError Unit) : Prop :=
  r.2 = r'.2 ∧ SameBut file r.1 r'.1

/-- Making sure of a directory keeps trees the same but for the file. -/
theorem ensureDir (h : SameBut file t t') (cwd p : Path) :
    Both file (t.ensureDir cwd p) (t'.ensureDir cwd p) := by
  cases hl : t'.locate cwd p with
  | error problem =>
    rw [ensureDir_of_error hl, ensureDir_of_error ((h.locate cwd p).trans hl)]
    exact ⟨rfl, h⟩
  | ok place =>
    rw [ensureDir_of_ok hl, ensureDir_of_ok ((h.locate cwd p).trans hl)]
    rcases h.kind?_cases place with ⟨h₁, h₂⟩ | ⟨h₁, h₂⟩ | ⟨c, c', h₁, h₂⟩ <;> rw [h₁, h₂]
    · exact ⟨rfl, h.place _ place⟩
    · exact ⟨rfl, h⟩
    · exact ⟨rfl, h⟩

/-- And so does making all directories above a path. -/
theorem makeDirsWithin (h : SameBut file t t') (cwd : Path) (count : Nat) (p : Path) :
    Both file (FileTree.makeDirsWithin t cwd count p) (FileTree.makeDirsWithin t' cwd count p) := by
  induction count generalizing p with
  | zero => exact ⟨rfl, h⟩
  | succ count ih =>
    obtain ⟨ends, alike⟩ := ih p.parent
    -- The ways part at one point in both trees, since a path leads to one place in both.
    have located := h.locate cwd p
    rcases makeDirsWithin_succ_cases t cwd count p with
      ⟨direct, near⟩ | ⟨ne, missing, ⟨t₁, e, above, made⟩ | ⟨t₁, above, made⟩⟩ <;>
    rcases makeDirsWithin_succ_cases t' cwd count p with
      ⟨direct', near'⟩ | ⟨ne', missing', ⟨t₁', e', above', made'⟩ | ⟨t₁', above', made'⟩⟩
    · rw [direct, direct']
      exact h.ensureDir cwd p
    · exact absurd (located.trans missing') (near.resolve_left ne')
    · exact absurd (located.trans missing') (near.resolve_left ne')
    · exact absurd (located.symm.trans missing) (near'.resolve_left ne)
    · rw [above, above'] at ends alike
      rw [made, made']
      exact ⟨ends, alike⟩
    · rw [above, above'] at ends
      cases ends
    · exact absurd (located.symm.trans missing) (near'.resolve_left ne)
    · rw [above, above'] at ends
      cases ends
    · rw [above, above'] at alike
      rw [made, made']
      exact alike.ensureDir cwd p

/-- Storing bytes is refused in both, or keeps them the same but for the file. -/
theorem store (h : SameBut file t t') (cwd p : Path) (bytes : ByteArray) :
    (∃ e, t.store cwd p bytes = .error e ∧ t'.store cwd p bytes = .error e) ∨
      ∃ t₁ t₁', t.store cwd p bytes = .ok t₁ ∧ t'.store cwd p bytes = .ok t₁' ∧
        SameBut file t₁ t₁' := by
  cases hl : t'.locate cwd p with
  | error problem =>
    exact .inl ⟨_, store_of_error ((h.locate cwd p).trans hl), store_of_error hl⟩
  | ok place =>
    rw [store_of_ok hl, store_of_ok ((h.locate cwd p).trans hl)]
    rcases h.kind?_cases place with ⟨h₁, h₂⟩ | ⟨h₁, h₂⟩ | ⟨c, c', h₁, h₂⟩ <;> rw [h₁, h₂]
    · exact .inr ⟨_, _, rfl, rfl, h.place _ place⟩
    · exact .inl ⟨_, rfl, rfl⟩
    · exact .inr ⟨_, _, rfl, rfl, h.place _ place⟩

/-- Writing a text ends in the same way in both. -/
theorem writeText [Stack] (h : SameBut file t t') (cwd p : Path) (text : Text) :
    Both file (t.writeText cwd p text) (t'.writeText cwd p text) := by
  obtain ⟨ends, alike⟩ := h.makeDirsWithin cwd mostDirs p.parent
  unfold FileTree.writeText makeDirs
  cases hd : FileTree.makeDirsWithin t cwd mostDirs p.parent with
  | mk t₁ outcome =>
    cases hd' : FileTree.makeDirsWithin t' cwd mostDirs p.parent with
    | mk t₁' outcome' =>
      rw [hd, hd'] at ends alike
      obtain rfl : outcome = outcome' := ends
      cases outcome with
      | error e => exact ⟨rfl, alike⟩
      | ok _ =>
        dsimp only
        rcases alike.store cwd p ((Text.encode text).toOption.getD ByteArray.empty) with
          ⟨e, h₁, h₂⟩ | ⟨t₂, t₂', h₁, h₂, stored⟩
        · rw [h₁, h₂]
          exact ⟨rfl, alike⟩
        · rw [h₁, h₂]
          exact ⟨rfl, stored⟩

/-- Adding to the file that counts for nothing. -/
theorem extend (h : SameBut file t t') (names : List Text) (apart : file = some names)
    (more : ByteArray) : SameBut file t (t'.extend names more) := by
  subst apart
  exact Eq.trans h (blank_extend names more t').symm

end SameBut

end FileTree

end Bindery
