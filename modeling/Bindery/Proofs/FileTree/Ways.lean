import Mathlib.Data.List.TakeWhile
import Bindery.Proofs.FileTree.Writing
import Bindery.Proofs.Text.NameBytes

/-!
# The ways that paths take through a file tree

A path leads through places (`Path.Passes`), those of its parent and its own. It can be walked when
its names are short and every place on the way is a directory (`walk_ok_iff_dirs`), and where no
file is on the way the only thing that can be wrong is that something is not there yet
(`walk_clear`).
-/

namespace Bindery

open Outcome

/-! ## The places on a way -/

namespace Path

variable {cwd p : Path} {front : List Text} {q : List Text}

/-- The names that are walked to a path, from the top. -/
def steps (cwd p : Path) : List Text := (cwd ++ p).names.map Text.canonicalName

/-- A path leads through a place, or to it. -/
def Passes (cwd p : Path) (q : List Text) : Prop :=
  ∃ front, front <+: steps cwd p ∧ follow [] front = q

/-- Where a path starts: the path without its names. -/
def start (p : Path) : Path := { p with names := [] }

/-- Names that follow others start where those lead. -/
theorem follow_append (here front names : List Text) :
    follow here (front ++ names) = follow (follow here front) names :=
  List.foldl_append

theorem passes_place : Passes cwd p (place cwd p) := ⟨_, List.prefix_rfl, rfl⟩

/-- The steps to a path are those to its start and its names, as they are spelled. -/
theorem steps_eq_start_append (cwd p : Path) :
    steps cwd p = steps cwd (start p) ++ p.names.map Text.canonicalName := by
  obtain ⟨origin, names⟩ := p
  show (join cwd _).names.map _ = (join cwd _).names.map _ ++ _
  cases origin <;> simp [join, start]

theorem parent_eq_self (top : p.names = []) : p.parent = p := by
  obtain ⟨origin, names⟩ := p
  obtain rfl : names = [] := top
  rfl

theorem length_names_parent (p : Path) : p.parent.names.length = p.names.length - 1 :=
  List.length_dropLast

/-- The path some steps up. -/
def up (p : Path) : Nat → Path
  | 0 => p
  | count + 1 => p.parent.up count

/-- Going up takes names off the end. -/
theorem up_eq (p : Path) (count : Nat) :
    p.up count = { p with names := p.names.take (p.names.length - count) } := by
  induction count generalizing p with
  | zero => rw [Nat.sub_zero, List.take_length]; rfl
  | succ count ih =>
    have names : (p.names.dropLast).take (p.names.dropLast.length - count) =
        p.names.take (p.names.length - (count + 1)) := by
      rw [List.dropLast_eq_take, List.take_take, List.length_take]
      congr 1
      omega
    show p.parent.up count = _
    rw [ih]
    exact congrArg (fun names => { p with names }) names

/-- The last step to a path is its last name. -/
theorem exists_steps_concat (cwd : Path) (ne : p.names ≠ []) :
    ∃ name, steps cwd p = steps cwd p.parent ++ [Text.canonicalName name] := by
  refine ⟨p.names.getLast ne, ?_⟩
  rw [steps_eq_start_append, steps_eq_start_append cwd p.parent, List.append_assoc]
  congr 1
  rw [← List.map_singleton, ← List.map_append]
  exact congrArg _ (List.dropLast_concat_getLast ne).symm

/-- What the way to a parent passes, the way to the child passes. -/
theorem Passes.of_parent (h : Passes cwd p.parent q) : Passes cwd p q := by
  by_cases top : p.names = []
  · rwa [parent_eq_self top] at h
  · obtain ⟨front, hfront, hq⟩ := h
    obtain ⟨name, hsteps⟩ := exists_steps_concat cwd top
    exact ⟨front, hsteps ▸ hfront.trans (List.prefix_append _ _), hq⟩

/-- A path leads through the places that its parent leads through, and then to its own. -/
theorem passes_of_front (ne : p.names ≠ []) (hfront : front <+: steps cwd p) :
    front = steps cwd p ∨ Passes cwd p.parent (follow [] front) := by
  obtain ⟨name, hsteps⟩ := exists_steps_concat cwd ne
  rw [hsteps] at hfront ⊢
  exact (List.prefix_concat_iff.1 hfront).imp id fun h => ⟨front, h, rfl⟩

end Path

/-! ## What the file system takes -/

namespace Text

variable {s t : Text}

theorem drop_length_takeWhile (p : CodePoint → Bool) (s : Text) :
    s.drop (s.takeWhile p).length = s.dropWhile p := by
  have parts := List.takeWhile_append_dropWhile (p := p) (l := s)
  calc
    s.drop (s.takeWhile p).length
      = (s.takeWhile p ++ s.dropWhile p).drop (s.takeWhile p).length := by rw [parts]
    _ = s.dropWhile p := List.drop_left

/-- A text has no bad surrogates when none of its characters is one. -/
theorem surrogatesWhere_eq_none_iff {bad : CodePoint → Bool} :
    surrogatesWhere bad s = none ↔ ∀ c ∈ s, (c.isSurrogate && bad c) = false := by
  have clean : (s.dropWhile fun c => !(c.isSurrogate && bad c)) = [] ↔
      ∀ c ∈ s, (c.isSurrogate && bad c) = false := by
    rw [List.dropWhile_eq_nil_iff]
    simp only [Bool.not_eq_true']
  unfold surrogatesWhere
  dsimp only
  rw [drop_length_takeWhile, ← clean]
  cases s.dropWhile fun c => !(c.isSurrogate && bad c) with
  | nil => simp
  | cons c rest => simp

/-- A name can be given to the file system when each of its surrogates stands for a byte. -/
theorem checkName_ok_iff :
    checkName s = .ok () ↔ ∀ c ∈ s, (c.isSurrogate && (rawByte? c).isNone) = false := by
  rw [← surrogatesWhere_eq_none_iff, checkName]
  split <;> simp_all

/-- The size of a name is the number of its bytes. -/
theorem nameSize_eq (s : Text) : nameSize s = (bytesOf s).length := by
  have counted : ∀ n : Nat, s.foldl (fun n c => n + (nameBytes c).length) n =
      n + (s.flatMap nameBytes).length := by
    induction s with
    | nil => simp
    | cons c rest ih =>
      intro n
      rw [List.foldl_cons, ih, List.flatMap_cons, List.length_append]
      omega
  rw [nameSize, counted, Nat.zero_add, bytesOf]

end Text

namespace FileTree

variable {t t' : FileTree} {cwd p : Path} {here names place q : List Text} {count : Nat}

/-- A text is a path when its surrogates stand for bytes, no NUL is in it, and it is not too
long. -/
theorem checkText_ok_iff {text : Text} :
    checkText text = .ok () ↔ Text.checkName text = .ok () ∧ .char '\x00' ∉ text ∧
      Text.nameSize text ≤ longestPath := by
  unfold checkText
  cases Text.checkName text with
  | error reason => simp
  | ok u =>
    by_cases nul : CodePoint.char '\x00' ∈ text
    · simp [nul]
    · by_cases long : longestPath < Text.nameSize text
      · have : ¬Text.nameSize text ≤ longestPath := by omega
        simp [nul, long, this]
      · have : Text.nameSize text ≤ longestPath := by omega
        simp [nul, long, this]

/-- With a text, the file system takes what the text begins with. -/
theorem checkText_of_begins {text front : Text} (h : checkText text = .ok ())
    (begins : front <+: text) : checkText front = .ok () := by
  obtain ⟨rest, rfl⟩ := begins
  obtain ⟨name, nul, long⟩ := checkText_ok_iff.1 h
  refine checkText_ok_iff.2 ⟨?_, ?_, ?_⟩
  · rw [Text.checkName_ok_iff] at name ⊢
    exact fun c hc => name c (List.mem_append_left _ hc)
  · exact fun hc => nul (List.mem_append_left _ hc)
  · rw [Text.nameSize_eq, Text.bytesOf_append, List.length_append] at long
    rw [Text.nameSize_eq]
    omega

/-- Names that are not too long. A double dot is never looked up. -/
def Short (names : List Text) : Prop :=
  ∀ name ∈ names, name = ".." ∨ Text.nameSize name ≤ longestName

/-- A path that the file system takes: its text, and each of its names. -/
structure Fits (p : Path) : Prop where
  text : checkText p.text = .ok ()
  short : Short (p.names.map Text.canonicalName)

/-- Parts without the last one begin what all parts make. -/
theorem prefix_joined_dropLast (sep : Text) (parts : List Text) :
    Text.joined sep parts.dropLast <+: Text.joined sep parts := by
  unfold Text.joined
  induction parts with
  | nil => exact List.prefix_rfl
  | cons first rest ih =>
    cases rest with
    | nil => exact List.nil_prefix
    | cons second rest =>
      rw [List.dropLast_cons_of_ne_nil (List.cons_ne_nil _ _), List.intercalate_cons_cons]
      by_cases one : (second :: rest).dropLast = []
      · rw [one, List.intercalate_singleton, List.append_assoc]
        exact List.prefix_append _ _
      · rw [List.intercalate_cons_of_ne_nil one]
        exact (List.prefix_append_right_inj _).2 ih

/-- The text of a path begins with that of its parent, unless this is the path without names. -/
theorem text_parent (p : Path) : p.parent.text = "." ∨ p.parent.text <+: p.text := by
  by_cases bare : (p.root = .here && p.names.dropLast.isEmpty) = true
  · exact .inl (if_pos bare)
  · have named : ¬(p.root = .here && p.names.isEmpty) = true := by
      intro h
      refine bare ?_
      simp only [Bool.and_eq_true, decide_eq_true_eq, List.isEmpty_iff] at h ⊢
      exact ⟨h.1, by rw [h.2, List.dropLast_nil]⟩
    have text : p.text = Path.rootText p.root ++ Text.joined "/" p.names := if_neg named
    have front : p.parent.text = Path.rootText p.root ++ Text.joined "/" p.names.dropLast :=
      if_neg bare
    right
    rw [text, front]
    exact (List.prefix_append_right_inj _).2 (prefix_joined_dropLast _ _)

/-- The text above a path that can be named can be named. -/
theorem checkText_parent (h : checkText p.text = .ok ()) : checkText p.parent.text = .ok () := by
  rcases text_parent p with dot | begins
  · rw [dot]
    decide +kernel
  · exact checkText_of_begins h begins

/-- Above a path that fits all paths fit. -/
theorem Fits.parent (h : Fits p) : Fits p.parent where
  text := checkText_parent h.text
  short name hname := by
    refine h.short name ?_
    obtain ⟨name', hname', rfl⟩ := List.mem_map.1 hname
    exact List.mem_map_of_mem ((List.dropLast_sublist _).subset hname')

/-! ## Walking a way -/

/-- A first step can be made from a directory, up or to a name that is not too long. -/
theorem walk_cons_ok_iff_follow {name : Text} :
    t.walk here (name :: names) = .ok place ↔ t.kind? here = some none ∧
      (name = ".." ∨ Text.nameSize name ≤ longestName) ∧
      t.walk (Path.follow here [name]) names = .ok place := by
  rw [walk_cons_ok_iff]
  by_cases up : name = ".."
  · subst up
    have next : Path.follow here [".."] = here.dropLast := by simp [Path.follow]
    simp [next]
  · have next : Path.follow here [name] = here ++ [name] := if_neg up
    simp [next, up]

/-- A walk ends well when the names are short and all places on the way are directories. -/
theorem walk_ok_iff_dirs :
    t.walk here names = .ok place ↔ Path.follow here names = place ∧ Short names ∧
      ∀ front, front <+: names → front ≠ names → t.kind? (Path.follow here front) = some none := by
  induction names generalizing here with
  | nil =>
    constructor
    · intro h
      refine ⟨Except.ok.inj h, fun _ hname => absurd hname List.not_mem_nil, ?_⟩
      intro front hfront proper
      exact absurd (List.prefix_nil.1 hfront) proper
    · rintro ⟨rfl, -, -⟩
      rfl
  | cons name names ih =>
    rw [walk_cons_ok_iff_follow, ih]
    constructor
    · rintro ⟨hdir, short, rfl, shorts, dirs⟩
      refine ⟨rfl, List.forall_mem_cons.2 ⟨short, shorts⟩, ?_⟩
      intro front hfront proper
      rcases List.prefix_cons_iff.1 hfront with rfl | ⟨rest, rfl, hrest⟩
      · exact hdir
      · exact dirs rest hrest fun same => proper (same ▸ rfl)
    · rintro ⟨rfl, short, dirs⟩
      obtain ⟨short, shorts⟩ := List.forall_mem_cons.1 short
      refine ⟨dirs [] List.nil_prefix (List.cons_ne_nil _ _).symm, short, rfl, shorts, ?_⟩
      intro front hfront proper
      refine dirs (name :: front) ((List.prefix_cons_inj name).2 hfront) ?_
      exact fun same => proper (List.cons.inj same).2

/-- Where no file is on the way, a walk ends well, or something is not there yet. -/
theorem walk_clear (short : Short names)
    (clear : ∀ front, front <+: names → front ≠ names →
      ∀ content, t.kind? (Path.follow here front) ≠ some (some content)) :
    t.walk here names = .ok (Path.follow here names) ∨ t.walk here names = .error .notFound := by
  induction names generalizing here with
  | nil => exact .inl rfl
  | cons name names ih =>
    obtain ⟨hname, short⟩ := List.forall_mem_cons.1 short
    have next := @ih (Path.follow here [name]) short fun front hfront proper =>
      clear (name :: front) ((List.prefix_cons_inj name).2 hfront)
        fun same => proper (List.cons.inj same).2
    have noFile := clear [] List.nil_prefix (List.cons_ne_nil _ _).symm
    cases hk : t.get? here with
    | none =>
      right
      rw [walk, hk]
    | some node =>
      cases node with
      | file content => exact absurd (kind?_eq_file.2 hk) (noFile content)
      | dir children =>
        have step : t.walk here (name :: names) = t.walk (Path.follow here [name]) names := by
          rw [walk, hk]
          by_cases up : name = ".."
          · simp [up, Path.follow]
          · have : ¬longestName < Text.nameSize name := by
              have := hname.resolve_left up
              omega
            simp [up, this, Path.follow]
        rw [step]
        exact next

/-- A path leads to a place when its text can be named and its steps lead there. -/
theorem locate_ok_iff :
    t.locate cwd p = .ok place ↔
      checkText p.text = .ok () ∧ t.walk [] (Path.steps cwd p) = .ok place := by
  unfold locate
  rw [bind_ok_iff]
  exact ⟨fun ⟨_, text, h⟩ => ⟨text, h⟩, fun ⟨text, h⟩ => ⟨_, text, h⟩⟩

/-- With no directory lost, a path leads where it led. -/
theorem locate_of_dirs (dirs : ∀ q, t.kind? q = some none → t'.kind? q = some none)
    (h : t.locate cwd p = .ok place) : t'.locate cwd p = .ok place := by
  obtain ⟨text, walked⟩ := locate_ok_iff.1 h
  exact locate_ok_iff.2 ⟨text, walk_of_dirs dirs walked⟩

/-- On the way to a directory there are directories. -/
theorem dirs_of_locate (h : t.locate cwd p = .ok place) (dir : t.kind? place = some none) :
    ∀ q, Path.Passes cwd p q → t.kind? q = some none := by
  rintro q ⟨front, hfront, rfl⟩
  obtain ⟨rfl, -, dirs⟩ := walk_ok_iff_dirs.1 (locate_ok_iff.1 h).2
  by_cases whole : front = Path.steps cwd p
  · rw [whole]
    exact dir
  · exact dirs front hfront whole

/-- A path that leads to a place fits. -/
theorem fits_of_locate (h : t.locate cwd p = .ok place) : Fits p := by
  obtain ⟨text, walked⟩ := locate_ok_iff.1 h
  obtain ⟨-, short, -⟩ := walk_ok_iff_dirs.1 walked
  refine ⟨text, fun name hname => short name ?_⟩
  rw [Path.steps_eq_start_append]
  exact List.mem_append_right _ hname

/-- The way of a path can be begun: where it starts there is a directory, or could be one. -/
def Starts (t : FileTree) (cwd p : Path) : Prop :=
  t.walk [] (Path.steps cwd p.start) = .ok (Path.place cwd p.start)

/-- And it can be started. -/
theorem starts_of_locate (h : t.locate cwd p = .ok place) : Starts t cwd p := by
  obtain ⟨-, walked⟩ := locate_ok_iff.1 h
  obtain ⟨-, short, dirs⟩ := walk_ok_iff_dirs.1 walked
  have begins : Path.steps cwd p.start <+: Path.steps cwd p := by
    rw [Path.steps_eq_start_append cwd p]
    exact List.prefix_append _ _
  refine walk_ok_iff_dirs.2 ⟨rfl, fun name hname => short name (begins.subset hname), ?_⟩
  intro front hfront proper
  refine dirs front (hfront.trans begins) ?_
  rintro rfl
  exact proper (hfront.eq_of_length_le begins.length_le)

namespace Starts

/-- A path can be started while directories stay. -/
theorem of_dirs (h : Starts t cwd p)
    (dirs : ∀ q, t.kind? q = some none → t'.kind? q = some none) : Starts t' cwd p :=
  walk_of_dirs dirs h

/-- The names on a way that can be started and fits are short. -/
theorem short (h : Starts t cwd p) (fits : Fits p) : Short (Path.steps cwd p) := by
  obtain ⟨-, begun, -⟩ := walk_ok_iff_dirs.1 h
  rw [Path.steps_eq_start_append]
  intro name hname
  rcases List.mem_append.1 hname with hname | hname
  · exact begun name hname
  · exact fits.short name hname

/-- A path without names leads to its start. -/
theorem locate_of_top (h : Starts t cwd p) (fits : Fits p) (top : p.names = []) :
    t.locate cwd p = .ok (Path.place cwd p) := by
  have same : p.start = p := by
    obtain ⟨origin, names⟩ := p
    obtain rfl : names = [] := top
    rfl
  unfold Starts at h
  rw [same] at h
  exact locate_ok_iff.2 ⟨fits.text, h⟩

/-- A path leads to its place when there are directories on the way of its parent. -/
theorem locate_of_parent (h : Starts t cwd p) (fits : Fits p) (ne : p.names ≠ [])
    (dirs : ∀ q, Path.Passes cwd p.parent q → t.kind? q = some none) :
    t.locate cwd p = .ok (Path.place cwd p) := by
  refine locate_ok_iff.2 ⟨fits.text, walk_ok_iff_dirs.2 ⟨rfl, h.short fits, ?_⟩⟩
  intro front hfront proper
  exact dirs _ ((Path.passes_of_front ne hfront).resolve_left proper)

end Starts

end FileTree

end Bindery
