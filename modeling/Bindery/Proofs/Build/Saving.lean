import Bindery.Proofs.Build.Layout
import Bindery.Proofs.Build.Stopping
import Bindery.Proofs.FileTree.Making

/-!
# Saving outputs in whatever order

A build plans a list of outputs. Whatever part of the plan was saved, in whatever order, the world
is one that the plan leads to (`World.Within`): directories were made on the ways of planned outputs
only, and files at their places only. So the way of an output is open in any such world if it was
open at first (`Within.ready`), saving it goes well unless too many directories are missing
(`save_error`), and what was saved stays (`Within.saved`). Two worlds that a plan leads to, in which
all of it is saved, hold the same (`kind?_eq_of_saved`).
-/

namespace Bindery

open FileTree

namespace World

/-- A world and a later one, when outputs of a plan were saved: directories were made on their ways,
files at their places if these are on no way of their own, and content changed only at the places
touched, and in the file of the log. -/
structure Within (host : Host) (writer : Writer) (plan : List Output) (touched : List (List Text))
    (w w' : World) : Prop where
  spread : Spreads
    (fun q => ∃ o ∈ plan, Path.Passes host.cwd (writer.pathOf o).parent q)
    (fun q => ∃ o ∈ plan, q = writer.placeOf host o ∧
      ¬Path.Passes host.cwd (writer.pathOf o).parent q)
    w.tree w'.tree
  keeps : Keeps touched w w'
  starts : Starts w'.tree host.cwd writer.outDir → Starts w.tree host.cwd writer.outDir

variable {host : Host} {writer : Writer} {plan : List Output} {touched touched' : List (List Text)}
variable {w w' w'' : World}

theorem Keeps.mono (h : Keeps touched w w') (sub : touched ⊆ touched') : Keeps touched' w w' := by
  refine ⟨h.tree.mono (List.append_subset.2 ⟨?_, List.subset_append_right _ _⟩), h.file⟩
  exact List.subset_append_of_subset_left _ sub

namespace Within

theorem refl : Within host writer plan touched w w := ⟨.refl, ⟨.refl, rfl⟩, id⟩

theorem trans (h : Within host writer plan touched w w')
    (h' : Within host writer plan touched' w' w'') :
    Within host writer plan (touched ++ touched') w w'' :=
  ⟨h.spread.trans h'.spread, h.keeps.trans h'.keeps, fun begun => h.starts (h'.starts begun)⟩

theorem mono (h : Within host writer plan touched w w') (sub : touched ⊆ touched') :
    Within host writer plan touched' w w' :=
  ⟨h.spread, h.keeps.mono sub, h.starts⟩

/-- Any number of steps touch what each of them may touch. -/
theorem step (h : Within host writer plan touched w w')
    (h' : Within host writer plan touched' w' w'') (sub : touched' ⊆ touched) :
    Within host writer plan touched w w'' :=
  (h.trans h').mono (List.append_subset.2 ⟨List.Subset.refl _, sub⟩)

end Within

/-! ## Records -/

/-- Where more is added to a file, directories and files stay what they are. -/
theorem spreads_extend {ways spots : List Text → Prop} {t : FileTree} {names : List Text}
    {more : ByteArray} : Spreads ways spots t (t.extend names more) := by
  unfold extend
  split
  · rename_i content h
    have there : t.kind? names = some (some content) := kind?_eq_file.2 h
    -- The file is there already, so it is news at no spot.
    have put : Spreads ways (fun q => q = names) t
        (FileTree.place (.file (content ++ more)) names t) :=
      spreads_place_file (top_or_above there) (by simp [there]) rfl
    refine ⟨put.dirs, put.files, fun q hq => ?_⟩
    rcases put.news q hq with none | dir | ⟨-, rfl⟩
    · exact .inl none
    · exact .inr (.inl dir)
    · simp [there] at hq
  · exact .refl

/-- A record leads to a world within every plan, and touches nothing. -/
theorem within_record (host : Host) (writer : Writer) (plan : List Output) (r : Record)
    (w : World) : Within host writer plan [] w (w.record host r) := by
  have spread : ∀ ways spots : List Text → Prop,
      Spreads ways spots w.tree (w.record host r).tree := by
    intro ways spots
    unfold World.record
    dsimp only
    split
    · split
      · exact spreads_extend
      · exact .refl
    · exact .refl
  refine ⟨spread _ _, w.record_keeps host r, fun begun => begun.of_dirs ?_⟩
  intro q dir
  exact ((spread (fun _ => False) (fun _ => False)).dir_cases dir).resolve_right fun h => h.2

/-- So do records and calls of the formatter. -/
theorem Noted.within {host : Host} {w w' : World} (h : Noted host w w') (writer : Writer)
    (plan : List Output) : Within host writer plan [] w w' := by
  induction h with
  | refl w => exact .refl
  | record r _ ih => exact (within_record host writer plan r _).trans ih
  | @call w _ calls _ ih =>
    have called : Within host writer plan [] w { w with calls } := ⟨.refl, ⟨.refl, rfl⟩, id⟩
    exact called.trans ih

end World

namespace Writer

variable {host : Host} {writer : Writer} {plan : List Output} {w w' : World} {o : Output}

/-- The formatter answers every call alike, whatever calls were made before. -/
def Steady (host : Host) (writer : Writer) : Prop :=
  writer.formats = true → ∀ before call, host.respond before call = host.respond [] call

/-- What a steady formatter makes of a file, unless the call breaks. -/
def formatOf (host : Host) (writer : Writer) (path : Path) : Except Fault FormatResult :=
  writer.formatAfter host [] path

/-- What is reported on an output that was written. -/
def writtenOf (host : Host) (writer : Writer) (o : Output) : Written where
  path := writer.pathOf o
  format := if writer.formats && o.isSource then
      (formatOf host writer (writer.pathOf o)).toOption
    else none

/-- If an output is to be formatted, the call for it does not break. -/
def Formattable (host : Host) (writer : Writer) (o : Output) : Prop :=
  (writer.formats && o.isSource) = true → ∃ r, formatOf host writer (writer.pathOf o) = .ok r

/-- With a steady formatter the result for a path does not depend on the calls before. -/
theorem formatAfter_eq (steady : Steady host writer) (formats : writer.formats = true)
    (before : List Formatter.Call) (path : Path) :
    writer.formatAfter host before path = formatOf host writer path := by
  unfold formatOf formatAfter
  rw [steady formats before]

/-- Having a file formatted changes no file, and a steady formatter makes of it what it always
makes. -/
theorem format_eq (steady : Steady host writer) (formats : writer.formats = true)
    (plan : List Output) (path : Path) (w : World) :
    ∃ w', writer.format host path w =
        ((formatOf host writer path).mapError Failure.fault, w') ∧
      World.Within host writer plan [] w w' := by
  obtain ⟨w', formatted, noted, -⟩ := format_noted host writer path w
  rw [formatAfter_eq steady formats] at formatted
  exact ⟨w', formatted, noted.within writer plan⟩

/-! ## Saving an output -/

/-- An output that can be saved: its text has an encoding, and its way is open. -/
structure Ready (host : Host) (writer : Writer) (w : World) (o : Output) : Prop where
  encodes : ∃ bytes, Text.encode o.text = .ok bytes
  opened : Open w.tree host.cwd (writer.pathOf o)

/-- Not too many directories are missing to save an output. -/
def Near [Stack] (host : Host) (writer : Writer) (w : World) (o : Output) : Prop :=
  w.tree.Near host.cwd (writer.pathOf o).parent mostDirs

/-- An output that was saved: there are directories on its way, and its file holds its text, unless
it is that of the log. -/
structure Saved (host : Host) (writer : Writer) (w : World) (o : Output) : Prop where
  dirs : ∀ q, Path.Passes host.cwd (writer.pathOf o).parent q → w.tree.kind? q = some none
  holds : w.log.file ≠ some (writer.placeOf host o) → ∃ bytes, Text.encode o.text = .ok bytes ∧
    w.tree.kind? (writer.placeOf host o) = some (some bytes)

/-- The way to an output can be begun when the one to the output directory can. -/
theorem starts_pathOf_iff (laid : o.Laid) {t : FileTree} :
    Starts t host.cwd (writer.pathOf o) ↔ Starts t host.cwd writer.outDir := by
  unfold Starts pathOf
  rw [laid.start_append]

/-- Saving an output of a plan leads to a world within the plan, however it ends. -/
theorem within_save [Stack] (planned : o ∈ plan) (laid : o.Laid) :
    World.Within host writer plan [writer.placeOf host o] w (writer.save host o w).2 := by
  have written : ∀ t outcome,
      w.tree.writeText host.cwd (writer.pathOf o) o.text = (t, outcome) →
      World.Within host writer plan [writer.placeOf host o] w { w with tree := t } := by
    intro t outcome h
    obtain rfl : (w.tree.writeText host.cwd (writer.pathOf o) o.text).1 = t := congrArg Prod.fst h
    refine ⟨?_, ⟨?_, rfl⟩, ?_⟩
    · exact (spreads_writeText o.text).mono (fun q way => ⟨o, planned, way⟩)
        fun q spot => ⟨o, planned, spot⟩
    · exact (grows_writeText o.text).mono (List.subset_append_left _ _)
    · rw [← starts_pathOf_iff laid, ← starts_pathOf_iff laid]
      exact starts_of_writeText
  rcases save_cases host writer o w with ⟨e, t, hw, h⟩ | ⟨t, r, hw, h⟩
  · rw [h]
    exact written t _ hw
  · rw [h]
    exact (written t _ hw).trans (World.within_record host writer plan r _)

/-- What was saved could be saved, and now it is. -/
theorem save_ok [Stack] (h : writer.save host o w = (.ok (), w')) :
    Ready host writer w o ∧ Saved host writer w' o := by
  rcases save_cases host writer o w with ⟨e, t, hw, h'⟩ | ⟨t, r, hw, h'⟩
  · rw [h'] at h
    cases congrArg Prod.fst h
  · rw [h'] at h
    obtain rfl : ({ w with tree := t } : World).record host r = w' := congrArg Prod.snd h
    obtain ⟨bytes, encodes, holds, -⟩ := writeText_ok hw
    obtain ⟨opened, dirs⟩ := open_of_writeText hw
    have recorded := World.record_keeps host r ({ w with tree := t } : World)
    refine ⟨⟨⟨bytes, encodes⟩, opened⟩, ?_, ?_⟩
    · intro q way
      exact recorded.tree.dirs q (dirs q way)
    · intro apart
      refine ⟨bytes, encodes, (recorded.tree.file_iff ?_).2 holds.2⟩
      rw [recorded.file] at apart
      simpa using apart

/-- Saving what can be saved fails only if too many directories are missing. -/
theorem save_error [Stack] {e : Failure} (h : writer.save host o w = (.error e, w')) :
    ∃ reason, e = failure (writer.pathOf o) reason ∧
      (Ready host writer w o → (∃ path, reason = ⟨.tooDeep, path⟩) ∧ ¬Near host writer w o) := by
  rcases save_cases host writer o w with ⟨reason, t, hw, h'⟩ | ⟨t, r, hw, h'⟩
  · rw [h'] at h
    refine ⟨reason, (Except.error.inj (congrArg Prod.fst h)).symm, ?_⟩
    rintro ⟨⟨bytes, encodes⟩, opened⟩
    rcases writeText_open opened encodes with written | lacks
    · rw [hw] at written
      cases written
    · obtain ⟨path, deep⟩ := writeText_of_lacks lacks o.text
      rw [hw] at deep
      exact ⟨⟨path, Except.error.inj (congrArg Prod.snd deep)⟩, fun near => near.not_lacks lacks⟩
  · rw [h'] at h
    cases congrArg Prod.fst h

/-- What lacks too many directories is not saved, and nothing changes. -/
theorem save_of_lacks [Stack] (h : w.tree.Lacks host.cwd (writer.pathOf o).parent mostDirs) :
    ∃ path, writer.save host o w = (.error (.file ⟨.tooDeep, path⟩), w) := by
  obtain ⟨path, deep⟩ := writeText_of_lacks h o.text
  refine ⟨path, ?_⟩
  rcases save_cases host writer o w with ⟨reason, t, hw, h'⟩ | ⟨t, r, hw, -⟩
  · rw [deep] at hw
    obtain ⟨rfl, same⟩ := Prod.mk.inj hw
    obtain rfl := Except.error.inj same
    exact h'
  · rw [deep] at hw
    cases congrArg Prod.snd hw

end Writer

/-! ## Worlds within a plan -/

namespace World.Within

open Writer

variable {host : Host} {writer : Writer} {plan : List Output} {touched : List (List Text)}
variable {w w' : World} {o : Output}

/-- What can be saved can still be saved after other outputs of the plan were. -/
theorem ready (h : Within host writer plan touched w w') (laid : ∀ o ∈ plan, o.Laid)
    (planned : o ∈ plan) (ready : Ready host writer w o) : Ready host writer w' o := by
  refine ⟨ready.encodes, ready.opened.spreads h.spread ?_ ?_⟩
  · rintro ⟨o', planned', way⟩
    refine ready.opened.aside ((laid o planned).passes_parent ?_)
    exact (laid o' planned').crossing (laid o planned) way
  · rintro q way ⟨o', planned', rfl, aside⟩
    refine aside ((laid o' planned').passes_parent ?_)
    exact (laid o planned).crossing (laid o' planned') way

/-- What can be saved could be saved before. -/
theorem ready_back (h : Within host writer plan touched w w') (laid : o.Laid)
    (ready : Ready host writer w' o) : Ready host writer w o := by
  refine ⟨ready.encodes, ready.opened.back h.spread ?_⟩
  rw [starts_pathOf_iff laid]
  exact h.starts ((starts_pathOf_iff laid).1 ready.opened.starts)

/-- What was saved stays when other places are touched. -/
theorem saved (h : Within host writer plan touched w w') (saved : Saved host writer w o)
    (fresh : writer.placeOf host o ∉ touched) : Saved host writer w' o := by
  refine ⟨fun q way => h.spread.dirs q (saved.dirs q way), ?_⟩
  intro apart
  rw [h.keeps.file] at apart
  obtain ⟨bytes, encodes, holds⟩ := saved.holds apart
  refine ⟨bytes, encodes, (h.keeps.tree.file_iff ?_).2 holds⟩
  rw [List.mem_append, not_or]
  exact ⟨fresh, by simpa using apart⟩

/-- What is at no place and on no way of a plan stays as it is. -/
theorem kind?_eq (h : Within host writer plan touched w w') {place : List Text}
    (fresh : place ∉ touched) (apart : w.log.file ≠ some place)
    (aside : ∀ o ∈ plan, ¬Path.Passes host.cwd (writer.pathOf o).parent place) :
    w'.tree.kind? place = w.tree.kind? place := by
  have untouched : place ∉ touched ++ w.log.file.toList := by
    rw [List.mem_append, not_or]
    exact ⟨fresh, by simpa using apart⟩
  rcases h.keeps.tree.rest place untouched with same | ⟨nothing, dir⟩
  · exact same
  · rcases h.spread.dir_cases dir with there | ⟨-, o, planned, way⟩
    · rw [there] at nothing
      cases nothing
    · exact absurd way (aside o planned)

/-- Where a plan was saved there are directories on the ways, the texts in their files, and what was
there before at all other places; nothing is said about the file of the log. -/
theorem kind?_eq_of_saved {plan' : List Output} {w₁ w₂ : World}
    (h : Within host writer plan (plan.map (writer.placeOf host)) w w₁)
    (h' : Within host writer plan' (plan'.map (writer.placeOf host)) w w₂)
    (same : ∀ o, o ∈ plan ↔ o ∈ plan') (saved₁ : ∀ o ∈ plan, Saved host writer w₁ o)
    (saved₂ : ∀ o ∈ plan', Saved host writer w₂ o) (place : List Text)
    (apart : w.log.file ≠ some place) : w₁.tree.kind? place = w₂.tree.kind? place := by
  by_cases spot : ∃ o ∈ plan, writer.placeOf host o = place
  · obtain ⟨o, planned, rfl⟩ := spot
    rw [← h.keeps.file] at apart
    obtain ⟨bytes, encodes, holds⟩ := (saved₁ o planned).holds apart
    rw [h.keeps.file, ← h'.keeps.file] at apart
    obtain ⟨bytes', encodes', holds'⟩ := (saved₂ o ((same o).1 planned)).holds apart
    obtain rfl : bytes = bytes' := Except.ok.inj (encodes.symm.trans encodes')
    rw [holds, holds']
  by_cases way : ∃ o ∈ plan, Path.Passes host.cwd (writer.pathOf o).parent place
  · obtain ⟨o, planned, way⟩ := way
    rw [(saved₁ o planned).dirs place way, (saved₂ o ((same o).1 planned)).dirs place way]
  have fresh : place ∉ plan.map (writer.placeOf host) := by
    intro hp
    obtain ⟨o, planned, rfl⟩ := List.mem_map.1 hp
    exact spot ⟨o, planned, rfl⟩
  have fresh' : place ∉ plan'.map (writer.placeOf host) := by
    intro hp
    obtain ⟨o, planned, rfl⟩ := List.mem_map.1 hp
    exact spot ⟨o, (same o).2 planned, rfl⟩
  rw [h.kind?_eq fresh apart fun o planned through => way ⟨o, planned, through⟩,
    h'.kind?_eq fresh' apart fun o planned through => way ⟨o, (same o).2 planned, through⟩]

end World.Within

end Bindery
