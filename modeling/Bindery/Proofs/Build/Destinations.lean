import Mathlib.Data.List.Nodup
import Bindery.Proofs.FileTree.Writing
import Bindery.Proofs.Text.NameBytes
import Bindery.Proofs.Text.Pieces
import Bindery.Linking
import Bindery.Writer

/-!
# Where outputs go

Whatever directories lead to an output, its place ends in a file name made of the component and
of what the output is (`Output.Proper.getLast?_place`), and no two outputs of components with
different names have the same one. So every output of a build has a place of its own
(`nodup_places`).
-/

namespace Bindery

/-! ## The last name of a path -/

namespace Path

/-- The last name of a joined path is that of its second part, if that has one. -/
theorem getLast?_append {p q : Path} {name : Text} (h : q.names.getLast? = some name) :
    (p ++ q).names.getLast? = some name := by
  show (join p q).names.getLast? = some name
  unfold join
  split
  · rw [List.getLast?_append, h]
    rfl
  · exact h

/-- A text of several code points without a slash is the name that it writes. -/
theorem names_ofText {s : Text} (plain : .char '/' ∉ s) (long : 2 ≤ s.length) :
    (ofText s).names = [s] := by
  have h1 : s ≠ "" := by
    rintro rfl
    simp [Text.ofString, Text.ofChars] at long
  have h2 : s ≠ "." := by
    rintro rfl
    simp [Text.ofString, Text.ofChars] at long
  simp [ofText, Text.pieces_eq_singleton plain, h1, h2]

/-- The place of a path ends in the last name of the path, unless that goes up. -/
theorem getLast?_place {cwd p : Path} {name : Text} (h : p.names.getLast? = some name)
    (down : Text.canonicalName name ≠ "..") :
    (place cwd p).getLast? = some (Text.canonicalName name) := by
  obtain ⟨front, hfront⟩ := List.getLast?_eq_some_iff.1 (getLast?_append (p := cwd) h)
  rw [place, hfront, List.map_append, follow, List.foldl_append]
  simp [down]

end Path

/-! ## File names -/

/-- What an output of a bundle can be. -/
def OutputKind.all : List OutputKind :=
  [.source "common", .source "jvm", .source "android", .source "native", .source "stub", .header]

theorem OutputKind.nodup_all : all.Nodup := by decide

theorem OutputKind.header_mem_all : header ∈ all := by decide

namespace Output

/-- The name of the file that an output becomes. -/
def fileName (o : Output) : Text :=
  match o.kind with
  | .source variant => Destination.fileName o.component variant
  | .header => o.component ++ ".h"

/-- What a file name has after the name of the component. -/
def suffix : OutputKind → Text
  | .source variant => "." ++ variant ++ ".kt"
  | .header => ".h"

/-- The name of an output's file is that of its component with the suffix of its kind. -/
theorem fileName_eq (o : Output) : o.fileName = o.component ++ suffix o.kind := by
  unfold fileName suffix Destination.fileName
  split <;> simp

/-- An output of a bundle: a file of one of the kinds, below whatever directories. -/
structure Proper (o : Output) : Prop where
  kind : o.kind ∈ OutputKind.all
  last : o.destination.names.getLast? = some o.fileName

/-- No suffix ends in another one. -/
theorem eq_of_suffix : ∀ k ∈ OutputKind.all, ∀ k' ∈ OutputKind.all,
    Text.bytesOf (suffix k) <:+ Text.bytesOf (suffix k') → k = k' := by
  decide +kernel

/-- Suffixes have no slash, and are too long for a name with one to lead up. -/
theorem suffix_plain : ∀ k ∈ OutputKind.all, .char '/' ∉ suffix k ∧ 2 ≤ (suffix k).length ∧
    ¬Text.bytesOf (suffix k) <:+ Text.bytesOf ".." := by
  decide +kernel

/-- File names tell components and kinds of outputs apart. -/
theorem eq_of_fileName {o o' : Output} (ho : o.kind ∈ OutputKind.all)
    (ho' : o'.kind ∈ OutputKind.all)
    (h : Text.bytesOf o.fileName = Text.bytesOf o'.fileName) :
    o.kind = o'.kind ∧ Text.bytesOf o.component = Text.bytesOf o'.component := by
  rw [fileName_eq, fileName_eq, Text.bytesOf_append, Text.bytesOf_append] at h
  have kinds : o.kind = o'.kind := by
    have end' : Text.bytesOf (suffix o'.kind) <:+
        Text.bytesOf o.component ++ Text.bytesOf (suffix o.kind) := h ▸ List.suffix_append _ _
    rcases List.suffix_or_suffix_of_suffix (List.suffix_append _ _) end' with h' | h'
    · exact eq_of_suffix _ ho _ ho' h'
    · exact (eq_of_suffix _ ho' _ ho h').symm
  refine ⟨kinds, ?_⟩
  rw [kinds] at h
  exact List.append_cancel_right h

/-- One file name belongs to outputs of one kind and of one component. -/
theorem eq_of_same_fileName {o o' : Output} (ho : o.kind ∈ OutputKind.all)
    (ho' : o'.kind ∈ OutputKind.all) (h : o.fileName = o'.fileName) :
    o.kind = o'.kind ∧ o.component = o'.component := by
  have kinds := (eq_of_fileName ho ho' (congrArg Text.bytesOf h)).1
  rw [fileName_eq, fileName_eq, kinds] at h
  exact ⟨kinds, List.append_cancel_right h⟩

/-- The file of an output never leads up. -/
theorem canonicalName_fileName_ne {o : Output} (ho : o.kind ∈ OutputKind.all) :
    Text.canonicalName o.fileName ≠ ".." := by
  intro h
  have hb := congrArg Text.bytesOf h
  rw [Text.bytesOf_canonicalName, fileName_eq, Text.bytesOf_append] at hb
  exact (suffix_plain _ ho).2.2 (hb ▸ List.suffix_append _ _)

/-- The place of an output ends in its file name. -/
theorem Proper.getLast?_place {o : Output} (h : o.Proper) (cwd dir : Path) :
    (Path.place cwd (dir ++ o.destination)).getLast? = some (Text.canonicalName o.fileName) := by
  apply Path.getLast?_place
  · exact Path.getLast?_append h.last
  · exact canonicalName_fileName_ne h.kind

/-- Two outputs with one place are of one kind and of components with one name. -/
theorem eq_of_place {o o' : Output} (ho : o.Proper) (ho' : o'.Proper) {cwd dir : Path}
    (h : Path.place cwd (dir ++ o.destination) = Path.place cwd (dir ++ o'.destination)) :
    o.kind = o'.kind ∧ Text.bytesOf o.component = Text.bytesOf o'.component := by
  have last := ho.getLast?_place cwd dir
  rw [h, ho'.getLast?_place] at last
  have names := congrArg Text.bytesOf (Option.some.inj last)
  rw [Text.bytesOf_canonicalName, Text.bytesOf_canonicalName] at names
  exact eq_of_fileName ho.kind ho'.kind names.symm

end Output

/-! ## The outputs of a bundle -/

section Bundle

variable {b : Bundle} {component package : Text} {multiplatform : Bool}

/-- Dropping the entries that hold nothing keeps the keys in order. -/
theorem sublist_filterMap {α β : Type} (entries : List (α × Option β)) :
    ((entries.filterMap fun e => e.2.map fun x => (e.1, x)).map Prod.fst).Sublist
      (entries.map Prod.fst) := by
  induction entries with
  | nil => exact .slnil
  | cons e rest ih =>
    obtain ⟨a, x⟩ := e
    cases x with
    | none => exact ih.cons a
    | some x => exact ih.cons_cons a

/-- A bundle has at most one output of every kind. -/
theorem sublist_kinds :
    ((b.outputs component package multiplatform).map Output.kind).Sublist OutputKind.all := by
  let platforms : List (Text × Option Text) :=
    [("jvm", b.jvm), ("android", b.android), ("native", b.native), ("stub", b.stub)]
  have sources : (b.sources.map Prod.fst).Sublist (("common" : Text) :: platforms.map Prod.fst) :=
    (sublist_filterMap platforms).cons_cons _
  have header : ((b.header.map (Output.header component)).toList.map Output.kind).Sublist
      [.header] := by
    cases b.header with
    | none => exact List.nil_sublist _
    | some text => exact .refl _
  rw [Bundle.outputs, List.map_append, List.map_map]
  exact List.Sublist.append ((List.map_map ▸ sources.map OutputKind.source :)) header

/-- The outputs of a bundle are proper when the name of the component has no slash. -/
theorem proper_of_mem (plain : .char '/' ∉ component) {o : Output}
    (h : o ∈ b.outputs component package multiplatform) : o.Proper ∧ o.component = component := by
  have kind : o.kind ∈ OutputKind.all :=
    sublist_kinds.subset (List.mem_map.2 ⟨o, h, rfl⟩)
  suffices ho : (∃ front, o.destination = front ++ Path.ofText o.fileName) ∧
      o.component = component by
    obtain ⟨⟨front, hfront⟩, rfl⟩ := ho
    refine ⟨⟨kind, ?_⟩, rfl⟩
    obtain ⟨slash, long, -⟩ := Output.suffix_plain _ kind
    rw [hfront]
    refine Path.getLast?_append ?_
    rw [Path.names_ofText, List.getLast?_singleton]
    · rw [Output.fileName_eq, List.mem_append, not_or]
      exact ⟨plain, slash⟩
    · rw [Output.fileName_eq, List.length_append]
      omega
  rcases List.mem_append.1 h with h | h
  · obtain ⟨s, -, rfl⟩ := List.mem_map.1 h
    exact ⟨⟨_, rfl⟩, rfl⟩
  · obtain ⟨text, -, rfl⟩ := Option.map_eq_some_iff.1 (Option.mem_toList.1 h)
    exact ⟨⟨_, rfl⟩, rfl⟩

end Bundle

/-- The outputs of a component whose bundle was generated. -/
def Component.outputs (c : Component) (b : Bundle) : List Output :=
  b.outputs c.interface.component c.package c.config.multiplatform

/-- The outputs of components with their bundles, in order. -/
def outputsOf (components : List Component) (bundles : List Bundle) : List Output :=
  (List.zipWith Component.outputs components bundles).flatten

section Outputs

variable {components : List Component} {bundles : List Bundle}

/-- Every output of a build is one of some component with its bundle. -/
theorem exists_component {o : Output} (h : o ∈ outputsOf components bundles) :
    ∃ c ∈ components, ∃ b, o ∈ c.outputs b := by
  induction components generalizing bundles with
  | nil => simp [outputsOf] at h
  | cons c components ih =>
    cases bundles with
    | nil => simp [outputsOf] at h
    | cons b bundles =>
      rcases List.mem_append.1 h with h | h
      · exact ⟨c, List.mem_cons_self, b, h⟩
      · obtain ⟨c', hc', b', h⟩ := ih h
        exact ⟨c', List.mem_cons_of_mem _ hc', b', h⟩

/-- Outputs of components without slashes in their names are proper ones, named for them. -/
theorem proper_outputsOf (plain : ∀ c ∈ components, .char '/' ∉ c.interface.component) {o : Output}
    (h : o ∈ outputsOf components bundles) :
    o.Proper ∧ ∃ c ∈ components, o.component = c.interface.component := by
  obtain ⟨c, hc, b, h⟩ := exists_component h
  obtain ⟨proper, name⟩ := proper_of_mem (plain c hc) h
  exact ⟨proper, c, hc, name⟩

/-- Outputs of components with different names differ in their kind or in the component. -/
theorem pairwise_outputsOf (plain : ∀ c ∈ components, .char '/' ∉ c.interface.component)
    (distinct : (components.map fun c => Text.bytesOf c.interface.component).Nodup) :
    (outputsOf components bundles).Pairwise fun o o' =>
      ¬(o.kind = o'.kind ∧ Text.bytesOf o.component = Text.bytesOf o'.component) := by
  induction components generalizing bundles with
  | nil => exact .nil
  | cons c components ih =>
    cases bundles with
    | nil => exact .nil
    | cons b bundles =>
      obtain ⟨fresh, distinct⟩ := List.nodup_cons.1 distinct
      have plain' : ∀ c ∈ components, .char '/' ∉ c.interface.component :=
        fun c' hc' => plain c' (List.mem_cons_of_mem _ hc')
      refine List.pairwise_append.2 ⟨?_, ih plain' distinct, ?_⟩
      · have kinds : ((c.outputs b).map Output.kind).Nodup :=
          sublist_kinds.nodup OutputKind.nodup_all
        exact (List.pairwise_map.1 kinds).imp fun ne h => ne h.1
      · intro o ho o' ho' h
        obtain ⟨-, name⟩ := proper_of_mem (plain c List.mem_cons_self) ho
        obtain ⟨-, c', hc', name'⟩ := proper_outputsOf plain' ho'
        rw [name, name'] at h
        exact fresh (List.mem_map.2 ⟨c', hc', h.2.symm⟩)

/-- Every output of a build has a place of its own. -/
theorem nodup_places (plain : ∀ c ∈ components, .char '/' ∉ c.interface.component)
    (distinct : (components.map fun c => Text.bytesOf c.interface.component).Nodup)
    (cwd dir : Path) :
    ((outputsOf components bundles).map fun o => Path.place cwd (dir ++ o.destination)).Nodup := by
  refine List.pairwise_map.2 ((pairwise_outputsOf plain distinct).imp_of_mem ?_)
  intro o o' ho ho' differ same
  have proper := (proper_outputsOf plain ho).1
  have proper' := (proper_outputsOf plain ho').1
  exact differ (Output.eq_of_place proper proper' same)

end Outputs

/-! ## Components apart -/

/-- Components whose names can be names of files, and are different ones. -/
structure Apart (components : List Component) : Prop where
  plain : ∀ c ∈ components, .char '/' ∉ c.interface.component
  distinct : (components.map fun c => Text.bytesOf c.interface.component).Nodup

namespace Apart

variable {components front back : List Component} {bundles : List Bundle}

theorem sublist (h : Apart components) (sub : front.Sublist components) : Apart front where
  plain c hc := h.plain c (sub.subset hc)
  distinct := h.distinct.sublist (sub.map _)

/-- Outputs of two such components have different places, whatever their bundles are. -/
theorem place_ne (h : Apart (front ++ back)) {c c' : Component} (hc : c ∈ front) (hc' : c' ∈ back)
    {b b' : Bundle} {o o' : Output} (ho : o ∈ c.outputs b) (ho' : o' ∈ c'.outputs b')
    (cwd dir : Path) :
    Path.place cwd (dir ++ o.destination) ≠ Path.place cwd (dir ++ o'.destination) := by
  intro same
  obtain ⟨proper, name⟩ := proper_of_mem (h.plain c (List.mem_append_left _ hc)) ho
  obtain ⟨proper', name'⟩ := proper_of_mem (h.plain c' (List.mem_append_right _ hc')) ho'
  have bytes := (Output.eq_of_place proper proper' same).2
  rw [name, name'] at bytes
  have names := h.distinct
  rw [List.map_append] at names
  exact (List.nodup_append.1 names).2.2 _ (List.mem_map.2 ⟨c, hc, rfl⟩) _
    (List.mem_map.2 ⟨c', hc', rfl⟩) bytes

end Apart

/-- One component more has its outputs behind all others. -/
theorem outputsOf_concat {components : List Component} {bundles : List Bundle}
    (same : components.length = bundles.length) (c : Component) (b : Bundle) :
    outputsOf (components ++ [c]) (bundles ++ [b]) =
      outputsOf components bundles ++ c.outputs b := by
  unfold outputsOf
  rw [List.zipWith_append same, List.flatten_append]
  simp

end Bindery
