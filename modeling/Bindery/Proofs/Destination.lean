import Bindery.Proofs.Build.Enclosed

/-!
# What a destination tells

A destination tells what its file is generated for (`Purpose.eq_of_destination`): the source set and
the file name tell the mode, the variant and the component, and the directories between them the
package. A file lies in directories whose names have no dots, but for the last directory of a
header; file names have dots, so that no file is a directory that leads to another one
(`Purpose.not_below_destination`).
-/

namespace Bindery

open Bindery.Path

namespace Destination

/-- What a file is generated for: a variant of a component's source, in a package and a mode, or the
header of a component. -/
inductive Purpose where
  | source (package component variant : Text) (multiplatform : Bool)
  | header (component : Text)
  deriving DecidableEq, Repr

namespace Purpose

def component : Purpose → Text
  | source _ component _ _ => component
  | header component => component

def destination : Purpose → Path
  | source package component variant multiplatform =>
    binding package component variant multiplatform
  | header component => Destination.header component

/-- The empty file that is generated for a purpose. -/
def output : Purpose → Output
  | source package component variant multiplatform =>
    .source component package variant multiplatform []
  | header component => .header component []

/-- A purpose whose component has no slash, and whose package is made of segments without slashes
between single dots. -/
inductive Plain : Purpose → Prop where
  | source {package component variant : Text} {multiplatform : Bool}
      (kind : .source variant ∈ OutputKind.all) (plain : .char '/' ∉ component)
      (segments : ∀ segment ∈ Text.pieces '.' package, segment ≠ [] ∧ .char '/' ∉ segment) :
      Plain (.source package component variant multiplatform)
  | header {component : Text} (plain : .char '/' ∉ component) : Plain (.header component)

/-- A purpose whose component has a name that a directory may have. -/
structure Named (p : Purpose) : Prop where
  filled : p.component ≠ ""
  here : p.component ≠ "."
  up : p.component ≠ ".."

variable {p p' : Purpose} {package component variant : Text} {multiplatform : Bool}

section Segments

variable (segments : ∀ segment ∈ Text.pieces '.' package, segment ≠ [] ∧ .char '/' ∉ segment)

include segments

/-- A package without slashes has none in its segments. -/
theorem slash_notMem_of_segments : .char '/' ∉ package := by
  intro slash
  obtain ⟨segment, mem, there⟩ := Text.exists_mem_splitWhere slash (p := (· == .char '.')) rfl
  exact (segments segment mem).2 there

/-- Every segment is a directory. -/
theorem written_segments : written (Text.pieces '.' package) = Text.pieces '.' package := by
  refine List.filter_eq_self.2 fun segment mem => ?_
  have dotless : segment ≠ "." := by
    rintro rfl
    exact (Text.mem_pieces mem).1 (by decide +kernel)
  have filled : segment ≠ "" := (segments segment mem).1
  simp [dotless, filled]

/-- The way to a binding, segment by segment, when no part of it has a slash. -/
theorem binding_segments (kind : .source variant ∈ OutputKind.all) (plain : .char '/' ∉ component) :
    binding package component variant multiplatform =
      ⟨.here, sourceSet variant multiplatform :: "kotlin" :: Text.pieces '.' package ++
        [fileName component variant]⟩ := by
  rw [binding_plain kind multiplatform plain (slash_notMem_of_segments segments),
    written_segments segments]

end Segments

/-- A place is for one of the kinds of outputs that there are. -/
theorem output_kind (h : p.Plain) : p.output.kind ∈ OutputKind.all := by
  cases h with
  | source kind => exact kind
  | header => exact OutputKind.header_mem_all

/-- The last name on the way is that of the file. -/
theorem destination_eq (h : p.Plain) :
    ∃ dirs, p.destination = ⟨.here, dirs ++ [p.output.fileName]⟩ := by
  cases h with
  | source kind plain segments => exact ⟨_, binding_segments segments kind plain⟩
  | header plain => exact ⟨_, header_plain plain⟩

/-- The source sets of a variant tell the mode. -/
theorem eq_of_sourceSet (kind : .source variant ∈ OutputKind.all) {mode mode' : Bool}
    (h : sourceSet variant mode = sourceSet variant mode') : mode = mode' := by
  simp only [OutputKind.all, List.mem_cons, OutputKind.source.injEq, reduceCtorEq,
    List.not_mem_nil, or_false] at kind
  revert mode mode'
  rcases kind with rfl | rfl | rfl | rfl | rfl <;> decide +kernel

/-- A destination tells what its file is generated for. -/
theorem eq_of_destination (h : p.Plain) (h' : p'.Plain) (same : p.destination = p'.destination) :
    p = p' := by
  obtain ⟨dirs, hdirs⟩ := destination_eq h
  obtain ⟨dirs', hdirs'⟩ := destination_eq h'
  have names := congrArg Path.names (hdirs.symm.trans (same.trans hdirs'))
  have file := List.singleton_inj.1 (List.append_inj_right' names rfl)
  obtain ⟨kinds, components⟩ := Output.eq_of_same_fileName (output_kind h) (output_kind h') file
  cases h with
  | @source package component variant mode kind plain segments =>
    cases h' with
    | header => cases kinds
    | @source package' component' variant' mode' kind' plain' segments' =>
      obtain rfl := OutputKind.source.inj kinds
      obtain rfl : component = component' := components
      have ways := congrArg Path.names
        ((binding_segments segments kind plain).symm.trans
          (same.trans (binding_segments segments' kind' plain')))
      injection ways with sets ways
      injection ways with _ ways
      have segments := List.append_cancel_right ways
      rw [← Text.joined_pieces '.' package, segments, Text.joined_pieces,
        eq_of_sourceSet kind sets]
  | header plain =>
    cases h' with
    | source => cases kinds
    | header plain' => exact congrArg Purpose.header components

/-! ## Files and directories -/

/-- A file with a component that a directory may be named after lies in directories, none of which
leads up. -/
theorem exists_directories (h : p.Plain) (named : p.Named) :
    ∃ dirs, Directories dirs ∧ (∀ name ∈ dirs, name ≠ "..") ∧
      p.destination = ⟨.here, dirs ++ [p.output.fileName]⟩ := by
  cases h with
  | @source package component variant multiplatform kind plain segments =>
    obtain ⟨-, -, dot⟩ := sourceSet_plain variant kind multiplatform
    have dotless : ∀ name ∈ sourceSet variant multiplatform :: "kotlin" :: Text.pieces '.' package,
        Text.Dotless name := by
      refine List.forall_mem_cons.2 ⟨Text.dotless_of_notMem dot, List.forall_mem_cons.2 ⟨?_, ?_⟩⟩
      · exact Text.dotless_of_notMem (by decide +kernel)
      · exact fun segment mem => Text.dotless_of_notMem (Text.mem_pieces mem).1
    exact ⟨_, .source dotless, fun name mem => (dotless name mem).ne_up,
      binding_segments segments kind plain⟩
  | @header component plain =>
    have filled : component ≠ "" := named.filled
    have here : component ≠ "." := named.here
    have written : written [component] = [component] := by simp [Path.written, filled, here]
    refine ⟨_, .header component, ?_, written ▸ header_plain plain⟩
    refine List.forall_mem_append.2 ⟨fun name mem => ?_, List.forall_mem_singleton.2 named.up⟩
    exact (Directories.dotless_headers name mem).ne_up

end Purpose

end Destination

open Destination

/-- No file is among the directories that lead to a file. -/
theorem Directories.not_prefix {dirs dirs' : List Text} {file : Text} (h : Directories dirs)
    (h' : Directories dirs') (dotted : ¬Text.Dotless file) : ¬dirs ++ [file] <+: dirs' := by
  intro leads
  have there : file ∈ dirs' := leads.subset (List.mem_append_right _ (List.mem_singleton_self file))
  cases h' with
  | source dotless => exact dotted (dotless file there)
  | header name =>
    rcases List.prefix_concat_iff.1 leads with same | front
    · have directories : dirs = headers := (List.append_inj' same rfl).1
      cases h with
      | source =>
        injection directories with _ directories
        injection directories with second _
        exact absurd second (by decide +kernel)
      | header => exact absurd (congrArg List.length directories) (by simp)
    · have among := front.subset (List.mem_append_right _ (List.mem_singleton_self file))
      exact dotted (Directories.dotless_headers file among)

namespace Destination.Purpose

variable {p p' : Purpose}

/-- The file of a named place has a dot in its name. -/
theorem dotted_fileName (h : p.Plain) (named : p.Named) : ¬Text.Dotless p.output.fileName := by
  obtain ⟨dirs, directories, -, way⟩ := exists_directories h named
  have laid : p.output.Laid := by
    refine ⟨output_kind h, dirs, directories, ?_⟩
    rw [← way]
    cases p <;> rfl
  exact fun dotless => laid.dotted dotless.canonicalName

/-- Names that lead down are added to a directory as they are. -/
theorem settled_of_down {names : List Text} (down : ∀ name ∈ names, name ≠ "..") (cwd : Path) :
    (settled cwd ⟨.here, names⟩).names = settledNames cwd.names ++ names :=
  (follow_append [] cwd.names names).trans (follow_of_down down)

/-- Neither the directories nor the file lead up. -/
theorem down_append_fileName (h : p.Plain) {dirs : List Text} (down : ∀ name ∈ dirs, name ≠ "..") :
    ∀ name ∈ dirs ++ [p.output.fileName], name ≠ ".." := by
  refine List.forall_mem_append.2 ⟨down, List.forall_mem_singleton.2 fun up => ?_⟩
  exact Output.canonicalName_fileName_ne (output_kind h)
    ((congrArg Text.canonicalName up).trans (by decide +kernel))

/-- No destination is a directory that leads to another one, wherever both are. -/
theorem not_below_destination (h : p.Plain) (named : p.Named) (h' : p'.Plain) (named' : p'.Named)
    (cwd : Path) : ¬Below cwd p.destination p'.destination := by
  obtain ⟨dirs, directories, down, way⟩ := exists_directories h named
  obtain ⟨dirs', directories', down', way'⟩ := exists_directories h' named'
  rintro ⟨names, filled, below⟩
  have settled := congrArg Path.names below
  rw [way, way'] at settled
  dsimp only at settled
  rw [settled_of_down (down_append_fileName h' down'),
    settled_of_down (down_append_fileName h down), List.append_assoc] at settled
  have front := congrArg List.dropLast (List.append_cancel_left settled)
  rw [List.dropLast_concat, List.dropLast_append_of_ne_nil filled] at front
  have leads : dirs ++ [p.output.fileName] <+: dirs' := front ▸ List.prefix_append _ _
  exact directories.not_prefix directories' (dotted_fileName h named) leads

/-- Destinations are decodable: two of them are the same only for one package, component, variant
and mode, or for the headers of one component. None of them is a directory above another one, if the
components have names that directories may have. -/
theorem destinations_decodable (h : p.Plain) (h' : p'.Plain) :
    (p.destination = p'.destination → p = p') ∧
      (p.Named → p'.Named → ∀ cwd, ¬Below cwd p.destination p'.destination) :=
  ⟨eq_of_destination h h', fun named named' => not_below_destination h named h' named'⟩

/-- The JVM source of a component with the name of a common source, and the common source of another
component in a package below, stand side by side. -/
theorem destinations_decodable_cart :
    (source "org.shop" "cart.common" "jvm" false).Plain ∧
      (source "org.shop.cart" "cart.common.jvm" "common" false).Plain ∧
      (source "org.shop" "cart.common" "jvm" false).Named ∧
      (source "org.shop.cart" "cart.common.jvm" "common" false).Named ∧
      (source "org.shop" "cart.common" "jvm" false).destination ≠
        (source "org.shop.cart" "cart.common.jvm" "common" false).destination ∧
      ∀ cwd, ¬Below cwd (source "org.shop" "cart.common" "jvm" false).destination
        (source "org.shop.cart" "cart.common.jvm" "common" false).destination := by
  have plain : (source "org.shop" "cart.common" "jvm" false).Plain :=
    .source (by decide +kernel) (by decide +kernel) (by decide +kernel)
  have plain' : (source "org.shop.cart" "cart.common.jvm" "common" false).Plain :=
    .source (by decide +kernel) (by decide +kernel) (by decide +kernel)
  have named : (source "org.shop" "cart.common" "jvm" false).Named :=
    ⟨by decide +kernel, by decide +kernel, by decide +kernel⟩
  have named' : (source "org.shop.cart" "cart.common.jvm" "common" false).Named :=
    ⟨by decide +kernel, by decide +kernel, by decide +kernel⟩
  obtain ⟨decodes, apart⟩ := destinations_decodable plain plain'
  exact ⟨plain, plain', named, named', mt decodes (by decide +kernel), apart named named'⟩

end Destination.Purpose

end Bindery
