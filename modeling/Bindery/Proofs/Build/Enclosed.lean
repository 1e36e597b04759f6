import Bindery.Interface.Load
import Bindery.Proofs.Build.Layout
import Bindery.Proofs.Build.Written

/-!
# Whether outputs stay below the output directory

The name of a component and its package are taken into paths as they are. Names that follow a
directory stay strictly below it, wherever it is, exactly when they are not rooted and no double dot
among them takes back more than what the names in front of it have added (`below_append_iff`). For
an output this comes down to how its component and its package are written (`contained_iff`); it
holds when they have no slashes, and fails for names that lead up (`evil_escapes`).
-/

namespace Bindery

namespace Path

/-! ## Names that stay below a directory -/

/-- A path lies strictly below a directory: once every double dot has taken back a name, it goes on
from there with at least one name. -/
def Below (cwd dir p : Path) : Prop :=
  ∃ names, names ≠ [] ∧
    settled cwd p = { settled cwd dir with names := (settled cwd dir).names ++ names }

/-- Whether names that are followed a number of names below a directory never lead to the directory
or above it without leading down again, and end below it. -/
def descends : Nat → List Text → Bool
  | depth, [] => 0 < depth
  | depth, name :: names =>
    if name = ".." then 0 < depth && descends (depth - 1) names else descends (depth + 1) names

theorem follow_cons_up (here names : List Text) :
    follow here (".." :: names) = follow here.dropLast names := rfl

theorem follow_cons_down {name : Text} (down : name ≠ "..") (here names : List Text) :
    follow here (name :: names) = follow (here ++ [name]) names := by
  simp [follow, down]

/-- Names come from the place where one starts or from the way that is taken. -/
theorem mem_follow {here names : List Text} {name : Text} (h : name ∈ follow here names) :
    name ∈ here ∨ name ∈ names := by
  induction names generalizing here with
  | nil => exact .inl h
  | cons first names ih =>
    by_cases up : first = ".."
    · rw [up, follow_cons_up] at h
      exact (ih h).imp (List.dropLast_subset here ·) (List.mem_cons_of_mem _)
    · rw [follow_cons_down up] at h
      rcases ih h with there | behind
      · rcases List.mem_append.1 there with there | there
        · exact .inl there
        · exact .inr (List.mem_cons.2 (.inl (List.mem_singleton.1 there)))
      · exact .inr (List.mem_cons_of_mem _ behind)

/-- Names that descend stay below where they start. -/
theorem follow_of_descends {here between names : List Text}
    (h : descends between.length names = true) :
    ∃ rest, rest ≠ [] ∧ follow (here ++ between) names = here ++ rest := by
  induction names generalizing between with
  | nil =>
    refine ⟨between, ?_, rfl⟩
    rw [descends, decide_eq_true_eq] at h
    exact List.ne_nil_of_length_pos h
  | cons name names ih =>
    rw [descends] at h
    by_cases up : name = ".."
    · rw [if_pos up, Bool.and_eq_true, decide_eq_true_eq, ← List.length_dropLast] at h
      obtain ⟨added, h⟩ := h
      rw [up, follow_cons_up,
        List.dropLast_append_of_ne_nil (List.ne_nil_of_length_pos added)]
      exact ih h
    · rw [if_neg up] at h
      rw [follow_cons_down up, List.append_assoc]
      exact ih (by rwa [List.length_append])

/-- A directory whose name does not occur again is not come back to, so what is below it in the end
descended. -/
theorem descends_of_follow {fresh : Text} {between names rest : List Text} (new : fresh ∉ names)
    (filled : rest ≠ []) (h : follow (fresh :: between) names = fresh :: rest) :
    descends between.length names = true := by
  induction names generalizing between with
  | nil =>
    rw [descends, decide_eq_true_eq]
    exact List.length_pos_iff.2 ((List.cons.inj h).2 ▸ filled)
  | cons name names ih =>
    obtain ⟨-, new⟩ := not_or.1 (mt List.mem_cons.2 new)
    rw [descends]
    by_cases up : name = ".."
    · rw [up, follow_cons_up] at h
      rw [if_pos up, Bool.and_eq_true, decide_eq_true_eq, ← List.length_dropLast]
      have added : between ≠ [] := by
        rintro rfl
        have there : fresh ∈ follow [] names := h ▸ List.mem_cons_self
        exact (mem_follow there).elim List.not_mem_nil new
      rw [List.dropLast_cons_of_ne_nil added] at h
      exact ⟨List.length_pos_iff.2 added, ih new h⟩
    · rw [follow_cons_down up, List.cons_append] at h
      rw [if_neg up]
      have further := ih new h
      rwa [List.length_append] at further

/-- There is always a name that is not yet used, and does not lead up. -/
theorem exists_fresh (names : List Text) : ∃ fresh : Text, fresh ∉ names ∧ fresh ≠ ".." := by
  have long (name : Text) (h : name.length < 3 + names.flatten.length) :
      name ≠ "..." ++ names.flatten := by
    rintro rfl
    rw [List.length_append] at h
    exact absurd h (lt_irrefl _)
  refine ⟨"..." ++ names.flatten, fun there => ?_, fun up => ?_⟩
  · have within := (List.sublist_flatten_of_mem there).length_le
    exact long _ (by omega) rfl
  · exact long ".." (Nat.lt_add_right _ (by decide)) up.symm

theorem append_append_here (cwd dir : Path) {p : Path} (unrooted : p.root = .here) :
    cwd ++ (dir ++ p) = { cwd ++ dir with names := (cwd ++ dir).names ++ p.names } := by
  show join cwd (join dir p) = { join cwd dir with names := (join cwd dir).names ++ p.names }
  unfold join
  rw [unrooted]
  dsimp only
  split <;> simp [*]

/-- Names stay strictly below every directory that they follow exactly when they are not rooted and
descend. -/
theorem below_append_iff {p : Path} :
    (∀ cwd dir, Below cwd dir (dir ++ p)) ↔ p.root = .here ∧ descends 0 p.names = true := by
  constructor
  · intro below
    have unrooted : p.root = .here := by
      by_contra rooted
      have same : p ++ p = p := by
        show join p p = p
        unfold join
        split
        · contradiction
        · rfl
      obtain ⟨names, filled, settled⟩ := below ⟨.root, []⟩ p
      rw [same] at settled
      exact filled (List.self_eq_append_right.1 (congrArg Path.names settled))
    refine ⟨unrooted, ?_⟩
    obtain ⟨fresh, new, down⟩ := exists_fresh p.names
    obtain ⟨names, filled, settled⟩ := below ⟨.root, []⟩ ⟨.root, [fresh]⟩
    have dir : settledNames [fresh] = [fresh] := follow_cons_down down [] []
    have followed : follow [fresh] p.names = fresh :: names := by
      have whole := congrArg Path.names settled
      simp only [Path.settled, append_append_here _ _ unrooted] at whole
      show follow [fresh] p.names = [fresh] ++ names
      rw [← dir]
      exact (follow_append [] [fresh] p.names).symm.trans whole
    exact descends_of_follow new filled followed
  · rintro ⟨unrooted, descending⟩ cwd dir
    obtain ⟨rest, filled, followed⟩ : ∃ rest, rest ≠ [] ∧
        follow (settledNames (cwd ++ dir).names ++ []) p.names =
          settledNames (cwd ++ dir).names ++ rest := follow_of_descends descending
    have whole : settledNames ((cwd ++ dir).names ++ p.names) =
        settledNames (cwd ++ dir).names ++ rest := by
      rw [List.append_nil] at followed
      exact (follow_append [] _ _).trans followed
    refine ⟨rest, filled, ?_⟩
    unfold settled
    rw [append_append_here _ _ unrooted]
    dsimp only
    rw [whole]

/-! ## Joined paths -/

/-- A joined path is relative when both its parts are. -/
theorem root_append_eq_here_iff {p q : Path} :
    (p ++ q).root = .here ↔ p.root = .here ∧ q.root = .here := by
  show (join p q).root = .here ↔ _
  unfold join
  split
  · simp [*]
  · constructor
    · intro h
      contradiction
    · rintro ⟨-, h⟩
      contradiction

theorem names_append_of_here {p q : Path} (unrooted : q.root = .here) :
    (p ++ q).names = p.names ++ q.names := by
  show (join p q).names = _
  unfold join
  rw [unrooted]

/-- A text that writes a rooted path. -/
def Rooted (s : Text) : Prop := s.head? = some (.char '/')

instance (s : Text) : Decidable (Rooted s) := inferInstanceAs (Decidable (_ = _))

/-- A text is a relative path when it does not start with a slash. -/
theorem root_ofText_iff {s : Text} : (ofText s).root = .here ↔ ¬Rooted s := by
  show rootOf s = .here ↔ _
  unfold rootOf Rooted
  cases s with
  | nil => simp
  | cons c rest =>
    by_cases slash : c = .char '/'
    · simp only [slash, beq_self_eq_true, List.takeWhile_cons_of_pos, List.length_cons,
        List.head?_cons, not_true_eq_false, iff_false]
      split <;> simp_all
    · have apart : (c == CodePoint.char '/') = false := beq_false_of_ne slash
      simp [apart, slash]

section Texts

variable {parts : List Text}

/-- Several parts joined to a path are relative when the path and all parts are. -/
theorem root_foldl_iff (p : Path) :
    (parts.foldl (fun p part => p ++ ofText part) p).root = .here ↔
      p.root = .here ∧ ∀ part ∈ parts, ¬Rooted part := by
  induction parts generalizing p with
  | nil => simp
  | cons part parts ih =>
    rw [List.foldl_cons, ih, root_append_eq_here_iff, root_ofText_iff, List.forall_mem_cons,
      and_assoc]

/-- The names of relative parts joined to a path follow one another. -/
theorem names_foldl (unrooted : ∀ part ∈ parts, ¬Rooted part) (p : Path) :
    (parts.foldl (fun p part => p ++ ofText part) p).names =
      p.names ++ parts.flatMap fun part => (ofText part).names := by
  induction parts generalizing p with
  | nil => simp
  | cons part parts ih =>
    obtain ⟨first, unrooted⟩ := List.forall_mem_cons.1 unrooted
    rw [List.foldl_cons, ih unrooted, names_append_of_here (root_ofText_iff.2 first),
      List.flatMap_cons, List.append_assoc]

end Texts

/-- Names that lead down descend, and what follows them goes on from there. -/
theorem descends_append {front names : List Text} (down : ∀ name ∈ front, name ≠ "..")
    (depth : Nat) : descends depth (front ++ names) = descends (depth + front.length) names := by
  induction front generalizing depth with
  | nil => rfl
  | cons name front ih =>
    obtain ⟨first, down⟩ := List.forall_mem_cons.1 down
    rw [List.cons_append, descends, if_neg first, ih down, List.length_cons, Nat.add_assoc,
      Nat.add_comm 1]

end Path

/-! ## Outputs -/

open Bindery.Path

/-- An output that is written strictly below the output directory, whichever that is. -/
def Output.Contained (o : Output) : Prop :=
  ∀ (host : Host) (writer : Writer), Below host.cwd writer.outDir (writer.pathOf o)

/-- The names of the directories that a package is in. -/
def Destination.packageNames (package : Text) : List Text :=
  (Text.pieces '.' package).flatMap fun segment => (ofText segment).names

/-- How a component and its package have to be written for an output to stay below the output
directory. Between that and a source there are the source set, the directory of the language and
those of the package; between that and the parts of a header's path the directories of all
headers. -/
def Destination.Inside (component package : Text) : OutputKind → Prop
  | .source variant => ¬Rooted component ∧ (∀ segment ∈ Text.pieces '.' package, ¬Rooted segment) ∧
      descends (2 + (packageNames package).length)
        (ofText (fileName component variant)).names = true
  | .header => ¬Rooted component ∧
      descends 3 ((ofText component).names ++ (ofText (component ++ ".h")).names) = true

open Destination

namespace Output

variable {o : Output} {component package variant : Text} {multiplatform : Bool}

/-- An output is contained when its destination is relative and no name in it takes back too
much. -/
theorem contained_iff_destination :
    o.Contained ↔ o.destination.root = .here ∧ descends 0 o.destination.names = true := by
  rw [← below_append_iff]
  constructor
  · intro contained cwd dir
    exact contained { Build.bareHost with cwd } { outDir := dir }
  · intro below host writer
    exact below host.cwd writer.outDir

/-- A suffix that does not start with a slash changes nothing about where a path starts. -/
theorem rooted_append_iff {s suffix : Text} (plain : ¬Rooted suffix) :
    Rooted (s ++ suffix) ↔ Rooted s := by
  cases s with
  | nil => exact iff_of_false plain (by decide)
  | cons c s => rfl

/-- The directories of a package do not lead up, whatever the package is. -/
theorem down_of_mem_packageNames {name : Text} (h : name ∈ packageNames package) : name ≠ ".." := by
  obtain ⟨segment, hsegment, hname⟩ := List.mem_flatMap.1 h
  have dotless : CodePoint.char '.' ∉ segment := (Text.mem_pieces hsegment).1
  have within : name ⊆ segment := (Text.mem_pieces (List.mem_filter.1 hname).1).2
  rintro rfl
  exact dotless (within (by decide))

/-- The file of a binding is given from the root only if its component is. -/
theorem rooted_fileName_iff :
    Rooted (Destination.fileName component variant) ↔ Rooted component := by
  unfold Destination.fileName
  rw [List.append_assoc, List.append_assoc]
  exact rooted_append_iff nofun

theorem ofText_language : ofText "kotlin" = ⟨.here, ["kotlin"]⟩ :=
  ofText_name (by decide +kernel) (by decide +kernel)

section Source

variable (kind : .source variant ∈ OutputKind.all)

include kind

theorem ofText_sourceSet :
    ofText (sourceSet variant multiplatform) = ⟨.here, [sourceSet variant multiplatform]⟩ := by
  obtain ⟨slash, named, -⟩ := sourceSet_plain variant kind multiplatform
  exact ofText_name slash named

/-- A binding is given from the root only through a segment of its package or its component. -/
theorem root_binding_iff : (binding package component variant multiplatform).root = .here ↔
    (∀ segment ∈ Text.pieces '.' package, ¬Rooted segment) ∧ ¬Rooted component := by
  unfold binding packagePath ofTexts
  rw [root_append_eq_here_iff, root_append_eq_here_iff, root_append_eq_here_iff,
    ofText_sourceSet kind, ofText_language, root_foldl_iff, root_ofText_iff, rooted_fileName_iff]
  simp

/-- The names on the way to a binding, when nothing in it is given from the root. -/
theorem names_binding (segments : ∀ segment ∈ Text.pieces '.' package, ¬Rooted segment)
    (unrooted : ¬Rooted component) : (binding package component variant multiplatform).names =
      (sourceSet variant multiplatform :: "kotlin" :: packageNames package) ++
        (ofText (Destination.fileName component variant)).names := by
  unfold binding packagePath ofTexts
  rw [names_append_of_here (root_ofText_iff.2 (mt rooted_fileName_iff.1 unrooted)),
    names_append_of_here ((root_foldl_iff _).2 ⟨rfl, segments⟩),
    names_append_of_here (ofText_language ▸ rfl), ofText_sourceSet kind, ofText_language,
    names_foldl segments]
  rfl

/-- Only the file's name can lead up from the directories of a source. -/
theorem descends_binding (segments : ∀ segment ∈ Text.pieces '.' package, ¬Rooted segment)
    (unrooted : ¬Rooted component) :
    descends 0 (binding package component variant multiplatform).names =
      descends (2 + (packageNames package).length)
        (ofText (Destination.fileName component variant)).names := by
  have down : ∀ name ∈ sourceSet variant multiplatform :: "kotlin" :: packageNames package,
      name ≠ ".." := by
    rw [List.forall_mem_cons, List.forall_mem_cons]
    obtain ⟨-, -, dot⟩ := sourceSet_plain variant kind multiplatform
    exact ⟨(Text.dotless_of_notMem dot).ne_up, by decide +kernel,
      fun name => down_of_mem_packageNames⟩
  rw [names_binding kind segments unrooted, descends_append down, List.length_cons,
    List.length_cons, Nat.zero_add, Nat.add_comm 2]

/-- A source is contained when its component and its package stay inside its directory. -/
theorem source_contained_iff (text : Text) :
    (source component package variant multiplatform text).Contained ↔
      Inside component package (.source variant) := by
  rw [contained_iff_destination]
  show (binding package component variant multiplatform).root = .here ∧
    descends 0 (binding package component variant multiplatform).names = true ↔ _
  rw [root_binding_iff kind]
  constructor
  · rintro ⟨⟨segments, unrooted⟩, descending⟩
    exact ⟨unrooted, segments, descends_binding kind segments unrooted ▸ descending⟩
  · rintro ⟨unrooted, segments, descending⟩
    exact ⟨⟨segments, unrooted⟩, (descends_binding kind segments unrooted).symm ▸ descending⟩

end Source

theorem rooted_headerName_iff : Rooted (component ++ ".h") ↔ Rooted component :=
  rooted_append_iff (by decide)

/-- A header is given from the root only if its component is. -/
theorem root_header_iff : (Destination.header component).root = .here ↔ ¬Rooted component := by
  unfold Destination.header
  rw [root_append_eq_here_iff, root_append_eq_here_iff, root_ofText_iff, root_ofText_iff,
    rooted_headerName_iff]
  simp

/-- The names on the way to a header, when its component is not given from the root. -/
theorem names_header (unrooted : ¬Rooted component) : (Destination.header component).names =
    Destination.headers ++ ((ofText component).names ++ (ofText (component ++ ".h")).names) := by
  unfold Destination.header
  rw [names_append_of_here (root_ofText_iff.2 (mt rooted_headerName_iff.1 unrooted)),
    names_append_of_here (root_ofText_iff.2 unrooted), List.append_assoc]
  rfl

/-- A header is contained when its component stays inside the directory of its headers. -/
theorem header_contained_iff (text : Text) :
    (header component text).Contained ↔ Inside component package .header := by
  have down : ∀ name ∈ Destination.headers, name ≠ ".." := fun name mem =>
    (Directories.dotless_headers name mem).ne_up
  rw [contained_iff_destination]
  show (Destination.header component).root = .here ∧
    descends 0 (Destination.header component).names = true ↔ _
  rw [root_header_iff]
  refine and_congr_right fun unrooted => ?_
  rw [names_header unrooted, descends_append down]
  rfl

end Output

/-- What has no slashes stays inside, whatever dots it has. -/
theorem Destination.inside_of_plain {component package : Text} (plain : .char '/' ∉ component)
    (plain' : .char '/' ∉ package) {kind : OutputKind} (mem : kind ∈ OutputKind.all) :
    Inside component package kind := by
  have unrooted {s : Text} (plain : .char '/' ∉ s) : ¬Rooted s := fun rooted =>
    plain (List.mem_of_mem_head? rooted)
  have file (depth : Nat) {text : Text} (name : text ≠ "..") : descends depth [text] = true := by
    rw [descends, if_neg name, descends]
    exact decide_eq_true (Nat.succ_pos depth)
  cases kind with
  | source variant =>
    have alone : ofText (fileName component variant) = ⟨.here, [fileName component variant]⟩ :=
      @Output.ofText_fileName (.source component package variant true []) mem plain
    refine ⟨unrooted plain, fun segment hsegment => ?_, ?_⟩
    · exact unrooted fun slash => plain' ((Text.mem_pieces hsegment).2 slash)
    · rw [alone]
      refine file _ fun up => ?_
      exact @Output.canonicalName_fileName_ne (.source component package variant true []) mem
        (by rw [Output.fileName]; exact (congrArg Text.canonicalName up).trans (by decide +kernel))
  | header =>
    have alone : ofText (component ++ ".h") = ⟨.here, [component ++ ".h"]⟩ :=
      @Output.ofText_fileName (.header component []) mem plain
    refine ⟨unrooted plain, ?_⟩
    have name : component ++ ".h" ≠ ".." := fun up =>
      @Output.canonicalName_fileName_ne (.header component []) mem
        (by rw [Output.fileName]; exact (congrArg Text.canonicalName up).trans (by decide +kernel))
    rw [alone, ofText_plain plain]
    dsimp only [written]
    rw [List.filter_cons, List.filter_nil]
    split
    · rw [List.singleton_append, descends]
      split
      · exact file 2 name
      · exact file 4 name
    · exact file 3 name

/-- Whether an output stays below the output directory, whichever that is, is decided by how its
component and its package are written. Those without slashes stay there. -/
theorem contained_iff {b : Bundle} {component package : Text} {multiplatform : Bool} :
    ∀ o ∈ b.outputs component package multiplatform,
      (o.Contained ↔ Destination.Inside component package o.kind) ∧
      (.char '/' ∉ component → .char '/' ∉ package → o.Contained) := by
  intro o ho
  have kind : o.kind ∈ OutputKind.all := sublist_kinds.subset (List.mem_map.2 ⟨o, ho, rfl⟩)
  suffices decided : o.Contained ↔ Destination.Inside component package o.kind from
    ⟨decided, fun plain plain' => decided.2 (Destination.inside_of_plain plain plain' kind)⟩
  rcases List.mem_append.1 ho with ho | ho
  · obtain ⟨⟨variant, text⟩, -, rfl⟩ := List.mem_map.1 ho
    exact Output.source_contained_iff kind text
  · obtain ⟨text, -, rfl⟩ := Option.map_eq_some_iff.1 (Option.mem_toList.1 ho)
    exact Output.header_contained_iff text

/-- A component named by two dots, which stays below the output directory with its header too. -/
theorem contained_iff_dots :
    (Output.source ".." "org.dots" "common" false "x").Contained ∧
      (Output.header ".." "y").Contained := by
  have all := @contained_iff { common := "x", header := some "y" } ".." "org.dots" false
  exact ⟨(all (.source ".." "org.dots" "common" false "x") List.mem_cons_self).2
      (by decide +kernel) (by decide +kernel),
    (all (.header ".." "y") (List.mem_cons_of_mem _ List.mem_cons_self)).2
      (by decide +kernel) (by decide +kernel)⟩

/-- A name that leads up from the directory of a package, and past the output directory. -/
def evil : Text := "../../../../evil"

/-- A component may have such a name. Its source is written next to the output directory. A rooted
name, and a package with a rooted segment, lead anywhere. -/
theorem evil_escapes :
    Interface.ofValue "i.json" (.table none [(.text "namespace", .text evil)]) =
        .ok { component := evil, crateName := evil } ∧
      (∃ file w', Build.plainWriter.write Build.bareHost
          (.source evil "p" "common" false "x") { tree := .dir [] } = (.ok file, w') ∧
        ¬Below Build.bareHost.cwd Build.plainWriter.outDir file.path ∧
        w'.tree.bytesOf Build.bareHost.cwd ⟨.root, ["evil.common.kt"]⟩ = .ok "x".toUTF8) ∧
      Build.plainWriter.pathOf (.source "/evil" "p" "common" false "x") =
        ⟨.root, ["evil.common.kt"]⟩ ∧
      Build.plainWriter.pathOf (.source "n" "a./evil" "common" false "x") =
        ⟨.root, ["evil", "n.common.kt"]⟩ := by
  refine ⟨rfl, ?_, by decide +kernel, by decide +kernel⟩
  obtain ⟨file, h⟩ : ∃ file, Build.plainWriter.write Build.bareHost
      (.source evil "p" "common" false "x") { tree := .dir [] } = (.ok file, _) :=
    Run.exists_of_isOk (by decide +kernel)
  refine ⟨file, _, h, ?_, by decide +kernel⟩
  rw [(Writer.write_ok h).1]
  rintro ⟨names, -, same⟩
  have whole := congrArg Path.names same
  have written : (settled Build.bareHost.cwd
      (Build.plainWriter.pathOf (.source evil "p" "common" false "x"))).names =
        ["evil.common.kt"] := by decide +kernel
  have dir : (settled Build.bareHost.cwd Build.plainWriter.outDir).names = ["out"] := by
    decide +kernel
  rw [written] at whole
  dsimp only at whole
  rw [dir] at whole
  exact absurd (List.cons.inj whole).1 (by decide +kernel)

end Bindery
