import Bindery.Proofs.Build.Destinations
import Bindery.Proofs.FileTree.Ways

/-!
# How the files of a build lie to each other

Below the output directory an output goes into directories of one of two kinds (`Directories`):
those of a source set and a package, which have no dots in their names, or those of a header. A
file has a dot in its name, so no file lies on the way to another one, but for ways that lead to
the output directory itself (`crossing`).
-/

namespace Bindery

/-! ## Names without dots -/

namespace Text

/-- A name without a dot. -/
def Dotless (name : Text) : Prop := (0x2E : UInt8) ∉ bytesOf name

/-- Only the dot is written with its byte. -/
theorem dot_notMem_nameBytes {c : CodePoint} (h : c ≠ .char '.') :
    (0x2E : UInt8) ∉ nameBytes c := by
  cases c with
  | surrogate n =>
    intro hmem
    simp only [nameBytes, rawByte?] at hmem
    split at hmem
    · rename_i hn
      simp only [Bool.and_eq_true, decide_eq_true_eq] at hn
      have hb := congrArg UInt8.toNat (List.mem_singleton.1 (by simpa using hmem))
      simp at hb
      omega
    · simp at hmem
  | char c =>
    intro hmem
    rw [nameBytes_char] at hmem
    have hc : c.val.toNat ≠ 0x2E := by
      intro hv
      apply h
      congr 1
      exact Char.ext (UInt32.toNat_inj.1 hv)
    have byte : ∀ n, n < 256 → n ≠ 0x2E → (0x2E : UInt8) ≠ UInt8.ofNat n := by
      intro n bound ne same
      have values := congrArg UInt8.toNat same
      rw [UInt8.toNat_ofNat_of_lt' bound] at values
      exact ne values.symm
    unfold String.utf8EncodeChar at hmem
    dsimp only at hmem
    split at hmem
    · exact byte _ (by omega) hc (List.mem_singleton.1 hmem)
    -- The bytes of all other characters are beyond ASCII.
    · repeat' split at hmem
      all_goals
        simp only [List.mem_cons, List.not_mem_nil, or_false] at hmem
        repeat' rcases hmem with hmem | hmem
        all_goals exact byte _ (by omega) (by omega) hmem

/-- A name in which no dot is written is one without dots. -/
theorem dotless_of_notMem {name : Text} (h : .char '.' ∉ name) : Dotless name := by
  intro hdot
  obtain ⟨c, hc, hbyte⟩ := List.mem_flatMap.1 hdot
  refine dot_notMem_nameBytes ?_ hbyte
  rintro rfl
  exact h hc

/-- Names without dots stay so as the file system spells them. -/
theorem Dotless.canonicalName {name : Text} (h : Dotless name) : Dotless (canonicalName name) := by
  unfold Dotless
  rw [bytesOf_canonicalName]
  exact h

/-- A name without dots does not lead up. -/
theorem Dotless.ne_up {name : Text} (h : Dotless name) : name ≠ ".." := by
  rintro rfl
  exact h (by decide +kernel)

end Text

/-! ## Written paths -/

namespace Path

/-- The names that texts without slashes stand for: empty ones and single dots fall away. -/
def written (parts : List Text) : List Text := parts.filter fun name => name != "" && name != "."

/-- A text without slashes is a path of one name at most. -/
theorem ofText_plain {s : Text} (plain : .char '/' ∉ s) : ofText s = ⟨.here, written [s]⟩ := by
  have unrooted : rootOf s = .here := by
    unfold rootOf
    cases s with
    | nil => rfl
    | cons c rest =>
      rw [List.mem_cons, not_or] at plain
      have hc : (c == CodePoint.char '/') = false := by simpa using Ne.symm plain.1
      simp [hc]
  unfold ofText
  rw [unrooted, Text.pieces_eq_singleton plain]
  rfl

/-- A text that is an ordinary part of a path is the one name that it writes. -/
theorem ofText_name {s : Text} (plain : .char '/' ∉ s) (named : s ≠ "" ∧ s ≠ ".") :
    ofText s = ⟨.here, [s]⟩ := by
  rw [ofText_plain plain]
  simp [written, named]

theorem append_here (p : Path) (names : List Text) :
    p ++ (⟨.here, names⟩ : Path) = { p with names := p.names ++ names } := rfl

/-- Texts without slashes are a path of the names among them. -/
theorem ofTexts_plain {parts : List Text} (plain : ∀ s ∈ parts, .char '/' ∉ s) :
    ofTexts parts = ⟨.here, written parts⟩ := by
  suffices joined : ∀ before : List Text,
      parts.foldl (fun p part => p ++ ofText part) ⟨.here, before⟩ =
        ⟨.here, before ++ written parts⟩ by
    exact joined []
  induction parts with
  | nil =>
    intro before
    simp [written]
  | cons part parts ih =>
    obtain ⟨first, plain⟩ := List.forall_mem_cons.1 plain
    intro before
    rw [List.foldl_cons, ofText_plain first, append_here, ih plain]
    simp only [written, List.append_assoc, ← List.filter_append, List.singleton_append]

/-- Names that do not lead up are appended to where one starts. -/
theorem follow_of_down {here names : List Text} (down : ∀ name ∈ names, name ≠ "..") :
    follow here names = here ++ names := by
  induction names generalizing here with
  | nil => simp [follow]
  | cons name names ih =>
    obtain ⟨first, down⟩ := List.forall_mem_cons.1 down
    have next : follow here (name :: names) = follow (here ++ [name]) names := by
      simp [follow, first]
    rw [next, ih down]
    simp

end Path

/-! ## The directories of outputs -/

/-- The directories that lead to the headers of all components. -/
def Destination.headers : List Text := ["nativeInterop", "cinterop", "headers"]

/-- The directories from the output directory to an output: those of a source set and a package,
or those of a header. -/
inductive Directories : List Text → Prop where
  | source {set : Text} {package : List Text}
      (dotless : ∀ name ∈ set :: "kotlin" :: package, Text.Dotless name) :
      Directories (set :: "kotlin" :: package)
  | header (name : Text) : Directories (Destination.headers ++ [name])

/-- An output lies in directories of one of the two kinds. -/
structure Output.Laid (o : Output) : Prop where
  kind : o.kind ∈ OutputKind.all
  destination : ∃ dirs, Directories dirs ∧ o.destination = ⟨.here, dirs ++ [o.fileName]⟩

/-- A component whose name is an ordinary part of a path, and whose package has no slashes. -/
structure Component.Ordinary (c : Component) : Prop where
  plain : .char '/' ∉ c.interface.component
  named : c.interface.component ≠ "" ∧ c.interface.component ≠ "."
  package : .char '/' ∉ c.package

instance (c : Component) : Decidable c.Ordinary :=
  decidable_of_iff (.char '/' ∉ c.interface.component ∧
      (c.interface.component ≠ "" ∧ c.interface.component ≠ ".") ∧ .char '/' ∉ c.package)
    ⟨fun h => ⟨h.1, h.2.1, h.2.2⟩, fun h => ⟨h.plain, h.named, h.package⟩⟩

/-- The names of source sets have neither slashes nor dots. -/
theorem sourceSet_plain : ∀ variant : Text, .source variant ∈ OutputKind.all →
    ∀ multiplatform, .char '/' ∉ Destination.sourceSet variant multiplatform ∧
      (Destination.sourceSet variant multiplatform ≠ "" ∧
        Destination.sourceSet variant multiplatform ≠ ".") ∧
      .char '.' ∉ Destination.sourceSet variant multiplatform := by
  intro variant h multiplatform
  simp only [OutputKind.all, List.mem_cons, OutputKind.source.injEq, reduceCtorEq,
    List.not_mem_nil, or_false] at h
  rcases h with rfl | rfl | rfl | rfl | rfl <;> cases multiplatform <;> decide +kernel

/-- A package without slashes is a way of one directory for each of its segments. -/
theorem packagePath_plain {package : Text} (plain : .char '/' ∉ package) :
    Destination.packagePath package = ⟨.here, Path.written (Text.pieces '.' package)⟩ := by
  refine Path.ofTexts_plain ?_
  intro piece hpiece slash
  exact plain ((Text.mem_pieces hpiece).2 slash)

/-- A file name stands for itself. -/
theorem Output.ofText_fileName {o : Output} (kind : o.kind ∈ OutputKind.all)
    (plain : .char '/' ∉ o.component) : Path.ofText o.fileName = ⟨.here, [o.fileName]⟩ := by
  obtain ⟨slash, long, -⟩ := suffix_plain _ kind
  have length : 2 ≤ o.fileName.length := by
    rw [fileName_eq, List.length_append]
    omega
  apply Path.ofText_name
  · rw [fileName_eq, List.mem_append, not_or]
    exact ⟨plain, slash⟩
  · constructor
    · intro same
      rw [same] at length
      simp [Text.ofString, Text.ofChars] at length
    · intro same
      rw [same] at length
      simp [Text.ofString, Text.ofChars] at length

/-- The way to a source: its source set, the directories of its package, and its file. -/
theorem Destination.binding_plain {package component variant : Text}
    (kind : .source variant ∈ OutputKind.all) (multiplatform : Bool) (plain : .char '/' ∉ component)
    (plain' : .char '/' ∉ package) : binding package component variant multiplatform =
      ⟨.here, sourceSet variant multiplatform :: "kotlin" ::
        Path.written (Text.pieces '.' package) ++ [fileName component variant]⟩ := by
  obtain ⟨slash, named, -⟩ := sourceSet_plain variant kind multiplatform
  have file : Path.ofText (fileName component variant) = ⟨.here, [fileName component variant]⟩ :=
    @Output.ofText_fileName (.source component package variant multiplatform []) kind plain
  have language : Path.ofText "kotlin" = ⟨.here, ["kotlin"]⟩ :=
    Path.ofText_name (by decide +kernel) (by decide +kernel)
  unfold binding
  rw [Path.ofText_name slash named, language, packagePath_plain plain', file]
  rfl

/-- The way to a header: the directories of all headers, that of its component unless its name
stands for no directory, and its file. -/
theorem Destination.header_plain {component : Text} (plain : .char '/' ∉ component) :
    header component = ⟨.here, headers ++ Path.written [component] ++ [component ++ ".h"]⟩ := by
  have file : Path.ofText (component ++ ".h") = ⟨.here, [component ++ ".h"]⟩ :=
    @Output.ofText_fileName (.header component []) OutputKind.header_mem_all plain
  unfold header
  rw [Path.ofText_plain plain, file]
  rfl

namespace Component.Ordinary

variable {c : Component}

/-- The way to a source of an ordinary component, name by name. -/
theorem binding_eq (h : c.Ordinary) {variant : Text} (kind : .source variant ∈ OutputKind.all)
    (multiplatform : Bool) :
    Destination.binding c.package c.interface.component variant multiplatform =
      ⟨.here, Destination.sourceSet variant multiplatform :: "kotlin" ::
        Path.written (Text.pieces '.' c.package) ++
          [Destination.fileName c.interface.component variant]⟩ :=
  Destination.binding_plain kind multiplatform h.plain h.package

/-- A source of an ordinary component is laid out below the directory of its variant. -/
theorem laid_source (h : c.Ordinary) {variant : Text} (kind : .source variant ∈ OutputKind.all)
    (multiplatform : Bool) (text : Text) :
    (Output.source c.interface.component c.package variant multiplatform text).Laid := by
  obtain ⟨-, -, dot⟩ := sourceSet_plain variant kind multiplatform
  refine ⟨kind, Destination.sourceSet variant multiplatform :: "kotlin" ::
    Path.written (Text.pieces '.' c.package), .source ?_, h.binding_eq kind multiplatform⟩
  refine List.forall_mem_cons.2 ⟨Text.dotless_of_notMem dot, List.forall_mem_cons.2 ⟨?_, ?_⟩⟩
  · exact Text.dotless_of_notMem (by decide +kernel)
  · intro name hname
    exact Text.dotless_of_notMem (Text.mem_pieces (List.mem_filter.1 hname).1).1

/-- A header of an ordinary component is laid out below the directory of all headers. -/
theorem laid_header (h : c.Ordinary) (text : Text) :
    (Output.header c.interface.component text).Laid := by
  refine ⟨OutputKind.header_mem_all, _, .header c.interface.component, ?_⟩
  show Destination.header c.interface.component = _
  rw [Destination.header_plain h.plain]
  simp [Path.written, h.named.1, h.named.2, Output.fileName, Output.header]

/-- The outputs of an ordinary component lie in directories of the two kinds. -/
theorem laid (h : c.Ordinary) {b : Bundle} {o : Output} (ho : o ∈ c.outputs b) : o.Laid := by
  have kind : o.kind ∈ OutputKind.all := sublist_kinds.subset (List.mem_map.2 ⟨o, ho, rfl⟩)
  rcases List.mem_append.1 ho with ho | ho
  · obtain ⟨⟨variant, text⟩, -, rfl⟩ := List.mem_map.1 ho
    exact h.laid_source kind _ _
  · obtain ⟨text, -, rfl⟩ := Option.map_eq_some_iff.1 (Option.mem_toList.1 ho)
    exact h.laid_header text

end Component.Ordinary

/-! ## Files and ways -/

open Destination

namespace Directories

variable {dirs front : List Text}

/-- The directories of all headers have no dots. -/
theorem dotless_headers : ∀ name ∈ headers, Text.Dotless name := by
  unfold Text.Dotless
  decide +kernel

theorem map_canonicalName_header (name : Text) :
    (headers ++ [name]).map Text.canonicalName = headers ++ [Text.canonicalName name] := by
  have kept : headers.map Text.canonicalName = headers := by decide +kernel
  rw [List.map_append, kept, List.map_singleton]

/-- The directory of a header lies below that of all headers, but for a name that leads up again. -/
theorem follow_header (here : List Text) (name : Text) :
    Path.follow here (headers ++ [name]) =
      if name = ".." then here ++ headers.dropLast else here ++ (headers ++ [name]) := by
  rw [Path.follow_append, Path.follow_of_down fun name hname => (dotless_headers name hname).ne_up]
  show (if name = ".." then (here ++ headers).dropLast else here ++ headers ++ [name]) = _
  split
  · exact List.dropLast_append_of_ne_nil (by decide)
  · exact List.append_assoc ..

/-- On the way there are names without dots, but for the last directory of a header. -/
theorem follow_front (h : Directories dirs) (hfront : front <+: dirs.map Text.canonicalName)
    (here : List Text) :
    ∃ names, Path.follow here front = here ++ names ∧
      ((∀ name ∈ names, Text.Dotless name) ∨ ∃ name, names = headers ++ [name]) := by
  have dotless : (∀ name ∈ front, Text.Dotless name) → ∃ names,
      Path.follow here front = here ++ names ∧
        ((∀ name ∈ names, Text.Dotless name) ∨ ∃ name, names = headers ++ [name]) := by
    intro dotless
    refine ⟨front, ?_, .inl dotless⟩
    exact Path.follow_of_down fun name hname => (dotless name hname).ne_up
  cases h with
  | source plain =>
    refine dotless fun name hname => ?_
    obtain ⟨name', hname', rfl⟩ := List.mem_map.1 (hfront.subset hname)
    exact (plain name' hname').canonicalName
  | header name =>
    rw [map_canonicalName_header, List.prefix_concat_iff] at hfront
    rcases hfront with rfl | hfront
    · rw [follow_header]
      split
      · exact ⟨_, rfl, .inl fun name hname =>
          dotless_headers name ((List.dropLast_sublist _).subset hname)⟩
      · exact ⟨_, rfl, .inr ⟨_, rfl⟩⟩
    · exact dotless fun name hname => dotless_headers name (hfront.subset hname)

/-- The directories lead below a source set, or to the directory of a header. -/
theorem follow_all (h : Directories dirs) (here : List Text) :
    ∃ names, Path.follow here (dirs.map Text.canonicalName) = here ++ names ∧
      ((∃ (set : Text) (rest : List Text), names = set :: "kotlin" :: rest) ∨
        (∃ name, names = headers ++ [name]) ∨ names = headers.dropLast) := by
  cases h with
  | @source set package plain =>
    have down : ∀ name ∈ (set :: "kotlin" :: package).map Text.canonicalName, name ≠ ".." := by
      intro name hname
      obtain ⟨name', hname', rfl⟩ := List.mem_map.1 hname
      exact (plain name' hname').canonicalName.ne_up
    have kept : Text.canonicalName "kotlin" = "kotlin" := by decide +kernel
    refine ⟨_, Path.follow_of_down down, .inl ⟨Text.canonicalName set,
      package.map Text.canonicalName, ?_⟩⟩
    rw [List.map_cons, List.map_cons, kept]
  | header name =>
    rw [map_canonicalName_header, follow_header]
    split
    · exact ⟨_, rfl, .inr (.inr rfl)⟩
    · exact ⟨_, rfl, .inr (.inl ⟨_, rfl⟩)⟩

end Directories

namespace Output.Laid

variable {o o' : Output} {cwd dir : Path}

/-- Joined to a directory, an output that is laid out stays below it. -/
theorem names_append (h : o.Laid) (dir : Path) :
    ∃ dirs, Directories dirs ∧
      dir ++ o.destination = { dir with names := dir.names ++ (dirs ++ [o.fileName]) } := by
  obtain ⟨dirs, hdirs, same⟩ := h.destination
  exact ⟨dirs, hdirs, by rw [same]; rfl⟩

/-- An output's way starts where that of the output directory does. -/
theorem start_append (h : o.Laid) (dir : Path) : (dir ++ o.destination).start = dir.start := by
  obtain ⟨dirs, -, same⟩ := h.names_append dir
  rw [same]
  rfl

/-- The steps to a path are those to its directory and the names below it, as they are spelled. -/
theorem steps_append (cwd dir : Path) (names : List Text) :
    Path.steps cwd { dir with names := dir.names ++ names } =
      Path.steps cwd dir ++ names.map Text.canonicalName := by
  rw [Path.steps_eq_start_append, Path.steps_eq_start_append cwd dir, List.map_append,
    List.append_assoc]
  rfl

/-- An output's place: the directories, and then its file. -/
theorem place_eq (h : o.Laid) (cwd dir : Path) :
    ∃ names, Path.place cwd (dir ++ o.destination) =
        Path.place cwd dir ++ names ++ [Text.canonicalName o.fileName] ∧
      ((∃ (set : Text) (rest : List Text), names = set :: "kotlin" :: rest) ∨
        (∃ name, names = headers ++ [name]) ∨ names = headers.dropLast) := by
  obtain ⟨dirs, hdirs, same⟩ := h.names_append dir
  obtain ⟨names, hnames, kind⟩ := hdirs.follow_all (Path.place cwd dir)
  refine ⟨names, ?_, kind⟩
  have down : Text.canonicalName o.fileName ≠ ".." := canonicalName_fileName_ne h.kind
  rw [same]
  show Path.follow [] (Path.steps cwd _) = _
  rw [steps_append, Path.follow_append, List.map_append, Path.follow_append]
  show Path.follow (Path.follow (Path.place cwd dir) _) [Text.canonicalName o.fileName] = _
  rw [hnames]
  simp [Path.follow, down]

/-- The directory of an output that is laid out is below the directory it is joined to. -/
theorem parent_append (h : o.Laid) (dir : Path) :
    ∃ dirs, Directories dirs ∧
      (dir ++ o.destination).parent = { dir with names := dir.names ++ dirs } := by
  obtain ⟨dirs, hdirs, same⟩ := h.names_append dir
  refine ⟨dirs, hdirs, ?_⟩
  rw [same]
  unfold Path.parent
  dsimp only
  rw [← List.append_assoc, List.dropLast_concat]

/-- The way to an output leads to the output directory, and from there through directories. -/
theorem passes_cases (h : o.Laid) {q : List Text}
    (way : Path.Passes cwd (dir ++ o.destination).parent q) :
    Path.Passes cwd dir q ∨ ∃ names, q = Path.place cwd dir ++ names ∧
      ((∀ name ∈ names, Text.Dotless name) ∨ ∃ name, names = headers ++ [name]) := by
  obtain ⟨dirs, hdirs, parent⟩ := h.parent_append dir
  obtain ⟨front, hfront, rfl⟩ := way
  rw [parent, steps_append] at hfront
  rcases List.prefix_or_prefix_of_prefix hfront (List.prefix_append _ _) with short | ⟨rest, rfl⟩
  · exact .inl ⟨front, short, rfl⟩
  · right
    rw [Path.follow_append]
    exact hdirs.follow_front ((List.prefix_append_right_inj _).1 hfront) _

/-- Whatever stands on the way to the output directory stands on the way to every output. -/
theorem passes_parent (h : o.Laid) {q : List Text} (way : Path.Passes cwd dir q) :
    Path.Passes cwd (dir ++ o.destination).parent q := by
  obtain ⟨dirs, -, parent⟩ := h.parent_append dir
  obtain ⟨front, hfront, rfl⟩ := way
  rw [parent]
  exact ⟨front, hfront.trans (steps_append cwd dir dirs ▸ List.prefix_append _ _), rfl⟩

/-- The name of a file has a dot. -/
theorem dotted (h : o.Laid) : ¬Text.Dotless (Text.canonicalName o.fileName) := by
  have suffix : ∀ k ∈ OutputKind.all, (0x2E : UInt8) ∈ Text.bytesOf (suffix k) := by
    decide +kernel
  intro dotless
  unfold Text.Dotless at dotless
  rw [Text.bytesOf_canonicalName, fileName_eq, Text.bytesOf_append] at dotless
  exact dotless (List.mem_append_right _ (suffix _ h.kind))

/-- A file lies on the way to another one only if it lies on the way to the output directory. -/
theorem crossing (h : o.Laid) (h' : o'.Laid)
    (way : Path.Passes cwd (dir ++ o.destination).parent (Path.place cwd (dir ++ o'.destination))) :
    Path.Passes cwd dir (Path.place cwd (dir ++ o'.destination)) := by
  refine (h.passes_cases way).resolve_right ?_
  rintro ⟨names, hplace, kind⟩
  obtain ⟨names', hplace', kind'⟩ := h'.place_eq cwd dir
  rw [hplace', List.append_assoc] at hplace
  have same : names' ++ [Text.canonicalName o'.fileName] = names := List.append_cancel_left hplace
  rcases kind with dotless | ⟨name, rfl⟩
  · have file := dotless (Text.canonicalName o'.fileName) (same ▸ List.mem_append_right _ (by simp))
    exact h'.dotted file
  · have directories : names' = headers := (List.append_inj' same rfl).1
    rcases kind' with ⟨set, rest, rfl⟩ | ⟨name', rfl⟩ | rfl
    · injection directories with _ tail
      injection tail with second _
      exact absurd second (by decide +kernel)
    · exact absurd (congrArg List.length directories) (by simp)
    · exact absurd (congrArg List.length directories) (by decide)

end Output.Laid

end Bindery
