import Bindery.Proofs.Build.Stopping

/-!
# What a stopped build leaves behind

A sequential build that stops names one component (`Build.Aborted`). The files of the components
in front of it hold their texts, and so do those of its own that were written before the one that
the file system refused. Nothing else was touched but the file of the log: at any other place
there is what was there before, or a directory where nothing was (`World.Leaves`). As for a build
that ends well, the names of the components have to differ as names of files.
-/

namespace Bindery

/-- A later world has at a place what was there before, but that a directory may have been made
where nothing was. This says nothing about the file of the log. -/
def World.Leaves (w w' : World) (place : List Text) : Prop :=
  w.log.file ≠ some place →
    w'.tree.kind? place = w.tree.kind? place ∨
      w.tree.kind? place = none ∧ w'.tree.kind? place = some none

/-- A place that is none of those touched is left as it was, but for new directories. -/
theorem World.Keeps.leaves {touched : List (List Text)} {w w' : World}
    (h : World.Keeps touched w w') {place : List Text} (fresh : place ∉ touched) :
    w.Leaves w' place := by
  intro apart
  apply h.tree.rest
  rw [List.mem_append, not_or]
  exact ⟨fresh, by simpa using apart⟩

namespace Build

variable {host : Host} {generator : Generator} {writer : Writer} {w w' : World}

/-- The state that a build leaves which stopped at the component `c`, after those in front of it
and `written` of its own outputs. -/
structure Aborted (host : Host) (generator : Generator) (writer : Writer)
    (components : List Component) (e : BuildError) (w w' : World) (front : List Component)
    (c : Component) (back : List Component) (bundles : List Bundle) (written rest : List Output) :
    Prop where
  order : components = front ++ c :: back
  name : e.component = c.interface.component
  generated : List.Forall₂ (fun c b => generator c.config c.interface = .ok b) front bundles
  stops : Stops generator writer c e.problem written rest
  holds : (∀ o ∈ outputsOf front bundles ++ written, w.log.file ≠ some (writer.placeOf host o)) →
    ∀ o ∈ outputsOf front bundles ++ written, ∃ bytes, Text.encode o.text = .ok bytes ∧
      w'.tree.bytesOf host.cwd (writer.pathOf o) = .ok bytes
  unwritten : ∀ o ∈ rest, w.Leaves w' (writer.placeOf host o)
  ungenerated : written = [] → ∀ b, ∀ o ∈ c.outputs b, w.Leaves w' (writer.placeOf host o)
  later : ∀ c' ∈ back, ∀ b, ∀ o ∈ c'.outputs b, w.Leaves w' (writer.placeOf host o)
  elsewhere : ∀ place ∉ (outputsOf front bundles ++ written).map (writer.placeOf host),
    w.Leaves w' place

/-- What a component that stops has written and has left are all its outputs, or it has none. -/
theorem Stops.exists_outputs {c : Component} {problem : BuildProblem} {written rest : List Output}
    (h : Stops generator writer c problem written rest) :
    written = [] ∧ rest = [] ∨ ∃ b, c.outputs b = written ++ rest := by
  cases h with
  | generation failed => exact .inl ⟨rfl, rfl⟩
  | write generated order => exact .inr ⟨_, order⟩

/-- What was written of some components leaves alone the outputs of all others. -/
theorem leaves_of_apart {front back : List Component} (apart : Apart (front ++ back))
    {outputs : List Output} (keeps : World.Keeps (outputs.map (writer.placeOf host)) w w')
    (owned : ∀ o ∈ outputs, ∃ c ∈ front, ∃ b, o ∈ c.outputs b) {c : Component} (hc : c ∈ back)
    {b : Bundle} {o : Output} (ho : o ∈ c.outputs b) : w.Leaves w' (writer.placeOf host o) := by
  apply keeps.leaves
  intro hp
  obtain ⟨o', ho', same⟩ := List.mem_map.1 hp
  obtain ⟨c', hc', b', ho'⟩ := owned o' ho'
  exact apart.place_ne hc' hc ho' ho host.cwd writer.outDir same

/-- The outputs of the components in front, and all of the one that stopped, have places of their
own. -/
theorem Stops.nodup_places (host : Host) {front : List Component} {c : Component}
    (apart : Apart (front ++ [c]))
    {bundles : List Bundle} (length : front.length = bundles.length) {problem : BuildProblem}
    {written rest : List Output} (h : Stops generator writer c problem written rest) :
    ((outputsOf front bundles ++ (written ++ rest)).map (writer.placeOf host)).Nodup := by
  rcases h.exists_outputs with ⟨rfl, rfl⟩ | ⟨b, hb⟩
  · have apartFront := apart.sublist (List.sublist_append_left _ _)
    rw [List.append_nil, List.append_nil]
    exact Bindery.nodup_places apartFront.plain apartFront.distinct host.cwd writer.outDir
  · rw [← hb, ← outputsOf_concat length]
    exact Bindery.nodup_places apart.plain apart.distinct host.cwd writer.outDir

/-- A sequential build that stops leaves behind what was written before, and nothing else. -/
theorem state_of_stopped [Stack] {workers : Int} {components : List Component} {e : BuildError}
    (sequential : ¬1 < workers)
    (plain : ∀ c ∈ components, .char '/' ∉ c.interface.component)
    (distinct : (components.map fun c => Text.bytesOf c.interface.component).Nodup)
    (h : write host generator writer workers components w = (.error (.build e), w')) :
    ∃ front c back bundles written rest,
      Aborted host generator writer components e w w' front c back bundles written rest := by
  obtain ⟨front, c, back, bundles, written, rest, rfl, name, generated, stops, wrote⟩ :=
    write_error sequential h
  have apart : Apart (front ++ c :: back) := ⟨plain, distinct⟩
  have apartConcat : Apart ((front ++ [c]) ++ back) := by simpa using apart
  have apartWritten : Apart (front ++ [c]) := apartConcat.sublist (List.sublist_append_left _ _)
  have places := stops.nodup_places host apartWritten generated.length_eq
  rw [← List.append_assoc, List.map_append] at places
  obtain ⟨placesWritten, -, apartRest⟩ := List.nodup_append.1 places
  refine ⟨front, c, back, bundles, written, rest, rfl, name, generated, stops, ?_, ?_, ?_, ?_, ?_⟩
  · intro apartLog o ho
    obtain ⟨bytes, hbytes, holds⟩ := wrote.holds placesWritten apartLog o ho
    exact ⟨bytes, hbytes, holds.bytesOf⟩
  · intro o ho
    apply wrote.keeps.leaves
    intro hp
    exact apartRest _ hp _ (List.mem_map_of_mem ho) rfl
  · rintro rfl b o ho
    refine leaves_of_apart apart wrote.keeps ?_ List.mem_cons_self ho
    rw [List.append_nil]
    exact fun o' ho' => exists_component ho'
  · intro c' hc' b o ho
    refine leaves_of_apart apartConcat wrote.keeps ?_ hc' ho
    intro o' ho'
    rcases List.mem_append.1 ho' with ho' | ho'
    · obtain ⟨c₀, hc₀, ho'⟩ := exists_component ho'
      exact ⟨c₀, List.mem_append_left _ hc₀, ho'⟩
    · rcases stops.exists_outputs with ⟨rfl, -⟩ | ⟨b', hb'⟩
      · exact absurd ho' List.not_mem_nil
      · exact ⟨c, by simp, b', hb' ▸ List.mem_append_left _ ho'⟩
  · intro place hp
    exact wrote.keeps.leaves hp

/-- A generator whose bundles hold the name of the native library twice. Without a library there
is no bundle. -/
def libraryNames : Generator := fun c _ =>
  match c.cdylibName with
  | some name => .ok { common := name, jvm := some name }
  | none => .error "no library"

/-- A tree where a directory stands in the way of the second file of a component. -/
def obstructed : FileTree :=
  .dir [("out", .dir [("main", .dir [("kotlin", .dir [("shared", .dir [
    ("right.jvm.kt", .dir [])])])])])]

/-- The file that `obstructed` does not let be written. -/
def obstructedPath : Path := ⟨.here, ["out", "main", "kotlin", "shared", "right.jvm.kt"]⟩

/-- A build stops at the second of three components, when the first of its files is written. -/
theorem state_of_stopped_obstructed :
    ∃ e w' front c back bundles written rest,
      write bareHost libraryNames plainWriter 1
        [shared "left" "x", shared "right" "y", shared "later" "z"] { tree := obstructed } =
          (.error (.build e), w') ∧
      e = ⟨"right", .write ⟨.isDirectory, obstructedPath⟩⟩ ∧
      Aborted bareHost libraryNames plainWriter
        [shared "left" "x", shared "right" "y", shared "later" "z"] e { tree := obstructed } w'
        front c back bundles written rest := by
  have stopped : write bareHost libraryNames plainWriter 1
      [shared "left" "x", shared "right" "y", shared "later" "z"] { tree := obstructed } =
        (.error (.build ⟨"right", .write ⟨.isDirectory, obstructedPath⟩⟩), _) :=
    Prod.ext (by decide +kernel) rfl
  obtain ⟨front, c, back, bundles, written, rest, state⟩ :=
    state_of_stopped (by decide) (by decide +kernel) (by decide +kernel) stopped
  exact ⟨_, _, front, c, back, bundles, written, rest, stopped, rfl, state⟩

/-- A component that names no library. -/
def unlinked : Component where
  interface := { component := "unlinked", crateName := "unlinked" }
  config := { packageName := some "shared" }

/-- Three components with different names, where the files of the first two are the same, and the
third one stops the build: what was generated for the first is not there. -/
theorem namesake_replaced_when_stopped :
    [accented, accentedBytes, "unlinked"].Nodup ∧
      (∀ name ∈ [accented, accentedBytes, "unlinked"], name ≠ "" ∧ name ≠ "." ∧ name ≠ ".." ∧
        .char '/' ∉ name ∧ .char '\x00' ∉ name) ∧
      ∃ w',
        write bareHost libraryNames plainWriter 1
          [shared accented "x", shared accentedBytes "y", unlinked] { tree := .dir [] } =
            (.error (.build ⟨"unlinked", .generation "no library"⟩), w') ∧
        w'.tree.bytesOf bareHost.cwd (plainWriter.outDir ++
          Destination.binding "shared" accented "common" false) = .ok "y".toUTF8 ∧
        Text.encode "x" = .ok "x".toUTF8 ∧ "x".toUTF8 ≠ "y".toUTF8 := by
  refine ⟨by decide, by decide, _, Prod.ext (by decide +kernel) rfl, ?_, by decide +kernel,
    by decide +kernel⟩
  decide +kernel

end Build

end Bindery
