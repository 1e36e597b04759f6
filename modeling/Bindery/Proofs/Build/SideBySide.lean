import Bindery.Proofs.Build.Depth
import Bindery.Proofs.Config.Refusing
import Bindery.Proofs.Linking.Effect
import Bindery.Proofs.Linking.Turns

/-!
# Building side by side

A run may link its components side by side, and emit them side by side after that
(`Build.SideBySide`). Whatever the turns, it ends as a run does that takes the components one after
another, and leaves the same files (`Build.run_side_by_side`). Three things set runs apart: names
that differ as texts but not as bytes, directories that one component makes before another one needs
them when too many are missing at once, and what later components have already written when one
stops the run.
-/

namespace Bindery

open Outcome

/-! ## The record of what was linked -/

/-- Tables of texts can be shown. -/
theorem Value.exists_entryLiterals (packages : List (Text × Text)) (around : List Nat) :
    ∃ shown, Value.entryLiteralsIn around
      (packages.map fun e => (Value.text e.1, Value.text e.2)) = .ok shown := by
  induction packages with
  | nil => exact ⟨[], rfl⟩
  | cons e packages ih =>
    obtain ⟨shown, h⟩ := ih
    refine ⟨(Text.quoted e.1 ++ ": " ++ Text.quoted e.2) :: shown, ?_⟩
    rw [List.map_cons, Value.entryLiteralsIn, h]
    rfl

/-- The table of the packages of a build can always be shown. -/
theorem Value.exists_literal (packages : List (Text × Text)) :
    ∃ shown, (Value.table none
      (packages.map fun e => (Value.text e.1, Value.text e.2))).literal = .ok shown := by
  obtain ⟨shown, h⟩ := exists_entryLiterals packages []
  refine ⟨"\x7b" ++ Text.joined ", " shown ++ "\x7d", ?_⟩
  have apart : isWithin [] none = false := rfl
  simp only [literal, literalIn, apart, Option.toList_none, List.nil_append, h]
  rfl

namespace Build

open Writer

variable {host : Host} {generator : Generator} {force : Bool} {settings : Settings}
variable {interfaces : List Interface} {documents : List Table} {w w₁ w₂ w' : World}

/-- Linking never fails, and leaves a record. -/
theorem link_eq (host : Host) (cdylib : Option Text) (components : List Component) :
    ∃ r, ∀ w, link host cdylib components w =
      (.ok (Linking.link cdylib components).2, w.record host r) := by
  obtain ⟨shown, h⟩ := Value.exists_literal (Linking.link cdylib components).1
  refine ⟨⟨.debug, "Linked " ++ toString components.length ++ " components: " ++ shown, "linker",
    noComponent⟩, fun w => ?_⟩
  unfold link
  dsimp only
  rw [h]
  rfl

/-! ## Runs -/

/-- The components of a run, each with the configuration that its document gives it. -/
def resolved (force : Bool) (interfaces : List Interface) (documents : List Table) :
    Except Failure (List Component) :=
  if interfaces.length ≠ documents.length then .error (.count .documents)
  else (interfaces.zip documents).mapM fun e => component force e.1 e.2

/-- A run resolves its documents, links its components and writes them. -/
theorem run_eq [Stack] (host : Host) (generator : Generator) (force : Bool) (settings : Settings)
    (workers : Int) (interfaces : List Interface) (documents : List Table) :
    run host generator force settings workers interfaces documents =
      Run.ofExcept id (resolved force interfaces documents) >>= fun components =>
        link host settings.cdylib components >>= write host generator settings.writer workers := by
  unfold run resolved
  split <;> rfl

/-- What a run does once its components are known. -/
theorem run_of_resolved [Stack] {components : List Component}
    (found : resolved force interfaces documents = .ok components) (workers : Int) (w : World) :
    run host generator force settings workers interfaces documents w =
      write host generator settings.writer workers (Linking.link settings.cdylib components).2
        (link host settings.cdylib components w).2 := by
  obtain ⟨r, linked⟩ := link_eq host settings.cdylib components
  have resolves : Run.ofExcept id (resolved force interfaces documents) w =
      (.ok components, w) := Run.ofExcept_ok_iff.2 ⟨found, rfl⟩
  rw [run_eq, Run.bind_of_ok resolves, Run.bind_of_ok (linked w), linked w]

/-- Linking leaves the file tree as it is where no file of the log is. -/
theorem tree_link (unlogged : w.log.file = none) (host : Host) (cdylib : Option Text)
    (components : List Component) :
    (link host cdylib components w).2.tree = w.tree ∧
      (link host cdylib components w).2.log.file = none := by
  obtain ⟨r, linked⟩ := link_eq host cdylib components
  rw [linked]
  exact ⟨tree_record unlogged host r, (World.record_keeps host r w).file.trans unlogged⟩

/-- A component is refused when its configuration is. -/
theorem resolve_of_component {interface : Interface} {document : Table} {e : Failure}
    (h : component force interface document = .error e) :
    Config.resolve document force (some interface.component) = .error e := by
  unfold component at h
  cases hc : Config.resolve document force (some interface.component) with
  | ok config =>
    rw [hc] at h
    cases h
  | error e' =>
    rw [hc] at h
    rw [Except.error.inj h]

/-- Components are never missing because one could not be generated. -/
theorem resolved_ne_build {e : BuildError} :
    resolved force interfaces documents ≠ .error (.build e) := by
  intro h
  unfold resolved at h
  split at h
  · cases h
  · have member (entry : Interface × Table) :
        Only Failure.OfDocument (component force entry.1 entry.2) :=
      fun e h => Config.resolve_only _ _ _ e (resolve_of_component h)
    cases only_mapM member _ _ h

/-- How interfaces may be built when their components are linked side by side, and emitted side by
side once all are linked: the components as they were linked, how the run ends, and what it leaves.
-/
inductive SideBySide [Stack] (host : Host) (generator : Generator) (force : Bool)
    (settings : Settings) (interfaces : List Interface) (documents : List Table) (w : World) :
    List Component → Except Failure Report → World → Prop where
  | refused {e : Failure} (unresolved : resolved force interfaces documents = .error e) :
      SideBySide host generator force settings interfaces documents w [] (.error e) w
  | emitted {components : List Component} {p : Pool Unit Linking.Task}
      {outcome : Except Failure Report} {w' : World}
      (found : resolved force interfaces documents = .ok components)
      (leads : Pool.Leads Linking.Task.step (Linking.start settings.cdylib components) p)
      (done : ∀ t ∈ p.tasks, t.isDone = true)
      (scheduled : Scheduled host generator settings.writer (p.tasks.map Linking.Task.component)
        (link host settings.cdylib components w).2 outcome w') :
      SideBySide host generator force settings interfaces documents w
        (p.tasks.map Linking.Task.component) outcome w'

/-- The components may be linked one after another, whatever comes then. -/
theorem sideBySide_of_scheduled [Stack] {components : List Component}
    {outcome : Except Failure Report} (found : resolved force interfaces documents = .ok components)
    (scheduled : Scheduled host generator settings.writer
      (Linking.link settings.cdylib components).2 (link host settings.cdylib components w).2
      outcome w') :
    SideBySide host generator force settings interfaces documents w
      (Linking.link settings.cdylib components).2 outcome w' := by
  obtain ⟨p, leads, done⟩ := Linking.exists_done settings.cdylib components
  rw [← Linking.components_of_leads leads done] at scheduled ⊢
  exact .emitted found leads done scheduled

/-- A run with some number of workers goes as one may go side by side. -/
theorem sideBySide_run [Stack] {workers : Int} {outcome : Except Failure Report}
    (h : run host generator force settings workers interfaces documents w = (outcome, w')) :
    ∃ linked,
      SideBySide host generator force settings interfaces documents w linked outcome w' := by
  cases found : resolved force interfaces documents with
  | error e =>
    rw [run_eq, found] at h
    obtain ⟨rfl, rfl⟩ := Prod.mk.inj h
    exact ⟨[], .refused found⟩
  | ok components =>
    rw [run_of_resolved found] at h
    exact ⟨_, sideBySide_of_scheduled found (scheduled_write h)⟩

/-- What is known of components that were linked side by side. -/
theorem SideBySide.scheduled [Stack] {components linked : List Component}
    {outcome : Except Failure Report}
    (h : SideBySide host generator force settings interfaces documents w linked outcome w')
    (found : resolved force interfaces documents = .ok components) :
    linked = (Linking.link settings.cdylib components).2 ∧ ∀ plan, ∃ w₀,
      World.Within host settings.writer plan [] w w₀ ∧
        Scheduled host generator settings.writer linked w₀ outcome w' := by
  cases h with
  | refused unresolved =>
    rw [found] at unresolved
    cases unresolved
  | emitted found' leads done scheduled =>
    obtain rfl := Except.ok.inj (found.symm.trans found')
    obtain ⟨r, link⟩ := link_eq host settings.cdylib components
    rw [link] at scheduled
    refine ⟨Linking.components_of_leads leads done, fun plan => ⟨_, ?_, scheduled⟩⟩
    exact w.within_record host settings.writer plan r

/-! ## Runs that agree -/

/-- The components are those of the interfaces, in order. -/
theorem interfaces_of_resolved {components : List Component}
    (h : resolved force interfaces documents = .ok components) :
    components.map Component.interface = interfaces := by
  unfold resolved at h
  split at h
  · cases h
  · rename_i same
    have first : (interfaces.zip documents).map Prod.fst = interfaces :=
      List.map_fst_zip (by omega)
    rw [← first]
    have related := mapM_ok_iff.1 h
    clear h first
    generalize interfaces.zip documents = entries at related
    induction related with
    | nil => rfl
    | @cons e c entries components found rest ih =>
      obtain ⟨config, -, rfl⟩ := map_ok_iff.1 found
      rw [List.map_cons, List.map_cons, ih]

/-- Linking leaves a component ordinary. -/
theorem ordinary_linked {cdylib : Option Text} {packages : List (Text × Text)} {c : Component}
    (h : c.Ordinary) : ((c.withNames cdylib).withPackages packages).Ordinary where
  plain := h.plain
  named := h.named
  package := by
    rw [Component.package_withPackages, Component.package_withNames]
    exact h.package

/-- Linking leaves components independent. -/
theorem independent_linked {components : List Component} {writer : Writer}
    (h : Independent host writer components) (cdylib : Option Text) :
    Independent host writer (Linking.link cdylib components).2 where
  steady := h.steady
  ordinary := by
    intro c hc
    obtain ⟨named, hnamed, rfl⟩ := List.mem_map.1 hc
    obtain ⟨c, member, rfl⟩ := List.mem_map.1 hnamed
    exact ordinary_linked (h.ordinary c member)
  distinct := by
    show (((components.map _).map _).map _).Nodup
    rw [List.map_map, List.map_map]
    exact h.distinct

/-- What two runs leave that one component stopped: the outputs of those in front of it are in their
files in both, and a file that the first one left is there in the second one, unless components
behind have put theirs into its place. -/
structure StoppedAlike (host : Host) (generator : Generator) (writer : Writer)
    (front : List Component) (c : Component) (back : List Component) (e : BuildError)
    (w w₁ w₂ : World) : Prop where
  failed : outputs generator c = .error e
  written : ∀ o ∈ plan generator front, w.log.file ≠ some (writer.placeOf host o) →
    ∃ bytes, Text.encode o.text = .ok bytes ∧
      w₁.tree.get? (writer.placeOf host o) = some (.file bytes) ∧
      w₂.tree.get? (writer.placeOf host o) = some (.file bytes)
  kept : ∀ place content, w.log.file ≠ some place →
    place ∉ (plan generator back).map (writer.placeOf host) →
    w₁.tree.get? place = some (.file content) → w₂.tree.get? place = some (.file content)

/-- Two builds that halt at the same component leave alike what the components before it wrote. -/
theorem Halted.alike {writer : Writer} {front back : List Component} {c : Component}
    {e : BuildError} (h : Halted host generator writer w front c back e w₁)
    (h' : Halted host generator writer w front c back e w₂) :
    StoppedAlike host generator writer front c back e w w₁ w₂ := by
  have written : ∀ o ∈ plan generator front, w.log.file ≠ some (writer.placeOf host o) →
      ∃ bytes, Text.encode o.text = .ok bytes ∧
        w₁.tree.get? (writer.placeOf host o) = some (.file bytes) ∧
        w₂.tree.get? (writer.placeOf host o) = some (.file bytes) := by
    intro o ho apart
    obtain ⟨bytes, encodes, holds⟩ := (h.settled o ho).2.holds (by rwa [h.within.keeps.file])
    obtain ⟨bytes', encodes', holds'⟩ := (h'.settled o ho).2.holds (by rwa [h'.within.keeps.file])
    obtain rfl : bytes = bytes' := Except.ok.inj (encodes.symm.trans encodes')
    exact ⟨bytes, encodes, FileTree.kind?_eq_file.1 holds, FileTree.kind?_eq_file.1 holds'⟩
  refine ⟨h.failed, written, ?_⟩
  intro place content apart later there
  by_cases own : place ∈ (plan generator front).map (writer.placeOf host)
  · obtain ⟨o, ho, rfl⟩ := List.mem_map.1 own
    obtain ⟨bytes, -, holds, holds'⟩ := written o ho apart
    rw [holds] at there
    rw [holds', there]
  · have fresh : place ∉ (plan generator (front ++ c :: back)).map (writer.placeOf host) ++
        w.log.file.toList := by
      rw [plan, List.flatMap_append, List.flatMap_cons, planned_of_error h.failed, List.nil_append,
        List.map_append, List.mem_append, List.mem_append, not_or, not_or]
      exact ⟨⟨own, later⟩, by simpa using apart⟩
    rw [← FileTree.kind?_eq_file] at there ⊢
    exact (h'.within.keeps.tree.file_iff fresh).2 ((h.within.keeps.tree.file_iff fresh).1 there)

/-- Runs with whatever turns agree with a run that takes the components as it will, unless too many
directories are missing at first. -/
theorem run_side_by_side [Stack] {workers : Int} {linked : List Component}
    {outcome outcome' : Except Failure Report}
    (ordinary : ∀ components, resolved force interfaces documents = .ok components →
      ∀ c ∈ components, c.Ordinary)
    (distinct : (interfaces.map fun i => Text.bytesOf i.component).Nodup)
    (steady : Steady host settings.writer)
    (h : run host generator force settings workers interfaces documents w = (outcome, w₁))
    (h' : SideBySide host generator force settings interfaces documents w linked outcome' w₂) :
    TooDeep host generator settings.writer linked w outcome' ∨
    (∀ report, outcome = .ok report → ∃ components report',
      resolved force interfaces documents = .ok components ∧
      linked = (Linking.link settings.cdylib components).2 ∧
      outcome' = .ok report' ∧ report'.written = report.written ∧
      report'.warnings.Perm report.warnings ∧
      ∀ place, w.log.file ≠ some place → w₂.tree.kind? place = w₁.tree.kind? place) ∧
    ∀ name reason, outcome = .error (.build ⟨name, .generation reason⟩) →
      outcome' = outcome ∧ ∃ front c back, linked = front ++ c :: back ∧
        StoppedAlike host generator settings.writer front c back ⟨name, .generation reason⟩
          w w₁ w₂ := by
  obtain ⟨linked₁, h⟩ := sideBySide_run h
  cases found : resolved force interfaces documents with
  | error e =>
    cases h with
    | emitted found' => cases found.symm.trans found'
    | refused unresolved =>
      right
      constructor
      · rintro report ⟨⟩
      · rintro name reason ⟨⟩
        exact absurd unresolved resolved_ne_build
  | ok components =>
    have independent : Independent host settings.writer components := by
      refine ⟨steady, ordinary components found, ?_⟩
      rw [← interfaces_of_resolved found, List.map_map] at distinct
      exact distinct
    have independent := independent_linked independent settings.cdylib
    obtain ⟨rfl, starts⟩ := h.scheduled found
    obtain ⟨rfl, starts'⟩ := h'.scheduled found
    obtain ⟨v, within, scheduled⟩ :=
      starts (plan generator (Linking.link settings.cdylib components).2)
    obtain ⟨v', within', scheduled'⟩ :=
      starts' (plan generator (Linking.link settings.cdylib components).2)
    generalize hlinked : (Linking.link settings.cdylib components).2 = linked at *
    refine or_iff_not_imp_left.2 fun shallow => ⟨?_, ?_⟩
    · rintro report rfl
      have all := scheduled.complete independent within
      obtain ⟨report', rfl⟩ := (scheduled'.ok_of_ready independent within' all.generated
        (fun o ho => (all.settled o ho).1) all.formattable).resolve_right shallow
      have all' := scheduled'.complete independent within'
      refine ⟨components, report', rfl, hlinked.symm, rfl, ?_, ?_, ?_⟩
      · rw [all'.written, all.written]
      · exact all'.warnings.trans all.warnings.symm
      · intro place apart
        exact all'.within.kind?_eq_of_saved all.within (fun o => Iff.rfl)
          (fun o ho => (all'.settled o ho).2) (fun o ho => (all.settled o ho).2) place apart
    · rintro name reason rfl
      obtain ⟨front, c, back, rfl, halted⟩ := scheduled.halted independent within
      obtain ⟨rfl, halted'⟩ := (scheduled'.halted_of_failed independent within' halted.generated
        (fun o ho => (halted.settled o ho).1) halted.formattable
        halted.failed).resolve_right shallow
      exact ⟨rfl, front, c, back, rfl, halted.alike halted'⟩

/-! ### Builds of two components -/

/-- A component without members. -/
def named (name package cdylib : Text) : Component where
  interface := { component := name, crateName := name }
  config := { packageName := some package, cdylibName := some cdylib }

/-- A document that a component may be resolved from. -/
def documentOf (c : Component) : Table :=
  [(.text "package_name", .text (c.config.packageName.getD "")),
    (.text "cdylib_name", .text (c.config.cdylibName.getD ""))]

/-- The build of components in a file tree, one after another. -/
def buildInTurn [Stack] (generator : Generator) (writer : Writer) (components : List Component)
    (tree : FileTree) : Except Failure Report × World :=
  run bareHost generator false { writer } 1 (components.map Component.interface)
    (components.map documentOf) { tree }

/-- How the build may go side by side. -/
def MayBuild [Stack] (generator : Generator) (writer : Writer) (components : List Component)
    (tree : FileTree) (outcome : Except Failure Report) (w : World) : Prop :=
  ∃ linked, SideBySide bareHost generator false { writer } (components.map Component.interface)
    (components.map documentOf) { tree } linked outcome w

/-- The world in which components are emitted, once they are linked. -/
def linkedWorld (components : List Component) (tree : FileTree) : World :=
  (link bareHost none components { tree }).2

section Pair

/-- A component that its document gives back. -/
def Named (c : Component) : Prop := ∃ name package cdylib, named name package cdylib = c

variable {c c' : Component} {writer : Writer} {tree : FileTree}

/-- Components that their documents give back are what these resolve to. -/
theorem resolved_named (h : Named c) (h' : Named c') :
    resolved false ([c, c'].map Component.interface) ([c, c'].map documentOf) = .ok [c, c'] := by
  obtain ⟨name, package, cdylib, rfl⟩ := h
  obtain ⟨name', package', cdylib', rfl⟩ := h'
  rfl

/-- So all that is resolved from these documents is ordinary. -/
theorem ordinary_named (h : Named c) (h' : Named c') (ordinary : ∀ d ∈ [c, c'], d.Ordinary) :
    ∀ components, resolved false ([c, c'].map Component.interface) ([c, c'].map documentOf) =
      .ok components → ∀ d ∈ components, d.Ordinary := by
  intro components found
  rw [resolved_named h h'] at found
  rw [← Except.ok.inj found]
  exact ordinary

/-- The first of two components, linked to the second one. -/
def linkedFirst (c c' : Component) : Component := c.withPackages (Linking.packages [c, c'])

/-- The second one, linked to the first. -/
def linkedSecond (c c' : Component) : Component := c'.withPackages (Linking.packages [c, c'])

/-- Linked, each of the two knows the other. -/
theorem link_named (h : Named c) (h' : Named c') :
    (Linking.link none [c, c']).2 = [linkedFirst c c', linkedSecond c c'] := by
  obtain ⟨name, package, cdylib, rfl⟩ := h
  obtain ⟨name', package', cdylib', rfl⟩ := h'
  rfl

/-- Two components that are emitted in turn. -/
theorem buildInTurn_named [Stack] (h : Named c) (h' : Named c') :
    buildInTurn generator writer [c, c'] tree =
      write bareHost generator writer 1 [linkedFirst c c', linkedSecond c c']
        (linkedWorld [c, c'] tree) := by
  unfold buildInTurn
  rw [run_of_resolved (resolved_named h h'), link_named h h']
  rfl

/-- A schedule of the linked components is one of the build. -/
theorem mayBuild_of_scheduled [Stack] (h : Named c) (h' : Named c')
    {outcome : Except Failure Report}
    (scheduled : Scheduled bareHost generator writer [linkedFirst c c', linkedSecond c c']
      (linkedWorld [c, c'] tree) outcome w) :
    MayBuild generator writer [c, c'] tree outcome w := by
  refine ⟨_, sideBySide_of_scheduled (resolved_named h h') ?_⟩
  rw [← link_named h h'] at scheduled
  exact scheduled

/-- What becomes of two linked components when the second one is emitted first. -/
def swapped [Stack] (generator : Generator) (writer : Writer) (c c' : Component) (tree : FileTree) :
    Except Failure (List Path) × World :=
  let second := emit bareHost generator writer (linkedSecond c c') (linkedWorld [c, c'] tree)
  let first := emit bareHost generator writer (linkedFirst c c') second.2
  (do
    let files ← first.1
    let files' ← second.1
    return (files ++ files').map Written.path, first.2)

/-- The two may be built in the other order. -/
theorem mayBuild_swapped [Stack] (h : Named c) (h' : Named c')
    (unlogged : (swapped generator writer c c' tree).2.log.file = none) :
    ∃ both w, MayBuild generator writer [c, c'] tree both w ∧
      w.tree = (swapped generator writer c c' tree).2.tree ∧
      both.map Report.written = (swapped generator writer c c' tree).1 := by
  have second : emit bareHost generator writer (linkedSecond c c') (linkedWorld [c, c'] tree) =
      (_, _) := rfl
  obtain ⟨both, w, scheduled, written, same⟩ := scheduled_swapped second rfl
  exact ⟨both, w, mayBuild_of_scheduled h h' scheduled, same unlogged, written⟩

/-- If that goes well, there is a build side by side that goes well and leaves the same. -/
theorem mayBuild_ok [Stack] (h : Named c) (h' : Named c')
    (ok : (swapped generator writer c c' tree).1.isOk = true)
    (unlogged : (swapped generator writer c c' tree).2.log.file = none) :
    ∃ report w, MayBuild generator writer [c, c'] tree (.ok report) w ∧
      w.tree = (swapped generator writer c c' tree).2.tree := by
  obtain ⟨both, w, mayBuild, same, written⟩ := mayBuild_swapped h h' unlogged
  rw [← written] at ok
  cases both with
  | ok report => exact ⟨report, w, mayBuild, same⟩
  | error e => cases ok

/-- If that fails, there is a build side by side that fails in the same way. -/
theorem mayBuild_error [Stack] (h : Named c) (h' : Named c') {e : Failure}
    (failed : (swapped generator writer c c' tree).1 = .error e)
    (unlogged : (swapped generator writer c c' tree).2.log.file = none) :
    ∃ w, MayBuild generator writer [c, c'] tree (.error e) w ∧
      w.tree = (swapped generator writer c c' tree).2.tree := by
  obtain ⟨both, w, mayBuild, same, written⟩ := mayBuild_swapped h h' unlogged
  rw [failed] at written
  cases both with
  | ok report => cases written
  | error e' =>
    obtain rfl := Except.error.inj written
    exact ⟨w, mayBuild, same⟩

end Pair

/-- A generator that has nothing for one crate, and for others the name of the native library. -/
def without (crate : Text) : Generator := fun config interface =>
  if interface.crateName = crate then .error "no bundle" else libraryName config interface

/-- What stops a build of such a crate. -/
def noBundle (crate : Text) : Failure := .build ⟨crate, .generation "no bundle"⟩

def left : Component := named "left" "shared" "x"

def right : Component := named "right" "shared" "y"

def bad : Component := named "bad" "shared" "z"

/-- Two components of one package are built, and the second one may be emitted first; and one is
built in front of one that cannot be generated, and may be emitted after it. -/
theorem run_side_by_side_swapped :
    (∃ report w₁ report' w₂,
      buildInTurn (without "bad") plainWriter [left, right] .empty = (.ok report, w₁) ∧
      MayBuild (without "bad") plainWriter [left, right] .empty (.ok report') w₂ ∧
      report'.written = report.written ∧
      ∀ place, w₂.tree.kind? place = w₁.tree.kind? place) ∧
    ∃ w₁ w₂ front c back,
      buildInTurn (without "bad") plainWriter [left, bad] .empty = (.error (noBundle "bad"), w₁) ∧
      MayBuild (without "bad") plainWriter [left, bad] .empty (.error (noBundle "bad")) w₂ ∧
      StoppedAlike bareHost (without "bad") plainWriter front c back
        ⟨"bad", .generation "no bundle"⟩ { tree := .empty } w₁ w₂ := by
  have named : Named left ∧ Named right ∧ Named bad :=
    ⟨⟨_, _, _, rfl⟩, ⟨_, _, _, rfl⟩, ⟨_, _, _, rfl⟩⟩
  constructor
  · obtain ⟨report, inTurn⟩ : ∃ report,
        buildInTurn (without "bad") plainWriter [left, right] .empty = (.ok report, _) :=
      Run.exists_of_isOk (by decide +kernel)
    obtain ⟨report', w₂, ⟨linked, sideBySide⟩, -⟩ := mayBuild_ok named.1 named.2.1
      (show (swapped (without "bad") plainWriter left right .empty).1.isOk = true by decide +kernel)
      (by decide +kernel)
    obtain ⟨⟨path, deep⟩, -⟩ | ⟨agree, -⟩ := run_side_by_side
      (ordinary_named named.1 named.2.1 (by decide +kernel)) (by decide +kernel)
      (fun _ _ _ => rfl) inTurn sideBySide
    · cases deep
    obtain ⟨components, report'', -, -, same, written, -, tree⟩ := agree report rfl
    obtain rfl := Except.ok.inj same
    exact ⟨report, _, report', w₂, inTurn, ⟨linked, sideBySide⟩, written,
      fun place => tree place nofun⟩
  · have inTurn : buildInTurn (without "bad") plainWriter [left, bad] .empty =
        (.error (noBundle "bad"), _) := Prod.ext (by decide +kernel) rfl
    obtain ⟨w₂, ⟨linked, sideBySide⟩, -⟩ := mayBuild_error named.1 named.2.2
      (show (swapped (without "bad") plainWriter left bad .empty).1 = .error (noBundle "bad") by
        decide +kernel) (by decide +kernel)
    obtain ⟨⟨path, deep⟩, -⟩ | ⟨-, agree⟩ := run_side_by_side
      (ordinary_named named.1 named.2.2 (by decide +kernel)) (by decide +kernel)
      (fun _ _ _ => rfl) inTurn sideBySide
    · cases deep
    obtain ⟨-, front, c, back, -, alike⟩ := agree "bad" "no bundle" rfl
    exact ⟨_, w₂, front, c, back, inTurn, ⟨linked, sideBySide⟩, alike⟩

/-! ### Builds that are not alike -/

/-- The builds of components side by side end as their build in turn does, and leave the same: all
of it when that ends well, and every file that it leaves when it stops at a component that cannot be
generated. -/
structure Alike [Stack] (generator : Generator) (writer : Writer) (components : List Component)
    (tree : FileTree) : Prop where
  ok : ∀ report w₁ outcome w₂, buildInTurn generator writer components tree = (.ok report, w₁) →
    MayBuild generator writer components tree outcome w₂ →
    outcome.map Report.written = .ok report.written ∧
      ∀ place, w₂.tree.kind? place = w₁.tree.kind? place
  stopped : ∀ name reason w₁ outcome w₂,
    buildInTurn generator writer components tree =
      (.error (.build ⟨name, .generation reason⟩), w₁) →
    MayBuild generator writer components tree outcome w₂ →
    outcome = .error (.build ⟨name, .generation reason⟩) ∧ ∀ place content,
      w₁.tree.kind? place = some (some content) → w₂.tree.kind? place = some (some content)

/-- Components whose names are different segments of paths, each with a crate of its own, and whose
packages have no slashes. -/
def WellNamed (components : List Component) : Prop :=
  (components.map fun c => c.interface.component).Nodup ∧
    (components.map fun c => c.interface.crateName).Nodup ∧
    ∀ c ∈ components, c.interface.component ∉ (["", ".", ".."] : List Text) ∧
      ∀ bad ∈ [CodePoint.char '/', .char '\x00'], bad ∉ c.interface.component ∧ bad ∉ c.package

instance (components : List Component) : Decidable (WellNamed components) :=
  inferInstanceAs (Decidable (_ ∧ _))

def accentedPair : Component × Component :=
  (named accented "shared" "x", named accentedBytes "shared" "yy")

/-- The file of both. -/
def accentedPlace : List Text := ["out", "main", "kotlin", "shared", accented ++ ".common.kt"]

/-- Of two components with the same files the one that is emitted last counts. -/
theorem not_alike_namesakes :
    ¬Alike (without "bad") plainWriter [accentedPair.1, accentedPair.2] .empty := by
  have named : Named accentedPair.1 ∧ Named accentedPair.2 := ⟨⟨_, _, _, rfl⟩, ⟨_, _, _, rfl⟩⟩
  obtain ⟨report, inTurn⟩ : ∃ report, buildInTurn (without "bad") plainWriter
      [accentedPair.1, accentedPair.2] .empty = (.ok report, _) :=
    Run.exists_of_isOk (by decide +kernel)
  have fine : (swapped (without "bad") plainWriter accentedPair.1 accentedPair.2 .empty).1.isOk =
      true := by decide +kernel
  obtain ⟨report', w₂, mayBuild, tree⟩ := mayBuild_ok named.1 named.2 fine (by decide +kernel)
  intro alike
  have same := (alike.ok _ _ _ _ inTurn mayBuild).2 accentedPlace
  rw [tree] at same
  revert same
  decide +kernel

/-- A writer whose output directory lies deep. -/
def deepWriter : Writer where
  outDir := ⟨.here, List.replicate 920 "o"⟩
  formats := false

def near : Component := named "near" "a" "x"

/-- A component in a package of a hundred segments. -/
def far : Component := named "far" (Text.joined "." (List.replicate 100 "a")) "y"

/-- A component in a deep package goes after another one, and not before it. -/
theorem not_alike_deep : ¬Alike (without "bad") deepWriter [near, far] .empty := by
  have named : Named near ∧ Named far := ⟨⟨_, _, _, rfl⟩, ⟨_, _, _, rfl⟩⟩
  have deep : Deep (without "bad") deepWriter (linkedFirst near far) (linkedSecond near far) := by
    decide +kernel
  obtain ⟨fresh, unlogged⟩ : (linkedWorld [near, far] .empty).tree = .empty ∧
      (linkedWorld [near, far] .empty).log.file = none := tree_link rfl bareHost none [near, far]
  have cwd : bareHost.cwd = .top := rfl
  obtain ⟨report, w₁, inTurn⟩ := deep.write_in_order cwd fresh
  obtain ⟨path, w₂, scheduled⟩ := deep.scheduled_far_first cwd fresh unlogged
  rw [← buildInTurn_named named.1 named.2] at inTurn
  intro alike
  cases (alike.ok _ _ _ _ inTurn (mayBuild_of_scheduled named.1 named.2 scheduled)).1

/-- A tree with a file of an earlier build. -/
def stale : FileTree :=
  .dir [("out", .dir [("main", .dir [("kotlin", .dir [("shared", .dir [
    ("right.common.kt", .file "old".toUTF8)])])])])]

/-- The place of that file. -/
def stalePlace : List Text := ["out", "main", "kotlin", "shared", "right.common.kt"]

/-- A component that cannot be generated stops both, but a component behind it may have replaced a
file that was there. -/
theorem not_alike_stale : ¬Alike (without "bad") plainWriter [bad, right] stale := by
  have named : Named bad ∧ Named right := ⟨⟨_, _, _, rfl⟩, ⟨_, _, _, rfl⟩⟩
  have inTurn : buildInTurn (without "bad") plainWriter [bad, right] stale =
      (.error (noBundle "bad"), _) := Prod.ext (by decide +kernel) rfl
  obtain ⟨w₂, mayBuild, tree⟩ := mayBuild_error named.1 named.2
    (show (swapped (without "bad") plainWriter bad right stale).1 = .error (noBundle "bad") by
      decide +kernel) (by decide +kernel)
  intro alike
  have kept := (alike.stopped _ _ _ _ _ inTurn mayBuild).2 stalePlace "old".toUTF8
  rw [tree] at kept
  revert kept
  decide +kernel

/-- Builds side by side are not always alike, though the names of the components differ. -/
theorem side_by_side_differs :
    (WellNamed [accentedPair.1, accentedPair.2] ∧
        ¬Alike (without "bad") plainWriter [accentedPair.1, accentedPair.2] .empty) ∧
      (WellNamed [near, far] ∧ ¬Alike (without "bad") deepWriter [near, far] .empty) ∧
      (WellNamed [bad, right] ∧ ¬Alike (without "bad") plainWriter [bad, right] stale) := by
  refine ⟨⟨?_, not_alike_namesakes⟩, ⟨?_, not_alike_deep⟩, ?_, not_alike_stale⟩
  · decide +kernel
  · decide +kernel
  · decide +kernel

end Build

end Bindery
