import Bindery.Proofs.Build.SideBySide
import Bindery.Proofs.Kotlin.PackageOrder
import Bindery.Proofs.Linking.Order

/-!
# Building in another order

A build of Kotlin sources does not depend on the order of its interfaces, when each has a crate and
a file name of its own (`Build.run_perm`): every component is linked with the same packages, its
bundle is the same, and the same files are left. As in builds side by side, names have to differ as
bytes, and a component that needs too many directories at once may be built after another one has
made some of them, and not before.
-/

namespace Bindery

open Outcome

namespace Build

open Writer

variable {host : Host} {force emitStub : Bool} {settings : Settings} {w w₁ w₂ : World}
variable {pairs pairs' : List (Interface × Table)}

/-- Pairs are resolved one by one, in order. -/
theorem resolved_pairs (force : Bool) (pairs : List (Interface × Table)) :
    resolved force (pairs.map Prod.fst) (pairs.map Prod.snd) =
      pairs.mapM fun e => component force e.1 e.2 := by
  have zipped : (pairs.map Prod.fst).zip (pairs.map Prod.snd) = pairs := by
    rw [List.zip_map']
    exact List.map_id _
  unfold resolved
  rw [if_neg (by simp), zipped]

/-- Interfaces with their documents in another order are resolved in that order. -/
theorem resolved_perm (perm : pairs.Perm pairs') {components : List Component}
    (found : resolved force (pairs.map Prod.fst) (pairs.map Prod.snd) = .ok components) :
    ∃ components', components.Perm components' ∧
      resolved force (pairs'.map Prod.fst) (pairs'.map Prod.snd) = .ok components' := by
  rw [resolved_pairs, mapM_ok_iff] at found
  obtain ⟨components', related, same⟩ := List.perm_comp_forall₂ perm.symm found
  refine ⟨components', same.symm, ?_⟩
  rw [resolved_pairs, mapM_ok_iff]
  exact related

/-- The order of external packages makes no difference to what is generated. -/
theorem kotlin_reordered [Stack] {c c' : Component} (h : c.Reordered c') :
    Generator.kotlin emitStub c'.config c'.interface =
      Generator.kotlin emitStub c.config c.interface := by
  have same : Bundle.generate emitStub
      { c.config with externalPackages := c'.config.externalPackages } c.interface =
        Bundle.generate emitStub c.config c.interface :=
    Bundle.generate_of_sorted h.sorted.symm emitStub
  rw [← h.config] at same
  unfold Generator.kotlin
  rw [h.interface, same]

/-- A component that knows its siblings in another order has the same outputs. -/
theorem outputs_reordered [Stack] {c c' : Component} (h : c.Reordered c') :
    outputs (.kotlin emitStub) c' = outputs (.kotlin emitStub) c := by
  have package : c'.package = c.package := by
    unfold Component.package
    rw [h.interface, h.config]
    rfl
  have multiplatform : c'.config.multiplatform = c.config.multiplatform := by
    rw [h.config]
  unfold outputs
  rw [kotlin_reordered h, h.interface, package, multiplatform]

/-- And so have all components. -/
theorem plan_reordered [Stack] {components components' : List Component}
    (h : List.Forall₂ Component.Reordered components components') :
    plan (.kotlin emitStub) components' = plan (.kotlin emitStub) components := by
  induction h with
  | nil => rfl
  | cons reordered _ ih =>
    rw [plan, List.flatMap_cons, planned, outputs_reordered reordered, ← planned]
    exact congrArg _ ih

/-- The paths that the outputs of a component are written to. -/
def pathsOf (generator : Generator) (writer : Writer) (c : Component) : List Path :=
  (planned generator c).map writer.pathOf

theorem map_pathOf_plan (generator : Generator) (writer : Writer) (components : List Component) :
    (plan generator components).map writer.pathOf = components.flatMap (pathsOf generator writer) :=
  List.map_flatMap

/-- A component that is built in two orders: it is linked with the same packages, and its bundle is
the same. -/
structure BuiltAlike [Stack] (emitStub : Bool) (c c' : Component) : Prop where
  reordered : c.Reordered c'
  bundle : ∃ b, Generator.kotlin emitStub c.config c.interface = .ok b ∧
    Generator.kotlin emitStub c'.config c'.interface = .ok b

/-- Reordered components are built alike when their bundles are generated. -/
theorem forall₂_builtAlike [Stack] {components components' : List Component}
    (h : List.Forall₂ Component.Reordered components components')
    (generated : ∀ c ∈ components, ∃ b, Generator.kotlin emitStub c.config c.interface = .ok b) :
    List.Forall₂ (BuiltAlike emitStub) components components' := by
  induction h with
  | nil => exact .nil
  | @cons c c' components components' reordered _ ih =>
    obtain ⟨b, hb⟩ := generated c List.mem_cons_self
    refine .cons ⟨reordered, b, hb, ?_⟩ (ih fun c hc => generated c (List.mem_cons_of_mem _ hc))
    rw [kotlin_reordered reordered]
    exact hb

/-- Components that are emitted in another order leave the same. -/
theorem Scheduled.perm [Stack] {writer : Writer} {components reordered components' : List Component}
    (independent : Independent host writer components)
    (independent' : Independent host writer components') (perm : components.Perm reordered)
    (related : List.Forall₂ Component.Reordered reordered components') {v v' : World}
    (within : World.Within host writer (plan (.kotlin emitStub) components) [] w v)
    (within' : World.Within host writer (plan (.kotlin emitStub) components') [] w v')
    {report : Report} {outcome : Except Failure Report}
    (h : Scheduled host (.kotlin emitStub) writer components v (.ok report) w₁)
    (h' : Scheduled host (.kotlin emitStub) writer components' v' outcome w₂)
    (shallow : ¬TooDeep host (.kotlin emitStub) writer components' w outcome) :
    List.Forall₂ (BuiltAlike emitStub) reordered components' ∧ ∃ report', outcome = .ok report' ∧
      report.written = components.flatMap (pathsOf (.kotlin emitStub) writer) ∧
      report'.written = reordered.flatMap (pathsOf (.kotlin emitStub) writer) ∧
      ∀ place, w.log.file ≠ some place → w₂.tree.kind? place = w₁.tree.kind? place := by
  have all := h.complete independent within
  have alike : List.Forall₂ (BuiltAlike emitStub) reordered components' := by
    refine forall₂_builtAlike related fun c hc => ?_
    obtain ⟨b, hb, -⟩ := outputs_ok (all.generated c (perm.mem_iff.2 hc))
    exact ⟨b, hb⟩
  have plans : plan (.kotlin emitStub) components' = plan (.kotlin emitStub) reordered :=
    plan_reordered related
  have members : ∀ o, o ∈ plan (.kotlin emitStub) components' ↔
      o ∈ plan (.kotlin emitStub) components := by
    intro o
    rw [plans]
    exact (perm.symm.flatMap_right _).mem_iff
  have generated : ∀ c ∈ components', outputs (.kotlin emitStub) c =
      .ok (planned (.kotlin emitStub) c) := by
    intro c' hc'
    obtain ⟨c, hc⟩ := exists_of_forall₂ alike.flip c' hc'
    obtain ⟨b, -, hb⟩ := hc.bundle
    have generated : outputs (.kotlin emitStub) c' = .ok (c'.outputs b) := by
      unfold outputs
      rw [hb]
      rfl
    rw [planned_of_ok generated]
    exact generated
  refine ⟨alike, ?_⟩
  obtain ⟨report', rfl⟩ := (h'.ok_of_ready independent' within' generated
    (fun o ho => (all.settled o ((members o).1 ho)).1)
    (fun o ho => all.formattable o ((members o).1 ho))).resolve_right shallow
  have all' := h'.complete independent' within'
  refine ⟨report', rfl, ?_, ?_, ?_⟩
  · rw [all.written, map_pathOf_plan]
  · rw [all'.written, plans, map_pathOf_plan]
  · intro place apart
    exact all'.within.kind?_eq_of_saved all.within members
      (fun o ho => (all'.settled o ho).2) (fun o ho => (all.settled o ho).2) place apart

/-- A build in another order ends as well, unless too many directories are missing at first, and
leaves the same. -/
theorem run_perm [Stack] {workers workers' : Int} {report : Report}
    {outcome : Except Failure Report} (perm : pairs.Perm pairs')
    (crates : (pairs.map fun e => e.1.crateName).Nodup)
    (distinct : (pairs.map fun e => Text.bytesOf e.1.component).Nodup)
    (ordinary : ∀ components,
      resolved force (pairs.map Prod.fst) (pairs.map Prod.snd) = .ok components →
        ∀ c ∈ components, c.Ordinary)
    (unformatted : settings.writer.formats = false)
    (h : run host (.kotlin emitStub) force settings workers (pairs.map Prod.fst)
      (pairs.map Prod.snd) w = (.ok report, w₁))
    (h' : run host (.kotlin emitStub) force settings workers' (pairs'.map Prod.fst)
      (pairs'.map Prod.snd) w = (outcome, w₂)) :
    ∃ components components',
      resolved force (pairs.map Prod.fst) (pairs.map Prod.snd) = .ok components ∧
      resolved force (pairs'.map Prod.fst) (pairs'.map Prod.snd) = .ok components' ∧
      components.Perm components' ∧
      (TooDeep host (.kotlin emitStub) settings.writer (Linking.link settings.cdylib components').2
          w outcome ∨
        ∃ reordered report', outcome = .ok report' ∧
          (Linking.link settings.cdylib components).2.Perm reordered ∧
          List.Forall₂ (BuiltAlike emitStub) reordered
            (Linking.link settings.cdylib components').2 ∧
          report.written = (Linking.link settings.cdylib components).2.flatMap
            (pathsOf (.kotlin emitStub) settings.writer) ∧
          report'.written = reordered.flatMap (pathsOf (.kotlin emitStub) settings.writer) ∧
          ∀ place, w.log.file ≠ some place → w₂.tree.kind? place = w₁.tree.kind? place) := by
  obtain ⟨linked, h⟩ := sideBySide_run h
  obtain ⟨linked', h'⟩ := sideBySide_run h'
  cases found : resolved force (pairs.map Prod.fst) (pairs.map Prod.snd) with
  | error e =>
    cases h with
    | emitted found' => cases found.symm.trans found'
  | ok components =>
    obtain ⟨components', permComponents, found'⟩ := resolved_perm perm found
    have names := interfaces_of_resolved found
    have cratesComponents : (components.map fun c => c.interface.crateName).Nodup := by
      have crates' : ((pairs.map Prod.fst).map Interface.crateName).Nodup := by
        rw [List.map_map]
        exact crates
      rw [← names, List.map_map] at crates'
      exact crates'
    have independent : Independent host settings.writer components := by
      refine ⟨fun formats => ?_, ordinary components found, ?_⟩
      · rw [unformatted] at formats
        cases formats
      · have distinct' : ((pairs.map Prod.fst).map fun i => Text.bytesOf i.component).Nodup := by
          rw [List.map_map]
          exact distinct
        rw [← names, List.map_map] at distinct'
        exact distinct'
    have independent' : Independent host settings.writer components' :=
      ⟨independent.steady, fun c hc => independent.ordinary c (permComponents.mem_iff.2 hc),
        (permComponents.map _).nodup_iff.1 independent.distinct⟩
    obtain ⟨reordered, permLinked, related⟩ :=
      Linking.perm_link permComponents cratesComponents settings.cdylib
    obtain ⟨rfl, starts⟩ := h.scheduled found
    obtain ⟨rfl, starts'⟩ := h'.scheduled found'
    obtain ⟨v, within, scheduled⟩ := starts
      (plan (.kotlin emitStub) (Linking.link settings.cdylib components).2)
    obtain ⟨v', within', scheduled'⟩ := starts'
      (plan (.kotlin emitStub) (Linking.link settings.cdylib components').2)
    refine ⟨components, components', rfl, found', permComponents,
      or_iff_not_imp_left.2 fun shallow => ?_⟩
    obtain ⟨alike, report', rfl, written, written', tree⟩ := Scheduled.perm
      (independent_linked independent settings.cdylib)
      (independent_linked independent' settings.cdylib) permLinked related within within'
      scheduled scheduled' shallow
    exact ⟨reordered, report', rfl, permLinked, alike, written, written', tree⟩

/-- Two components of one package may be built in both orders. -/
theorem run_perm_swapped :
    ∃ report w₁ report' w₂ components components' reordered,
      buildInTurn (.kotlin false) plainWriter [left, right] .empty = (.ok report, w₁) ∧
      buildInTurn (.kotlin false) plainWriter [right, left] .empty = (.ok report', w₂) ∧
      components.Perm components' ∧
      List.Forall₂ (BuiltAlike false) reordered (Linking.link none components').2 ∧
      report.written = (Linking.link none components).2.flatMap
        (pathsOf (.kotlin false) plainWriter) ∧
      report'.written = reordered.flatMap (pathsOf (.kotlin false) plainWriter) ∧
      ∀ place, w₂.tree.kind? place = w₁.tree.kind? place := by
  obtain ⟨report, first⟩ : ∃ report,
      buildInTurn (.kotlin false) plainWriter [left, right] .empty = (.ok report, _) :=
    Run.exists_of_isOk (by decide +kernel)
  obtain ⟨report', second⟩ : ∃ report',
      buildInTurn (.kotlin false) plainWriter [right, left] .empty = (.ok report', _) :=
    Run.exists_of_isOk (by decide +kernel)
  have perm : [(left.interface, documentOf left), (right.interface, documentOf right)].Perm
      [(right.interface, documentOf right), (left.interface, documentOf left)] := .swap _ _ _
  have named : Named left ∧ Named right := ⟨⟨_, _, _, rfl⟩, ⟨_, _, _, rfl⟩⟩
  obtain ⟨components, components', -, -, perm, agree⟩ := run_perm perm (by decide +kernel)
    (by decide +kernel) (ordinary_named named.1 named.2 (by decide +kernel)) rfl first second
  obtain ⟨⟨path, deep⟩, -⟩ | ⟨reordered, report'', same, -, alike, written, written', tree⟩ := agree
  · cases deep
  obtain rfl := Except.ok.inj same
  exact ⟨report, _, report', _, components, components', reordered, first, second, perm, alike,
    written, written', fun place => tree place nofun⟩

/-! ### Orders that matter -/

/-- The file of two components with different names. -/
def accentedJvm : List Text := ["out", "main", "kotlin", "shared", accented ++ ".jvm.kt"]

/-- How many bytes the file at a place has. -/
def sizeAt (w : World) (place : List Text) : Option (Option Nat) :=
  (w.tree.kind? place).map (Option.map ByteArray.size)

/-- Of two components with the same files the one that is built last counts. -/
theorem namesakes_reordered :
    ∃ report w₁ report' w₂,
      buildInTurn (.kotlin false) plainWriter [accentedPair.1, accentedPair.2] .empty =
        (.ok report, w₁) ∧
      buildInTurn (.kotlin false) plainWriter [accentedPair.2, accentedPair.1] .empty =
        (.ok report', w₂) ∧
      w₁.tree.kind? accentedJvm ≠ w₂.tree.kind? accentedJvm := by
  -- The names of the libraries are not of one length.
  obtain ⟨ok, ok', sizes⟩ :
      (buildInTurn (.kotlin false) plainWriter [accentedPair.1, accentedPair.2] .empty).1.isOk ∧
      (buildInTurn (.kotlin false) plainWriter [accentedPair.2, accentedPair.1] .empty).1.isOk ∧
      sizeAt (buildInTurn (.kotlin false) plainWriter
          [accentedPair.1, accentedPair.2] .empty).2 accentedJvm ≠
        sizeAt (buildInTurn (.kotlin false) plainWriter
          [accentedPair.2, accentedPair.1] .empty).2 accentedJvm := by
    decide +kernel
  obtain ⟨report, first⟩ : ∃ report, buildInTurn (.kotlin false) plainWriter
      [accentedPair.1, accentedPair.2] .empty = (.ok report, _) := Run.exists_of_isOk ok
  obtain ⟨report', second⟩ : ∃ report', buildInTurn (.kotlin false) plainWriter
      [accentedPair.2, accentedPair.1] .empty = (.ok report', _) := Run.exists_of_isOk ok'
  refine ⟨report, _, report', _, first, second, fun same => sizes ?_⟩
  exact congrArg (Option.map (Option.map ByteArray.size)) same

/-- A component in a deep package goes after another one, and not before it. -/
theorem deep_reordered :
    ∃ report w₁ path w₂,
      buildInTurn (.kotlin false) deepWriter [near, far] .empty = (.ok report, w₁) ∧
      buildInTurn (.kotlin false) deepWriter [far, near] .empty =
        (.error (.file ⟨.tooDeep, path⟩), w₂) := by
  have named : Named near ∧ Named far := ⟨⟨_, _, _, rfl⟩, ⟨_, _, _, rfl⟩⟩
  have deep : Deep (.kotlin false) deepWriter (linkedFirst near far) (linkedSecond near far) := by
    decide +kernel
  obtain ⟨fresh, -⟩ : (linkedWorld [near, far] .empty).tree = .empty ∧ _ :=
    tree_link rfl bareHost none [near, far]
  obtain ⟨fresh', unlogged⟩ : (linkedWorld [far, near] .empty).tree = .empty ∧
      (linkedWorld [far, near] .empty).log.file = none := tree_link rfl bareHost none [far, near]
  have cwd : bareHost.cwd = .top := rfl
  obtain ⟨report, w₁, first⟩ := deep.write_in_order cwd fresh
  obtain ⟨path, w₂, second⟩ := deep.write_far_first cwd fresh' unlogged
  refine ⟨report, w₁, path, w₂, ?_, ?_⟩
  · rw [buildInTurn_named named.1 named.2]
    exact first
  · have linked : linkedFirst far near = linkedSecond near far ∧
        linkedSecond far near = linkedFirst near far := ⟨rfl, rfl⟩
    rw [buildInTurn_named named.2 named.1, linked.1, linked.2]
    exact second

/-- Builds do not always agree with those in another order, though the names and the crates of the
components differ. -/
theorem order_matters :
    (WellNamed [accentedPair.1, accentedPair.2] ∧
      ∃ report w₁ report' w₂,
        buildInTurn (.kotlin false) plainWriter [accentedPair.1, accentedPair.2] .empty =
          (.ok report, w₁) ∧
        buildInTurn (.kotlin false) plainWriter [accentedPair.2, accentedPair.1] .empty =
          (.ok report', w₂) ∧
        w₁.tree.kind? accentedJvm ≠ w₂.tree.kind? accentedJvm) ∧
    (WellNamed [near, far] ∧
      ∃ report w₁ path w₂,
        buildInTurn (.kotlin false) deepWriter [near, far] .empty = (.ok report, w₁) ∧
        buildInTurn (.kotlin false) deepWriter [far, near] .empty =
          (.error (.file ⟨.tooDeep, path⟩), w₂)) := by
  refine ⟨⟨?_, namesakes_reordered⟩, ?_, deep_reordered⟩
  · decide +kernel
  · decide +kernel

end Build

end Bindery
