import Bindery.Proofs.Build.Order
import Bindery.Proofs.Build.Reporting
import Bindery.Proofs.Kotlin.Headings
import Bindery.Proofs.Linking.Names

/-!
# One package for each component

A component's package is worked out when the component is linked, when its sources are generated,
when they are laid into directories, and when another component imports them. In a build of Kotlin
sources that ends well it is the same everywhere (`Build.packages_agree`): the package in effect for
the component as its document configures it. Only where a component's own document says another
package for a crate does that component import that one.
-/

namespace Bindery

open Outcome Kotlin

/-- The directories of a package. -/
def Destination.segments (package : Text) : List Text :=
  (Text.pieces '.' package).filter fun name => name != ""

/-- No segment of a package is a dot, so only empty ones fall away. -/
theorem Destination.written_pieces (package : Text) :
    Path.written (Text.pieces '.' package) = segments package := by
  refine List.filter_congr fun piece mem => ?_
  have undotted : piece ≠ "." := by
    rintro rfl
    exact (Text.mem_pieces mem).1 (by decide +kernel)
  rw [bne_iff_ne.2 undotted, Bool.and_true]

/-- A source of a component that goes by the component's package, among the components of its
build: what it opens with, where it lies, and what it imports of the others. -/
structure Component.Source (components : List Component) (c : Component) (o : Output) : Prop where
  opens : preamble ++ [packageLine c.package] <+: o.text.lines
  lies : ∃ variant, o.kind = .source variant ∧
    o.destination = ⟨.here, Destination.sourceSet variant c.config.multiplatform :: "kotlin" ::
      Destination.segments c.package ++ [o.fileName]⟩
  imports : ∀ d ∈ components, d.interface.crateName ≠ c.interface.crateName →
    Assoc.get? d.interface.crateName c.config.externalPackages = none →
      importLine d.package ∈ o.text.lines
  pinned : ∀ crate package, Assoc.get? crate c.config.externalPackages = some package →
    package.Solid → importLine package ∈ o.text.lines

/-- A component that was linked and generated, and still goes by its package. -/
structure Component.Packaged [Stack] (emitStub : Bool) (components : List Component)
    (c c' : Component) : Prop where
  package : c'.package = c.package
  generated : ∃ b, Generator.kotlin emitStub c'.config c'.interface = .ok b
  sources : ∀ o ∈ Build.planned (.kotlin emitStub) c', o.isSource = true → c.Source components o

namespace Component

variable {emitStub : Bool} {cdylib : Option Text} {components : List Component}
variable {c c' d : Component} {b : Bundle} {o : Output} {crate package : Text}

/-- An output that is a source comes from one of the sources of the bundle. -/
theorem exists_source (ho : o ∈ c.outputs b) (source : o.isSource = true) :
    ∃ e ∈ b.sources, .source e.1 ∈ OutputKind.all ∧
      o = .source c.interface.component c.package e.1 c.config.multiplatform e.2 := by
  have kind : o.kind ∈ OutputKind.all := sublist_kinds.subset (List.mem_map.2 ⟨o, ho, rfl⟩)
  rcases List.mem_append.1 ho with ho | ho
  · obtain ⟨e, he, rfl⟩ := List.mem_map.1 ho
    exact ⟨e, he, kind, rfl⟩
  · obtain ⟨text, -, rfl⟩ := Option.map_eq_some_iff.1 (Option.mem_toList.1 ho)
    cases source

/-- What a component says about a crate, it says when it is linked. -/
theorem Linked.mem_pinned (linked : c.Linked cdylib (Linking.packages components) c')
    (pinned : Assoc.get? crate c.config.externalPackages = some package) :
    (crate, package) ∈ c'.config.externalPackages := by
  apply Assoc.mem_of_get?
  rw [linked.get?_externalPackages, pinned]
  rfl

/-- Of a crate that it says nothing about, a linked component knows the package in effect. -/
theorem Linked.mem_unpinned (linked : c.Linked cdylib (Linking.packages components) c')
    (crates : (components.map fun c => c.interface.crateName).Nodup) (mem : d ∈ components)
    (other : d.interface.crateName ≠ c.interface.crateName)
    (unpinned : Assoc.get? d.interface.crateName c.config.externalPackages = none) :
    (d.interface.crateName, d.package) ∈ c'.config.externalPackages := by
  apply Assoc.mem_of_get?
  rw [linked.get?_externalPackages, unpinned, if_neg other,
    Linking.lastOf_of_nodup mem crates]
  rfl

/-- A linked component that is generated goes by the package that it had. -/
theorem Linked.packaged [Stack] (linked : c.Linked cdylib (Linking.packages components) c')
    (crates : (components.map fun c => c.interface.crateName).Nodup) (ordinary : c.Ordinary)
    (member : c ∈ components) (solid : ∀ d ∈ components, d.package.Solid)
    (generated : (Build.outputs (.kotlin emitStub) c').isOk = true) :
    c.Packaged emitStub components c' := by
  obtain ⟨b, generated, plan⟩ := Build.outputs_ok (Build.planned_of_isOk generated)
  refine ⟨linked.package, ⟨b, generated⟩, fun o ho source => ?_⟩
  rw [← plan] at ho
  obtain ⟨⟨variant, text⟩, he, kind, rfl⟩ := exists_source ho source
  have headed : Headed c'.config c'.interface text :=
    Bundle.headed_sources (mapError_ok_iff.1 generated) _ he
  have effective : c'.config.packageFor c'.interface.component = c.package := linked.package
  constructor
  · have opens := headed.opens (by rw [effective]; exact solid c member)
      (Config.packageFor_ne_nil _ _)
    rw [effective] at opens
    exact opens
  · refine ⟨variant, rfl, ?_⟩
    have same : c'.config.multiplatform = c.config.multiplatform := by rw [← linked.others]
    show Destination.binding _ _ _ _ = _
    rw [linked.package, linked.interface, same, ordinary.binding_eq kind,
      Destination.written_pieces]
    rfl
  · intro d hd other unpinned
    exact headed.imports (linked.mem_unpinned crates hd other unpinned)
      (solid d hd).newline_notMem
  · intro crate package pinned plain
    exact headed.imports (linked.mem_pinned pinned) plain.newline_notMem

end Component

namespace Build

open Writer

variable {host : Host} {force emitStub : Bool} {settings : Settings} {w w' : World}
variable {interfaces : List Interface} {documents : List Table}

/-- In a build of Kotlin sources that ends well, in whatever turns its components are linked and
emitted, every component goes by one package, the one in effect as it was resolved. The sources that
are reported have it in their text and in their directories, and other components import it unless
their own documents say another one. Where names differ as bytes, the files are there as they were
generated. -/
theorem packages_agree [Stack] {linked : List Component} {report : Report}
    (crates : (interfaces.map Interface.crateName).Nodup)
    (ordinary : ∀ components, resolved force interfaces documents = .ok components →
      ∀ c ∈ components, c.Ordinary ∧ c.package.Solid)
    (h : SideBySide host (.kotlin emitStub) force settings interfaces documents w linked
      (.ok report) w') :
    ∃ components, resolved force interfaces documents = .ok components ∧
      List.Forall₂ (Component.Packaged emitStub components) components linked ∧
      report.written = linked.flatMap (pathsOf (.kotlin emitStub) settings.writer) ∧
      ((interfaces.map fun i => Text.bytesOf i.component).Nodup → Steady host settings.writer →
        ∀ o ∈ plan (.kotlin emitStub) linked,
          w.log.file ≠ some (settings.writer.placeOf host o) →
            ∃ bytes, Text.encode o.text = .ok bytes ∧
              w'.tree.get? (settings.writer.placeOf host o) = some (.file bytes)) := by
  cases found : resolved force interfaces documents with
  | error e =>
    cases h with
    | emitted found' => cases found.symm.trans found'
  | ok components =>
    obtain ⟨rfl, starts⟩ := h.scheduled found
    obtain ⟨w₀, within, scheduled⟩ := starts
      (plan (.kotlin emitStub) (Linking.link settings.cdylib components).2)
    obtain ⟨generated, written⟩ := scheduled.reported
    have all := ordinary components found
    have names := interfaces_of_resolved found
    refine ⟨components, rfl, ?_, ?_, fun distinct steady o ho apart => ?_⟩
    · rw [← names, List.map_map] at crates
      rw [Linking.linked_eq_map] at generated ⊢
      rw [List.forall₂_map_right_iff, List.forall₂_same]
      intro c hc
      have linked : c.Linked settings.cdylib (Linking.packages components)
          ((c.withNames settings.cdylib).withPackages (Linking.packages components)) :=
        Component.linked_withNames_withPackages (Linking.nodup_packages components) c
      refine linked.packaged crates (all c hc).1 hc (fun d hd => (all d hd).2) ?_
      rw [generated _ (List.mem_map_of_mem hc)]
      rfl
    · rw [written, map_pathOf_plan]
    · have independent : Independent host settings.writer components := by
        refine ⟨steady, fun c hc => (all c hc).1, ?_⟩
        rw [← names, List.map_map] at distinct
        exact distinct
      have complete := scheduled.complete (independent_linked independent settings.cdylib) within
      obtain ⟨bytes, encodes, holds⟩ :=
        (complete.settled o ho).2.holds (by rwa [complete.within.keeps.file])
      exact ⟨bytes, encodes, FileTree.kind?_eq_file.1 holds⟩

/-- A component with the default package, and one whose document says another package for the first
one's crate. -/
def pinning : List Component :=
  [⟨{ component := "alpha", crateName := "alpha" }, {}⟩,
    ⟨{ component := "beta", crateName := "beta" },
      { packageName := some "org..beta", externalPackages := [("alpha", "org.alpha")] }⟩]

/-- The documents of both. -/
def pinningDocuments : List Table :=
  [[], [(.text "package_name", .text "org..beta"),
    (.text "external_packages", .table none [(.text "alpha", .text "org.alpha")])]]

/-- Of two components one is imported by its package, and the other one by the package that the
first one's document says. -/
theorem packages_agree_pinned :
    ∃ report w' linked,
      run bareHost (.kotlin true) false { writer := plainWriter } 1
        (pinning.map Component.interface) pinningDocuments { tree := .empty } =
          (.ok report, w') ∧
      List.Forall₂ (Component.Packaged true pinning) pinning linked ∧
      report.written = linked.flatMap (pathsOf (.kotlin true) plainWriter) ∧
      ∀ o ∈ plan (.kotlin true) linked, ∃ bytes, Text.encode o.text = .ok bytes ∧
        w'.tree.get? (plainWriter.placeOf bareHost o) = some (.file bytes) := by
  obtain ⟨report, built⟩ : ∃ report,
      run bareHost (.kotlin true) false { writer := plainWriter } 1
        (pinning.map Component.interface) pinningDocuments { tree := .empty } =
          (.ok report, _) := Run.exists_of_isOk (by decide +kernel)
  obtain ⟨linked, sideBySide⟩ := sideBySide_run built
  have found : resolved false (pinning.map Component.interface) pinningDocuments =
      .ok pinning := rfl
  have ordinary : ∀ c ∈ pinning, c.Ordinary ∧ c.package.Solid := by decide +kernel
  obtain ⟨components, found', packaged, written, files⟩ := packages_agree (by decide +kernel)
    (fun components found' => Except.ok.inj (found.symm.trans found') ▸ ordinary) sideBySide
  obtain rfl := Except.ok.inj (found.symm.trans found')
  exact ⟨report, _, linked, built, packaged, written,
    fun o ho => files (by decide +kernel) (fun _ _ _ => rfl) o ho nofun⟩

end Build

end Bindery
