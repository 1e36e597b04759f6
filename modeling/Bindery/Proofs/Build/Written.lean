import Bindery.Proofs.Build.Running

/-!
# A build writes its bundles and loses none

A sequential build that ends well writes the outputs of all components in order, each at a path
of its own, and in the end every file written holds the text that was generated for it, while
nothing else is touched but the file of the log. The names of the components have to differ as
names of files: two texts may write the same bytes, and then the second component's files replace
those of the first.
-/

namespace Bindery

open Outcome

namespace Run

/-- The computation that ends in one way, in whatever world. -/
def ended {α : Type} (outcome : Except Failure α) : Run α := fun w => (outcome, w)

/-- A failure that is only renamed is still one. -/
theorem rethrow_ok {α : Type} {x : Run α} {rename : Failure → Failure} {w w' : World} {a : α}
    (h : tryCatch x (fun e => throw (rename e)) w = (.ok a, w')) : x w = (.ok a, w') := by
  have caught : tryCatch x (fun e => throw (rename e)) w =
      tryCatch (ended (x w).1) (fun e => throw (rename e)) (x w).2 := rfl
  rw [caught] at h
  cases hx : x w with
  | mk outcome w₁ =>
    rw [hx] at h
    cases outcome with
    | ok a => exact h
    | error e => cases h

/-- A computation ends well when its outcome is none of the failures. -/
theorem exists_of_isOk {α : Type} {x : Run α} {w : World} (h : (x w).1.isOk = true) :
    ∃ a, x w = (.ok a, (x w).2) := by
  cases hx : x w with
  | mk outcome w₁ =>
    rw [hx] at h
    cases outcome with
    | ok a => exact ⟨a, rfl⟩
    | error e => cases h

end Run

namespace Build

variable {host : Host} {generator : Generator} {writer : Writer} {w w' : World}

/-- Outputs are those of the bundle that the generator makes. -/
theorem outputs_ok {c : Component} {os : List Output} (h : outputs generator c = .ok os) :
    ∃ b, generator c.config c.interface = .ok b ∧ c.outputs b = os := by
  unfold outputs at h
  split at h
  · rename_i b hb
    exact ⟨b, hb, Except.ok.inj h⟩
  · cases h

/-- A component that was emitted had a bundle generated, and its outputs written. -/
theorem emit_ok [Stack] {c : Component} {files : List Written}
    (h : emit host generator writer c w = (.ok files, w')) :
    ∃ b, generator c.config c.interface = .ok b ∧
      files.map Written.path = (c.outputs b).map writer.pathOf ∧
      writer.Wrote host (c.outputs b) w w' := by
  obtain ⟨_, w₁, hstart, h⟩ := Run.bind_ok_iff.1 h
  obtain ⟨os, w₂, hos, h⟩ := Run.bind_ok_iff.1 h
  obtain ⟨generated, rfl⟩ := Run.ofExcept_ok_iff.1 hos
  obtain ⟨b, hb, rfl⟩ := outputs_ok generated
  obtain ⟨written, w₃, hwritten, h⟩ := Run.bind_ok_iff.1 h
  obtain ⟨hpaths, wrote⟩ := Writer.mapM_write_ok (Run.rethrow_ok hwritten)
  obtain ⟨_, w₄, hend, h⟩ := Run.bind_ok_iff.1 h
  obtain ⟨rfl, rfl⟩ := Run.pure_ok_iff.1 h
  refine ⟨b, hb, hpaths, ?_⟩
  have started : writer.Wrote host [] w w₁ := .of_keeps (Run.record_keeps hstart)
  have ended : writer.Wrote host [] w₃ w₄ := .of_keeps (Run.record_keeps hend)
  exact List.append_nil (c.outputs b) ▸ started.append (wrote.append ended)

/-- Emitting components one after another. -/
theorem mapM_emit_ok [Stack] {components : List Component} {files : List (List Written)}
    (h : components.mapM (emit host generator writer) w = (.ok files, w')) :
    ∃ bundles, List.Forall₂ (fun c b => generator c.config c.interface = .ok b)
        components bundles ∧
      files.flatten.map Written.path = (outputsOf components bundles).map writer.pathOf ∧
      writer.Wrote host (outputsOf components bundles) w w' := by
  induction components generalizing w files with
  | nil =>
    obtain ⟨rfl, rfl⟩ := Run.pure_ok_iff.1 h
    exact ⟨[], .nil, rfl, .of_keeps .refl⟩
  | cons c components ih =>
    obtain ⟨first, w₁, rest, hfirst, hrest, rfl⟩ := Run.mapM_cons_ok_iff.1 h
    obtain ⟨b, hb, hpath, wrote⟩ := emit_ok hfirst
    obtain ⟨bundles, hbundles, hpaths, wrote'⟩ := ih hrest
    refine ⟨b :: bundles, .cons hb hbundles, ?_, wrote.append wrote'⟩
    rw [List.flatten_cons, List.map_append, hpath, hpaths, ← List.map_append]
    rfl

/-- A sequential build that ends well has a bundle for each component, and reports their outputs. -/
theorem write_ok [Stack] {workers : Int} {components : List Component} {report : Report}
    (sequential : ¬1 < workers)
    (h : write host generator writer workers components w = (.ok report, w')) :
    ∃ bundles, List.Forall₂ (fun c b => generator c.config c.interface = .ok b)
        components bundles ∧
      report.written = (outputsOf components bundles).map writer.pathOf ∧
      writer.Wrote host (outputsOf components bundles) w w' := by
  simp only [write, if_neg sequential] at h
  obtain ⟨files, w₁, hfiles, h⟩ := Run.bind_ok_iff.1 h
  obtain ⟨_, w₂, hrecord, h⟩ := Run.bind_ok_iff.1 h
  obtain ⟨rfl, rfl⟩ := Run.pure_ok_iff.1 h
  obtain ⟨bundles, hbundles, hpaths, wrote⟩ := mapM_emit_ok hfiles
  refine ⟨bundles, hbundles, hpaths, ?_⟩
  have recorded : writer.Wrote host [] w₁ w₂ := .of_keeps (Run.record_keeps hrecord)
  exact List.append_nil (outputsOf components bundles) ▸ wrote.append recorded

/-- A sequential build that ends well writes exactly its bundles. -/
theorem written_exactly [Stack] {workers : Int} {components : List Component} {report : Report}
    (sequential : ¬1 < workers)
    (plain : ∀ c ∈ components, .char '/' ∉ c.interface.component)
    (distinct : (components.map fun c => Text.bytesOf c.interface.component).Nodup)
    (h : write host generator writer workers components w = (.ok report, w')) :
    ∃ bundles, List.Forall₂ (fun c b => generator c.config c.interface = .ok b)
        components bundles ∧
      report.written = (outputsOf components bundles).map writer.pathOf ∧
      report.written.Nodup ∧
      ((∀ o ∈ outputsOf components bundles, w.log.file ≠ some (writer.placeOf host o)) →
        ∀ o ∈ outputsOf components bundles, ∃ bytes, Text.encode o.text = .ok bytes ∧
          w'.tree.bytesOf host.cwd (writer.pathOf o) = .ok bytes) ∧
      ∀ place content, place ∉ (outputsOf components bundles).map (writer.placeOf host) →
        w.log.file ≠ some place →
        (w'.tree.get? place = some (.file content) ↔ w.tree.get? place = some (.file content)) := by
  obtain ⟨bundles, hbundles, hreport, wrote⟩ := write_ok sequential h
  have places : ((outputsOf components bundles).map (writer.placeOf host)).Nodup :=
    nodup_places plain distinct host.cwd writer.outDir
  refine ⟨bundles, hbundles, hreport, ?_, ?_, ?_⟩
  · rw [hreport]
    refine List.Nodup.of_map (Path.place host.cwd) ?_
    rw [List.map_map]
    exact places
  · intro apart o ho
    obtain ⟨bytes, hbytes, holds⟩ := wrote.holds places apart o ho
    exact ⟨bytes, hbytes, holds.bytesOf⟩
  · intro place content fresh apart
    rw [← FileTree.kind?_eq_file, ← FileTree.kind?_eq_file]
    refine wrote.keeps.tree.file_iff ?_
    simpa using ⟨by simpa using fresh, apart⟩

/-- A host that works at the top of the file tree and has no formatter. -/
def bareHost : Host where
  cwd := ⟨.root, []⟩
  home := ⟨.root, []⟩
  respond := fun _ _ => .notFound

/-- A writer that does not format. -/
def plainWriter : Writer where
  outDir := ⟨.here, ["out"]⟩
  formats := false

/-- A generator whose bundles hold the name of the native library. -/
def libraryName : Generator := fun c _ => .ok { common := c.cdylibName.getD "" }

/-- A component in a package that several components are in. -/
def shared (name cdylib : Text) : Component where
  interface := { component := name, crateName := name }
  config := { packageName := some "shared", cdylibName := some cdylib }

/-- Two components of one package are written next to each other. -/
theorem written_exactly_shared :
    ∃ report w' bundles,
      write bareHost libraryName plainWriter 1 [shared "left" "x", shared "right" "y"]
        { tree := .dir [] } = (.ok report, w') ∧
      List.Forall₂ (fun c b => libraryName c.config c.interface = .ok b)
        [shared "left" "x", shared "right" "y"] bundles ∧
      report.written =
        (outputsOf [shared "left" "x", shared "right" "y"] bundles).map plainWriter.pathOf ∧
      report.written.Nodup ∧
      ∀ o ∈ outputsOf [shared "left" "x", shared "right" "y"] bundles, ∃ bytes,
        Text.encode o.text = .ok bytes ∧
          w'.tree.bytesOf bareHost.cwd (plainWriter.pathOf o) = .ok bytes := by
  obtain ⟨report, h⟩ : ∃ report, write bareHost libraryName plainWriter 1
      [shared "left" "x", shared "right" "y"] { tree := .dir [] } = (.ok report, _) :=
    Run.exists_of_isOk (by decide +kernel)
  obtain ⟨bundles, hbundles, hreport, distinct, holds, -⟩ :=
    written_exactly (by decide) (by decide +kernel) (by decide +kernel) h
  exact ⟨report, _, bundles, h, hbundles, hreport, distinct, holds fun _ _ => by simp⟩

/-- The letter with an accent, and the two surrogates for the bytes that encode it, are different
texts, and both are names that paths may hold. -/
def accented : Text := "\u00e9"

def accentedBytes : Text := [.surrogate 0x4c3, .surrogate 0x4a9]

/-- Two components with different names, whose files are the same: what was generated for the
first is not there in the end. -/
theorem namesakes_replaced :
    accented ≠ accentedBytes ∧
      (∀ name ∈ [accented, accentedBytes], name ≠ "" ∧ name ≠ "." ∧ name ≠ ".." ∧
        .char '/' ∉ name ∧ .char '\x00' ∉ name) ∧
      ∃ report w',
        write bareHost libraryName plainWriter 1 [shared accented "x", shared accentedBytes "y"]
          { tree := .dir [] } = (.ok report, w') ∧
        w'.tree.bytesOf bareHost.cwd (plainWriter.outDir ++
          Destination.binding "shared" accented "common" false) = .ok "y".toUTF8 ∧
        Text.encode "x" = .ok "x".toUTF8 ∧ "x".toUTF8 ≠ "y".toUTF8 := by
  refine ⟨by decide, by decide, ?_⟩
  obtain ⟨report, h⟩ : ∃ report, write bareHost libraryName plainWriter 1
      [shared accented "x", shared accentedBytes "y"] { tree := .dir [] } = (.ok report, _) :=
    Run.exists_of_isOk (by decide +kernel)
  refine ⟨report, _, h, ?_, by decide +kernel, by decide +kernel⟩
  decide +kernel

end Build

end Bindery
