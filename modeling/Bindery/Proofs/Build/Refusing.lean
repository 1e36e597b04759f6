import Bindery.Proofs.Build.Formatting
import Bindery.Proofs.Build.SideBySide
import Bindery.Proofs.Config.Offences

/-!
# What a build is refused for

A build begins with what can be refused: the numbers of things are compared, all files with
configurations are loaded, and then all configurations are resolved. What is refused ends the build
with the first refusal, before anything is generated, formatted or written
(`Build.refused_at_once`). Only the record that a build was asked for is made before, and it goes
to the file of the log.
-/

namespace Bindery

open Outcome FileTree

/-- The document in the file that was asked for, when a path was. -/
def Document.loadWanted [Stack] (host : Host) (tree : FileTree) (file : Path.Wanted) :
    Except Failure Document := do
  Document.load host tree (← file)

/-- Loading a document only looks at the file tree. -/
theorem Document.load_looks [Stack] (host : Host) (file : Path.Wanted) (w : World) :
    (do
      let path ← Run.ofExcept Failure.fault file
      Run.ofExcept id (Document.load host (← Run.tree) path) : Run Document) w =
      (Document.loadWanted host w.tree file, w) := by
  cases file with
  | error f => rfl
  | ok path => exact Run.ofExcept_id (Document.load host w.tree path) w

namespace Build

variable {host : Host} {generator : Generator} {force : Bool} {settings : Settings} {workers : Int}
variable {interfaces : List Interface} {documents : List Table} {files : List Path.Wanted}

/-! ## Documents -/

/-- What an interface is configured with. -/
def configOf (force : Bool) (e : Interface × Table) : Except Failure Config :=
  Config.resolve e.2 force (some e.1.component)

/-- A build with another number of documents than of interfaces is refused before anything
happens. -/
theorem run_of_count [Stack] (w : World) (differ : interfaces.length ≠ documents.length) :
    run host generator force settings workers interfaces documents w =
      (.error (.count .documents), w) := by
  have unresolved : resolved force interfaces documents = .error (.count .documents) :=
    if_pos differ
  rw [run_eq, unresolved]
  rfl

/-- A build ends with the first document that is refused. -/
theorem run_of_failsFirst [Stack] (w : World) (same : interfaces.length = documents.length)
    {e : Failure} (h : FailsFirst (configOf force) (interfaces.zip documents) e) :
    run host generator force settings workers interfaces documents w = (.error e, w) := by
  have unresolved : resolved force interfaces documents = .error e := by
    unfold resolved
    rw [if_neg (not_not_intro same)]
    exact (h.map fun x config => (⟨x.1, config⟩ : Component)).mapM
  rw [run_eq, unresolved]
  rfl

/-! ## Files -/

/-- The world once it is recorded that a build was asked for. -/
def begun (host : Host) (settings : Settings) (w : World) : World :=
  w.record host ⟨.info, "Starting generation run into " ++ settings.writer.outDir.text,
    "orchestrator", noComponent⟩

/-- There are as many files as interfaces, or at most one. -/
def Fit (interfaces : List Interface) (files : List Path.Wanted) : Prop :=
  files.length ≤ 1 ∨ files.length = interfaces.length

/-- A build with a number of files that does not fit is refused once its beginning is recorded. -/
theorem runFiles_of_count [Stack] (w : World) (unfit : ¬Fit interfaces files) :
    runFiles host generator force settings workers interfaces files w =
      (.error (.count (.configFiles interfaces.length files.length)), begun host settings w) := by
  have counted : (1 < files.length && files.length ≠ interfaces.length) = true := by
    unfold Fit at unfit
    simp only [Bool.and_eq_true, decide_eq_true_eq]
    omega
  unfold runFiles
  rw [if_pos counted]
  rfl

/-- A build loads its files one after another, and then builds documents. -/
theorem runFiles_of_fit [Stack] (w : World) (fit : Fit interfaces files) :
    runFiles host generator force settings workers interfaces files w =
      (Run.ofExcept id (files.mapM (Document.loadWanted host (begun host settings w).tree)) >>=
        fun documents => run host generator force settings workers interfaces
          (spread interfaces documents)) (begun host settings w) := by
  have counted : ¬(1 < files.length && files.length ≠ interfaces.length) = true := by
    unfold Fit at fit
    simp only [Bool.and_eq_true, decide_eq_true_eq]
    omega
  have recorded : record host .info ("Starting generation run into " ++ settings.writer.outDir.text)
      noComponent w = (.ok (), begun host settings w) := rfl
  have looks (file : Path.Wanted) := Document.load_looks host file (begun host settings w)
  have loads := Run.mapM_of_looks looks files
  unfold runFiles
  rw [if_neg counted, Run.bind_of_ok recorded]
  exact Run.bind_congr_of_eq (loads.trans (Run.ofExcept_id _ _).symm) _

/-- A build ends with the first file that is refused. -/
theorem runFiles_of_failsFirst [Stack] (w : World) (fit : Fit interfaces files) {e : Failure}
    (h : FailsFirst (Document.loadWanted host (begun host settings w).tree) files e) :
    runFiles host generator force settings workers interfaces files w =
      (.error e, begun host settings w) := by
  rw [runFiles_of_fit w fit, h.mapM]
  rfl

/-! ## What is left behind -/

/-- Recording that a build was asked for changes nothing but the file of the log. -/
theorem begun_alike (host : Host) (settings : Settings) (w : World) :
    SameBut w.log.file w.tree (begun host settings w).tree ∧
      (begun host settings w).calls = w.calls :=
  ⟨(World.Alike.record host _ w).tree, rfl⟩

/-- A build is refused before it has done anything. When a document does not resolve, the build
ends as resolving the first such document does, and leaves its world as it is; and so it does, when
there is not one document for each interface. A build with documents in files ends with the first
file that is refused, whatever the documents in front of it hold, or for the number of files. It
leaves its file tree as it is but for the file of the log, and calls no formatter. -/
theorem refused_at_once [Stack] (host : Host) (generator : Generator) (force : Bool)
    (settings : Settings) (workers : Int) (interfaces : List Interface) (w : World) :
    (∀ documents : List Table, interfaces.length = documents.length →
      (∃ x ∈ interfaces.zip documents, ∀ c, configOf force x ≠ .ok c) →
      ∃ e, FailsFirst (configOf force) (interfaces.zip documents) e ∧
        ((∃ error, e = .config error) ∨ e = .fault (.unconvertible .integerSize)) ∧
        run host generator force settings workers interfaces documents w = (.error e, w)) ∧
    (∀ documents : List Table, interfaces.length ≠ documents.length →
      run host generator force settings workers interfaces documents w =
        (.error (.count .documents), w)) ∧
    (∀ files : List Path.Wanted, Fit interfaces files →
      (∃ file ∈ files, ∀ d, Document.loadWanted host (begun host settings w).tree file ≠ .ok d) →
      ∃ e, FailsFirst (Document.loadWanted host (begun host settings w).tree) files e ∧
        runFiles host generator force settings workers interfaces files w =
          (.error e, begun host settings w)) ∧
    (∀ files : List Path.Wanted, ¬Fit interfaces files →
      runFiles host generator force settings workers interfaces files w =
        (.error (.count (.configFiles interfaces.length files.length)), begun host settings w)) ∧
    SameBut w.log.file w.tree (begun host settings w).tree ∧
      (begun host settings w).calls = w.calls := by
  refine ⟨?_, fun documents => run_of_count w, ?_, fun files => runFiles_of_count w,
    begun_alike host settings w⟩
  · intro documents same unresolved
    obtain ⟨e, first⟩ := exists_failsFirst unresolved
    refine ⟨e, first, ?_, run_of_failsFirst w same first⟩
    obtain ⟨front, x, back, -, -, refused⟩ := first
    rcases Config.resolve_error refused with ⟨error, he, -⟩ | he
    · exact .inl ⟨error, he⟩
    · exact .inr he
  · intro files fit unloaded
    obtain ⟨e, first⟩ := exists_failsFirst unloaded
    exact ⟨e, first, runFiles_of_failsFirst w fit first⟩

/-- Two interfaces of one build. -/
def twoInterfaces : List Interface :=
  [{ component := "left", crateName := "left" }, { component := "right", crateName := "right" }]

/-- A document whose package is no text. -/
def unpackaged : Document := [(.text "package_name", .scalar (.int 5))]

/-- A world with a directory where a configuration could be. -/
def obstructedWorld : World where
  tree := .dir [("configs", .dir [])]

/-- A build is refused for the second of its documents, and for the second of its files. -/
theorem refused_at_once_second :
    (∃ e, FailsFirst (configOf false) (twoInterfaces.zip [Document.empty, unpackaged]) e ∧
      run bareHost libraryName false { writer := plainWriter } 1 twoInterfaces
        [Document.empty, unpackaged] obstructedWorld = (.error e, obstructedWorld)) ∧
    ∃ e, FailsFirst (Document.loadWanted bareHost obstructedWorld.tree)
        [.ok ⟨.here, ["missing"]⟩, .ok ⟨.here, ["configs"]⟩] e ∧
      (runFiles bareHost libraryName false { writer := plainWriter } 1 twoInterfaces
        [.ok ⟨.here, ["missing"]⟩, .ok ⟨.here, ["configs"]⟩] obstructedWorld).1 = .error e := by
  obtain ⟨refused, -, unloaded, -⟩ := refused_at_once bareHost libraryName false
    { writer := plainWriter } 1 twoInterfaces obstructedWorld
  constructor
  · obtain ⟨e, first, -, ends⟩ := refused [Document.empty, unpackaged] rfl
      ⟨({ component := "right", crateName := "right" }, unpackaged), .tail _ (.head _), nofun⟩
    exact ⟨e, first, ends⟩
  · have fails : ∀ d, Document.loadWanted bareHost obstructedWorld.tree
        (.ok ⟨.here, ["configs"]⟩) ≠ .ok d := by
      have fails : (Document.loadWanted bareHost obstructedWorld.tree
          (.ok ⟨.here, ["configs"]⟩)).isOk = false := by decide +kernel
      intro d found
      rw [found] at fails
      cases fails
    obtain ⟨e, first, ends⟩ := unloaded [.ok ⟨.here, ["missing"]⟩, .ok ⟨.here, ["configs"]⟩]
      (.inr rfl) ⟨.ok ⟨.here, ["configs"]⟩, by simp, fails⟩
    exact ⟨e, first, congrArg Prod.fst ends⟩

/-- A world whose log has a file. -/
def loggedWorld : World where
  tree := .dir [("run.log", .file ByteArray.empty)]
  log := { threshold := .debug, file := some ["run.log"] }

/-- Not every refusal of a document is one of a configuration, and a build with too many files
leaves a line in the file of its log. -/
theorem refused_otherwise :
    run bareHost libraryName false { writer := plainWriter } 1
        [{ component := "left", crateName := "left" }]
        [Config.numbered leastTextless (.scalar (.int 5))] loggedWorld =
      (.error (.fault (.unconvertible .integerSize)), loggedWorld) ∧
    ∃ w, runFiles bareHost libraryName false { writer := plainWriter } 1 []
        [.ok ⟨.here, ["a.toml"]⟩, .ok ⟨.here, ["b.toml"]⟩] loggedWorld =
      (.error (.count (.configFiles 0 2)), w) ∧ w.tree ≠ loggedWorld.tree := by
  constructor
  · exact run_of_failsFirst _ rfl
      ⟨[], _, [], rfl, by simp, Config.resolve_numbered (Nat.le_refl _) _ _ _⟩
  · refine ⟨_, runFiles_of_count loggedWorld (by simp [Fit]), fun same => ?_⟩
    have line : (((begun bareHost { writer := plainWriter } loggedWorld).tree.bytesOf
        bareHost.cwd ⟨.here, ["run.log"]⟩).map ByteArray.size).toOption ≠ some 0 := by
      decide +kernel
    rw [same] at line
    exact line (by decide +kernel)

end Build

end Bindery
