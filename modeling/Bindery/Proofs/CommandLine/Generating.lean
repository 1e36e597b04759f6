import Bindery.CommandLine.Run
import Bindery.Proofs.Build.Failing
import Bindery.Proofs.Build.Refusing

/-!
# What is told of generating

The generating command tells of whatever stops its build, but for four things
(`CommandLine.GenerateEscapes`): an output directory without a path, a description or a
configuration that loading meets with a fault without a sentence, a planned file above which more
directories are missing than there is room to make, and a call of the formatter for a planned file
that breaks with such a fault. Where a file is missing, refused or cannot be written, that is told
(`CommandLine.build_error`).
-/

namespace Bindery

open Outcome FileTree Run

/-! ## Loading -/

/-- A failure of what is loaded: it is never about a file that is written, or about directories that
are made. -/
def Failure.OfLoading : Failure → Prop
  | .write _ => False
  | .file error => error.problem ≠ .tooDeep
  | _ => True

/-- Every fault may come of loading. -/
theorem ofLoading_fault {α : Type} (x : Except Fault α) :
    Only Failure.OfLoading (liftM x : Except Failure α) := by
  cases x with
  | ok a => exact only_pure a
  | error f => exact only_error trivial

namespace FileTree

variable (t : FileTree)

/-- A refusal of a path keeps what is known of its problem. -/
theorem refuse_only {α : Type} (p : Path) {P : FileProblem → Prop} {x : Except FileProblem α}
    (only : Only P x) : Only (fun e => P e.problem) (refuse p x) := by
  cases x with
  | ok a => exact only_pure a
  | error problem => exact only_error (only problem rfl)

/-- No directory is made to read a file, so there are never too many to be made. -/
theorem bytesOf_only (cwd p : Path) : Only (fun e => e.problem ≠ .tooDeep) (t.bytesOf cwd p) := by
  refine refuse_only p (only_bind (t.locate_only cwd p) fun names => ?_)
  split
  · exact only_pure _
  · exact only_error nofun
  · exact only_error nofun

/-- Nor is one to see whether it is there. -/
theorem isThere_only (cwd p : Path) : Only (fun e => e.problem ≠ .tooDeep) (t.isThere cwd p) := by
  unfold isThere
  split
  · exact only_pure _
  · exact only_error nofun
  · exact only_pure _

/-- Reading a text fails as loading does. -/
theorem readText_only (cwd p : Path) : Only Failure.OfLoading (t.readText cwd p) := by
  unfold readText
  split
  · rename_i e unread
    exact only_error (t.bytesOf_only cwd p e unread)
  · split
    · exact only_error trivial
    · exact only_pure _

end FileTree

namespace Document

/-- A text that is no document is refused as one that is loaded. -/
theorem ofText_only [Stack] (written : Notation) (source : Text) (text : String) :
    Only Failure.OfLoading (ofText written source text) := by
  unfold ofText
  split
  · exact only_pure _
  · split
    · exact only_error trivial
    · exact only_error trivial
    · exact only_pure _
    · exact only_pure _
    · exact only_error trivial

/-- Loading a document fails as loading does, at its file, its bytes or its text. -/
theorem load_only [Stack] (host : Host) (tree : FileTree) (path : Path) :
    Only Failure.OfLoading (load host tree path) := by
  refine only_bind (ofLoading_fault _) fun path => ?_
  split
  · rename_i e missing
    exact only_error (tree.isThere_only host.cwd path e missing)
  · exact only_pure _
  · split
    · exact only_error trivial
    · rename_i unread
      exact only_error (tree.readText_only host.cwd path _ unread)
    · exact ofText_only _ _ _

/-- A document that is asked for by a text may have no path as well. -/
theorem loadWanted_only [Stack] (host : Host) (tree : FileTree) (file : Path.Wanted) :
    Only Failure.OfLoading (loadWanted host tree file) :=
  only_bind (ofLoading_fault file) fun path => load_only host tree path

end Document

namespace Interface

/-- A value that is no interface is refused as one that is loaded. -/
theorem ofValue_only (source : Text) (v : Value) : Only Failure.OfLoading (ofValue source v) := by
  unfold ofValue
  split
  · exact only_error trivial
  · split
    · exact only_error trivial
    · exact only_bind (ofLoading_fault _) fun _ => only_pure _

/-- So is a text that is no YAML. -/
theorem yamlValue_only [Stack] (source : Text) (text : String) :
    Only Failure.OfLoading (yamlValue source text) := by
  unfold yamlValue
  split
  · exact only_error trivial
  · exact only_error trivial
  · exact only_pure _

/-- And one that is no JSON. -/
theorem jsonValue_only [Stack] (text : String) : Only Failure.OfLoading (jsonValue text) := by
  unfold jsonValue
  split
  · exact only_error trivial
  · exact only_error trivial
  · exact only_pure _

/-- Loading an interface fails as loading does, at its file, its bytes, its text or its values. -/
theorem load_only [Stack] (host : Host) (tree : FileTree) (path : Path) :
    Only Failure.OfLoading (load host tree path) := by
  refine only_bind (tree.readText_only host.cwd path) fun text => ?_
  dsimp only
  split
  · exact only_bind (yamlValue_only path.name text) (ofValue_only path.name)
  · exact only_bind (jsonValue_only text) (ofValue_only path.name)

end Interface

/-! ## Generating -/

namespace CommandLine

variable {host : Host} {w w' : World} {e : Failure}

/-- A failure that the generating command tells of. -/
def Told (e : Failure) : Prop := ∃ reason, generateReason? e = some reason

/-- What is loaded is told of, unless it is met by a fault without a sentence. -/
theorem told_of_loading (loading : e.OfLoading) :
    Told e ∨ ∃ f, e = .fault f ∧ f.sentence? = none := by
  cases e with
  | file error => exact .inl ⟨error.message, if_neg loading⟩
  | write error => exact absurd loading not_false
  | fault f =>
    cases silent : f.sentence? with
    | none => exact .inr ⟨f, rfl, silent⟩
    | some reason => exact .inl ⟨reason, silent⟩
  | _ => exact .inl ⟨_, rfl⟩

/-- The outputs that a generating command plans, going by the files that it names. Its documents are
loaded when it is recorded that a build was asked for. -/
def Plans [Stack] (host : Host) (args : GenerateArguments) (w : World) (os : List Output) :
    Prop :=
  ∃ interfaces tree documents,
    args.interfaces.mapM (Interface.load host w.tree) = .ok interfaces ∧
    SameBut w.log.file w.tree tree ∧
    args.configs.mapM (Document.loadWanted host tree) = .ok documents ∧
    os = Build.runPlan (Generator.kotlin false) args.multiplatform args.cdylib interfaces
      (Build.spread interfaces documents)

/-- What ends a generating command that nothing is told of: it was begun in the one world, and left
the other. A planned output may need more directories than can be made at once, and a call of the
formatter for one may break. -/
inductive GenerateEscapes [Stack] (host : Host) (args : GenerateArguments) (w w' : World) :
    Failure → Prop where
  | outDir {f : Failure} (nowhere : outDirOf host args.outDir = .error f) :
      GenerateEscapes host args w w' f
  | interface {path : Path} {f : Fault} (named : path ∈ args.interfaces)
      (unread : Interface.load host w.tree path = .error (.fault f)) (silent : f.sentence? = none) :
      GenerateEscapes host args w w' (.fault f)
  | config {file : Path.Wanted} {tree : FileTree} {f : Fault} (named : file ∈ args.configs)
      (alike : SameBut w.log.file w.tree tree)
      (unread : Document.loadWanted host tree file = .error (.fault f))
      (silent : f.sentence? = none) : GenerateEscapes host args w w' (.fault f)
  | deep {os : List Output} {o : Output} {outDir path : Path} (plans : Plans host args w os)
      (planned : o ∈ os) (somewhere : outDirOf host args.outDir = .ok outDir)
      (missing : ¬w.tree.Near host.cwd (outDir ++ o.destination).parent mostDirs) :
      GenerateEscapes host args w w' (.file ⟨.tooDeep, path⟩)
  | formatter {os : List Output} {o : Output} {outDir : Path} {command : List Text}
      {before after : List Formatter.Call} {f : Fault} (plans : Plans host args w os)
      (planned : o ∈ os) (somewhere : outDirOf host args.outDir = .ok outDir)
      (worded : words host.formatterLine = .ok command) (later : w.calls <+: before)
      (made : w'.calls = before ++
        (settingsOf args outDir command).writer.callFor (outDir ++ o.destination) :: after)
      (broke : host.respond before
        ((settingsOf args outDir command).writer.callFor (outDir ++ o.destination)) = .broken f)
      (silent : f.sentence? = none) : GenerateEscapes host args w w' (.fault f)

@[simp] theorem outDir_settingsOf (args : GenerateArguments) (outDir : Path)
    (formatter : List Text) : (settingsOf args outDir formatter).writer.outDir = outDir := by
  unfold settingsOf
  dsimp only
  split <;> rfl

/-- A build with documents in files fails for their number, for one of them, or as building
documents does. -/
theorem runFiles_error [Stack] {generator : Generator} {force : Bool} {settings : Settings}
    {workers : Int} {interfaces : List Interface} {files : List Path.Wanted}
    (h : Build.runFiles host generator force settings workers interfaces files w = (.error e, w')) :
    (∃ error, e = .count error) ∨
      ∃ tree, SameBut w.log.file w.tree tree ∧
        ((∃ file ∈ files, Document.loadWanted host tree file = .error e) ∨
          ∃ documents, files.mapM (Document.loadWanted host tree) = .ok documents ∧
            e.OfBuild host settings.writer (Build.runPlan generator force settings.cdylib interfaces
              (Build.spread interfaces documents)) w w') := by
  by_cases fit : Build.Fit interfaces files
  · rw [Build.runFiles_of_fit w fit] at h
    refine .inr ⟨_, (Build.begun_alike host settings w).1, ?_⟩
    rcases bind_error_iff.1 h with h | ⟨documents, w₁, loaded, h⟩
    · obtain ⟨_, loads, rfl, -⟩ := ofExcept_error_iff.1 h
      exact .inl (exists_of_mapM_error loads)
    · obtain ⟨loads, rfl⟩ := ofExcept_ok_iff.1 loaded
      have started : w.Later (Build.begun host settings w) := .record host _ w
      have fails := Build.run_failsOnly force settings workers _ _ _ _ w' started h
      exact .inr ⟨documents, loads, fails.2 e rfl⟩
  · rw [Build.runFiles_of_count w fit] at h
    obtain ⟨⟨⟩, -⟩ := Prod.mk.inj h
    exact .inl ⟨_, rfl⟩

/-- What building documents brings about is told of, or escapes. -/
theorem told_of_build [Stack] {args : GenerateArguments} {outDir : Path} {formatter : List Text}
    {os : List Output} (somewhere : outDirOf host args.outDir = .ok outDir)
    (worded : words host.formatterLine = .ok formatter) (plans : Plans host args w os)
    (build : e.OfBuild host (settingsOf args outDir formatter).writer os w w') :
    Told e ∨ GenerateEscapes host args w w' e := by
  have place (o : Output) :
      (settingsOf args outDir formatter).writer.pathOf o = outDir ++ o.destination := by
    rw [Writer.pathOf, outDir_settingsOf]
  cases build with
  | config error => exact .inl ⟨_, rfl⟩
  | textless => exact .inl ⟨_, rfl⟩
  | count error => exact .inl ⟨_, rfl⟩
  | build error => exact .inl ⟨_, rfl⟩
  | @file o v error planned reached unsaved =>
    obtain ⟨problem, path⟩ := error
    by_cases deep : problem = .tooDeep
    · rw [deep, place] at unsaved
      rw [deep]
      have lacks := lacks_of_writeText (Prod.ext rfl unsaved)
      exact .inr (.deep plans planned somewhere (reached.not_near lacks))
    · exact .inl ⟨_, if_neg deep⟩
  | @formatter o v after f planned reached made broke =>
    rw [place] at made broke
    cases silent : f.sentence? with
    | none =>
      exact .inr (.formatter plans planned somewhere worded reached.calls made broke silent)
    | some reason => exact .inl ⟨reason, silent⟩

/-- A build is told of, or what escapes of it is listed. -/
theorem build_error [Stack] {args : GenerateArguments} {outDir : Path} {formatter : List Text}
    (somewhere : outDirOf host args.outDir = .ok outDir)
    (worded : words host.formatterLine = .ok formatter)
    (h : build host args (settingsOf args outDir formatter) w = (.error e, w')) :
    Told e ∨ GenerateEscapes host args w w' e := by
  have looks (path : Path) : (do Run.ofExcept id (Interface.load host (← Run.tree) path) :
      Run Interface) w = (Interface.load host w.tree path, w) := ofExcept_id _ w
  have loads := mapM_of_looks looks args.interfaces
  rcases bind_error_iff.1 h with h | ⟨interfaces, w₁, loaded, h⟩
  · obtain ⟨unread, -⟩ := Prod.mk.inj (loads.symm.trans h)
    obtain ⟨path, named, unread⟩ := exists_of_mapM_error unread
    have loading := Interface.load_only host _ path _ unread
    rcases told_of_loading loading with told | ⟨f, rfl, silent⟩
    · exact .inl told
    · exact .inr (.interface named unread silent)
  · obtain ⟨read, rfl⟩ := Prod.mk.inj (loads.symm.trans loaded)
    rcases runFiles_error h with ⟨error, rfl⟩ | ⟨tree, alike, ⟨file, named, unread⟩ |
      ⟨documents, found, built⟩⟩
    · exact .inl ⟨_, rfl⟩
    · have loading := Document.loadWanted_only host _ file _ unread
      rcases told_of_loading loading with told | ⟨f, rfl, silent⟩
      · exact .inl told
      · exact .inr (.config named alike unread silent)
    · exact told_of_build somewhere worded ⟨_, tree, documents, read, alike, found, rfl⟩ built

end CommandLine

end Bindery
