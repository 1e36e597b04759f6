import Bindery.Proofs.CommandLine.Generating
import Bindery.Proofs.CommandLine.Merging

/-!
# How the program ends

An invocation that was accepted ends with what its command tells (`CommandLine.Tells`): with what it
did, or with a message that names the command and a reason. Whatever else may end it is listed
(`CommandLine.Escapes`): a log that cannot be set up, a failure that its command does not expect, or
a line that the output does not take. Nothing but that escapes (`CommandLine.ends_or_escapes`).
-/

namespace Bindery.CommandLine

open Run
open Build (bareHost)

variable {host : Host} {w w' : World}

/-- The failure that ends a run without being told of. -/
def Ending.failure? : Ending → Option Failure
  | .escaped f | .interrupted _ f => some f
  | _ => none

/-- What the generating command has to tell, begun in the one world and left in the other: the
report on its build, or the reason for which there is none. -/
inductive GenerateTells [Stack] (host : Host) (args : GenerateArguments) (w : World) :
    Ending → World → Prop where
  | generated {outDir : Path} {formatter : List Text} {report : Report} {w' : World}
      (somewhere : outDirOf host args.outDir = .ok outDir)
      (command : words host.formatterLine = .ok formatter)
      (built : build host args (settingsOf args outDir formatter) w = (.ok report, w')) :
      GenerateTells host args w (.finished (reportLines host report)) w'
  | ungenerated {outDir : Path} {formatter : List Text} {e : Failure} {reason : Text} {w' : World}
      (somewhere : outDirOf host args.outDir = .ok outDir)
      (command : words host.formatterLine = .ok formatter)
      (built : build host args (settingsOf args outDir formatter) w = (.error e, w'))
      (told : generateReason? e = some reason) :
      GenerateTells host args w (.failed ("kmpbindgen generate failed: " ++ reason)) w'
  | misworded {problem : WordsProblem} (command : words host.formatterLine = .error problem) :
      GenerateTells host args w (.failed ("kmpbindgen generate failed: " ++
        Text.ofString ("invalid KMPBINDGEN_FORMATTER: " ++ problem.message))) w

/-- What the merging command has to tell: where its document is saved, or the reason for which it is
not. -/
inductive MergeTells [Stack] (host : Host) (args : MergeArguments) (w : World) :
    Ending → World → Prop where
  | merged {path : Path} {w' : World} (saved : mergeAndSave host args w = (.ok path, w'))
      (named : args.output = .ok path) :
      MergeTells host args w (.finished ["Merged config written to " ++ shownPath host path]) w'
  | unmerged {e : Failure} {reason : Text} {w' : World}
      (failed : mergeAndSave host args w = (.error e, w')) (told : mergeReason? e = some reason) :
      MergeTells host args w (.failed ("kmpbindgen merge-config failed: " ++ reason)) w'

/-- What an invocation has to tell, once its log is set up. -/
inductive Tells [Stack] (host : Host) (i : Invocation) (w : World) : Ending → World → Prop where
  | generate {args : GenerateArguments} {w₁ w' : World} {ending : Ending}
      (command : i.command = .generate args)
      (logs : w.setUpLog host i.verbose i.logFile = (w₁, .ok ()))
      (tells : GenerateTells host args w₁ ending w') : Tells host i w ending w'
  | merge {args : MergeArguments} {w₁ w' : World} {ending : Ending}
      (command : i.command = .merge args)
      (logs : w.setUpLog host i.verbose i.logFile = (w₁, .ok ()))
      (tells : MergeTells host args w₁ ending w') : Tells host i w ending w'

/-- What ends an invocation that not all is told of: its log cannot be set up, its command fails in
a way that it does not expect, or the output does not take a line that it has to tell. -/
inductive Escapes [Stack] (host : Host) (i : Invocation) (w w' : World) : Failure → Prop where
  | log {f : Failure} (unset : w.setUpLog host i.verbose i.logFile = (w', .error f)) :
      Escapes host i w w' f
  | generate {args : GenerateArguments} {w₁ : World} {f : Failure}
      (command : i.command = .generate args)
      (logs : w.setUpLog host i.verbose i.logFile = (w₁, .ok ()))
      (escapes : GenerateEscapes host args w₁ w' f) : Escapes host i w w' f
  | merge {args : MergeArguments} {w₁ : World} {f : Failure} (command : i.command = .merge args)
      (logs : w.setUpLog host i.verbose i.logFile = (w₁, .ok ()))
      (escapes : MergeEscapes host args w₁ f) : Escapes host i w w' f
  | unprinted {printed rest : List Text} {line : Text} {f : Fault}
      (tells : Tells host i w (.finished (printed ++ line :: rest)) w')
      (refused : host.refusal? line = some f) : Escapes host i w w' (.fault f)

/-- Lines are printed, or the output refuses one of them. -/
theorem print_cases (host : Host) (lines : List Text) :
    print host lines = .finished lines ∨ ∃ printed line rest f,
      lines = printed ++ line :: rest ∧ host.refusal? line = some f ∧
        print host lines = .interrupted printed (.fault f) := by
  unfold print
  cases h : lines.findSome? host.refusal? with
  | none => exact .inl rfl
  | some f =>
    obtain ⟨printed, line, rest, rfl, refused, taken⟩ := List.findSome?_eq_some_iff.1 h
    refine .inr ⟨printed, line, rest, f, rfl, refused, ?_⟩
    have before : (printed ++ line :: rest).takeWhile (fun l => (host.refusal? l).isNone) =
        printed := by
      rw [List.takeWhile_append_of_pos (fun l hl => by rw [taken l hl]; rfl)]
      simp [refused]
    dsimp only
    rw [before]

/-- The generating command ends as it tells, or its lines are to be printed, or what ends it
escapes. -/
theorem generate_ends [Stack] (host : Host) (args : GenerateArguments) (w : World) :
    GenerateTells host args w (generate host args w).1 (generate host args w).2 ∨
      (∃ lines, (generate host args w).1 = print host lines ∧
        GenerateTells host args w (.finished lines) (generate host args w).2) ∨
      ∃ f, (generate host args w).1 = .escaped f ∧
        GenerateEscapes host args w (generate host args w).2 f := by
  unfold generate
  split
  · rename_i nowhere
    exact .inr (.inr ⟨_, rfl, .outDir nowhere⟩)
  · rename_i command
    exact .inl (.misworded command)
  · rename_i somewhere command
    split
    · rename_i built
      exact .inr (.inl ⟨_, rfl, .generated somewhere command built⟩)
    · rename_i failed
      split
      · rename_i told
        exact .inl (.ungenerated somewhere command failed told)
      · rename_i untold
        rcases build_error somewhere command failed with ⟨reason, told⟩ | escapes
        · rw [untold] at told
          cases told
        · exact .inr (.inr ⟨_, rfl, escapes⟩)

/-- A path that was saved to is the one that the arguments ask for. -/
theorem mergeAndSave_ok [Stack] {args : MergeArguments} {path : Path}
    (h : mergeAndSave host args w = (.ok path, w')) : args.output = .ok path := by
  obtain ⟨base, w₁, -, h⟩ := bind_ok_iff.1 h
  obtain ⟨d, w₂, -, h⟩ := bind_ok_iff.1 h
  obtain ⟨output, w₃, wanted, h⟩ := bind_ok_iff.1 h
  obtain ⟨named, rfl⟩ := ofExcept_ok_iff.1 wanted
  have saves : (Run.ofExcept id (d.save host output w₂.tree).2 >>= fun _ => pure output)
      { w₂ with tree := (d.save host output w₂.tree).1 } = (.ok path, w') := h
  obtain ⟨_, w₃, -, h⟩ := bind_ok_iff.1 saves
  obtain ⟨rfl, -⟩ := pure_ok_iff.1 h
  exact named

/-- So does the merging command. -/
theorem merge_ends [Stack] (host : Host) (args : MergeArguments) (w : World) :
    MergeTells host args w (merge host args w).1 (merge host args w).2 ∨
      (∃ lines, (merge host args w).1 = print host lines ∧
        MergeTells host args w (.finished lines) (merge host args w).2) ∨
      ∃ f, (merge host args w).1 = .escaped f ∧ MergeEscapes host args w f := by
  unfold merge
  split
  · rename_i saved
    exact .inr (.inl ⟨_, rfl, .merged saved (mergeAndSave_ok saved)⟩)
  · rename_i failed
    split
    · rename_i told
      exact .inl (.unmerged failed told)
    · rename_i untold
      rcases mergeAndSave_error failed with ⟨error, rfl⟩ | escapes
      · cases untold
      · exact .inr (.inr ⟨_, rfl, escapes⟩)

/-- What is to be printed is told, or the output refuses a line of it. -/
theorem told_or_unprinted [Stack] {i : Invocation} {lines : List Text} {ending : Ending}
    (prints : ending = print host lines) (tells : Tells host i w (.finished lines) w') :
    Tells host i w ending w' ∨ ∃ f, ending.failure? = some f ∧ Escapes host i w w' f := by
  rcases print_cases host lines with printed | ⟨printed, line, rest, f, rfl, refused, interrupted⟩
  · rw [prints, printed]
    exact .inl tells
  · rw [prints, interrupted]
    exact .inr ⟨_, rfl, .unprinted tells refused⟩

/-- An accepted invocation ends with what its command tells of this run, or with what escapes for a
reason that is listed. -/
theorem ends_or_escapes [Stack] {args : List Text} {i : Invocation}
    (accepted : Invocation.parse args = .ok i) (host : Host) (w : World) :
    Tells host i w (run host args w).1 (run host args w).2 ∨
      ∃ f, (run host args w).1.failure? = some f ∧ Escapes host i w (run host args w).2 f := by
  have executes : run host args w = execute host i w := by
    unfold run
    rw [accepted]
  rw [executes]
  unfold execute
  split
  · rename_i unset
    exact .inr ⟨_, rfl, .log unset⟩
  · rename_i w₁ logs
    split
    · rename_i args command
      rcases generate_ends host args w₁ with told | ⟨lines, prints, told⟩ | ⟨f, ends, escapes⟩
      · exact .inl (.generate command logs told)
      · exact told_or_unprinted prints (.generate command logs told)
      · exact .inr ⟨f, by rw [ends]; rfl, .generate command logs escapes⟩
    · rename_i args command
      rcases merge_ends host args w₁ with told | ⟨lines, prints, told⟩ | ⟨f, ends, escapes⟩
      · exact .inl (.merge command logs told)
      · exact told_or_unprinted prints (.merge command logs told)
      · exact .inr ⟨f, by rw [ends]; rfl, .merge command logs escapes⟩

/-- Whether a failure ends a run before it prints anything. -/
def Ending.isEscaped : Ending → Bool
  | .escaped _ => true
  | _ => false

theorem Ending.escaped_of_isEscaped {ending : Ending} (h : ending.isEscaped = true) :
    ∃ f, ending = .escaped f := by
  cases ending with
  | escaped f => exact ⟨f, rfl⟩
  | _ => cases h

/-- Arguments for merging the name of a crate into a new configuration. -/
def mergeInto (output : Text) : List Text := ["merge-config", "-o", output, "--crate-name", "a"]

/-- Where nothing is in the way, the merging command tells where it saved its configuration. -/
theorem ends_or_escapes_saved :
    ∃ i, Invocation.parse (mergeInto "m.toml") = .ok i ∧
      Tells bareHost i { tree := .dir [] } (run bareHost (mergeInto "m.toml") { tree := .dir [] }).1
        (run bareHost (mergeInto "m.toml") { tree := .dir [] }).2 := by
  have parses : (Invocation.parse (mergeInto "m.toml")).isOk = true := by decide +kernel
  obtain ⟨i, accepted⟩ := Outcome.exists_of_isOk parses
  refine ⟨i, accepted, ?_⟩
  rcases ends_or_escapes accepted bareHost { tree := .dir [] } with told | ⟨f, escaped, -⟩
  · exact told
  · have told : (run bareHost (mergeInto "m.toml") { tree := .dir [] }).1.failure?.isNone := by
      decide +kernel
    rw [escaped] at told
    cases told

/-- A world with a file where a directory is wanted. -/
def blockedWorld : World where
  tree := .dir [("blocked", .file ByteArray.empty)]

/-- A host that cannot wait for its formatter as long as it is asked to. -/
def impatientHost : Host := { bareHost with respond := fun _ _ => .broken .outOfRange }

/-- A world with the description of an interface. -/
def describedWorld : World where
  tree := .dir [("a.json", .file "\x7b\"namespace\": \"a\"\x7d".toUTF8)]

/-- Arguments for generating it, with all the time there is for formatting. -/
def patientArguments : List Text := ["generate", "a.json", "-o", "out", "--format-timeout", "inf"]

/-- A host whose output is strict about UTF-8. -/
def strictHost : Host := { bareHost with refusal? := Host.strictRefusal? }

/-- A name of a file that is no UTF-8. -/
def rawName : Text := [.char 'm', .surrogate 0x480] ++ Text.ofString ".toml"

/-- Nothing is told where the file to be saved, or that of the log, cannot be written, or where the
formatter cannot be waited for; and where a saved file has a name that the output does not take. -/
theorem blocked_escapes :
    (Invocation.parse (mergeInto "blocked/m.toml")).isOk = true ∧
      (∃ f, (run bareHost (mergeInto "blocked/m.toml") blockedWorld).1 = .escaped f) ∧
    (Invocation.parse ("--log-file" :: "blocked/run.log" :: mergeInto "m.toml")).isOk = true ∧
      (∃ f, (run bareHost ("--log-file" :: "blocked/run.log" :: mergeInto "m.toml")
        blockedWorld).1 = .escaped f) ∧
    (Invocation.parse patientArguments).isOk = true ∧
      (run impatientHost patientArguments describedWorld).1.failure? = some (.fault .outOfRange) ∧
    (Invocation.parse (mergeInto rawName)).isOk = true ∧
      (run strictHost (mergeInto rawName) { tree := .dir [] }).1.failure? =
        some (.fault (.unencodable ⟨0xdc80, 26, 1⟩)) :=
  ⟨by decide +kernel, Ending.escaped_of_isEscaped (by decide +kernel), by decide +kernel,
    Ending.escaped_of_isEscaped (by decide +kernel), by decide +kernel, by decide +kernel,
    by decide +kernel, by decide +kernel⟩

end Bindery.CommandLine
