import Bindery.Build.Run
import Bindery.CommandLine.Arguments
import Bindery.CommandLine.Words
import Bindery.Config.Save
import Bindery.Interface.Load
import Bindery.Merge.Basic

/-!
# Running the program

A run sets up the log, executes a command and ends in one of a few ways (`Ending`): with lines
to print, with a message about an error that the command expects, or with a failure that it
does not expect. A line that the output does not take is such a failure too. Arguments are refused
before anything is done.
-/

namespace Bindery.CommandLine

/-- How a run ends. -/
inductive Ending where
  | finished (lines : List Text)
  | failed (message : Text)
  | refused (error : UsageError)
  | helped (text : Text)
  /-- The failure is none that the command reports. -/
  | escaped (failure : Failure)
  /-- The output took some lines, and then one that it did not take. -/
  | interrupted (lines : List Text) (failure : Failure)

namespace Ending

/-- The status of the program; a failure that escapes leaves it open. -/
def status? : Ending → Option Nat
  | .finished _ | .helped _ => some 0
  | .failed _ => some 1
  | .refused _ => some 2
  | .escaped _ | .interrupted _ _ => none

/-- What the program prints. -/
def printed : Ending → Text
  | .finished lines | .interrupted lines _ => lines.flatMap fun line => line ++ "\n"
  | .helped text => text
  | _ => ""

/-- What the program complains about at its end. -/
def complaint : Ending → Text
  | .failed message => message ++ "\n"
  | .refused error => error.message ++ "\n"
  | _ => ""

end Ending

/-- A path as messages show it: as seen from the working directory when it is below it. -/
def shownPath (host : Host) (path : Path) : Text := ((host.cwd.below? path).getD path).text

/-- What a command says about its failure. -/
def failedMessage (command reason : Text) : Text := fullName command ++ " failed: " ++ reason

/-- Ends with lines to print, which the output takes up to the first that it refuses. -/
def print (host : Host) (lines : List Text) : Ending :=
  match lines.findSome? host.refusal? with
  | none => .finished lines
  | some f =>
    .interrupted (lines.takeWhile fun line => (host.refusal? line).isNone) (.fault f)

/-! ## Generating -/

/-- The reason that the generating command gives for a failure, if it expects it. -/
def generateReason? : Failure → Option Text
  | .config e => some ("configuration error: " ++ e.message)
  | .build e => some (e.message ++ "\nRun with --verbose for more details.")
  | .interface e => some e.message
  | .json e => some e.message
  | .file e => if e.problem = .tooDeep then none else some e.message
  | .count e => some e.message
  | .fault f => f.sentence?
  | .write _ => none

/-- The output directory, from the root. A path too long is refused only when it is used. -/
def outDirOf (host : Host) (wanted : Path.Wanted) : Except Failure Path := do
  let path ← host.expand (← wanted)
  match FileTree.checkText path.text with
  | .error .nameTooLong | .ok () => return { Path.settled host.cwd path with root := .root }
  | .error problem => throw (.file ⟨problem, path⟩)

/-- The environment variable that holds the formatter's command. -/
def formatterVariable : String := "KMPBINDGEN_FORMATTER"

/-- The settings of a build, with a formatter of the host's choice. -/
def settingsOf (args : GenerateArguments) (outDir : Path) (formatter : List Text) : Settings :=
  let writer : Writer := { outDir, formats := args.formats, timeout := args.timeout }
  { writer := if formatter.isEmpty then writer else { writer with formatter }
    cdylib := args.cdylib }

/-- The lines about a report. -/
def reportLines (host : Host) (report : Report) : List Text :=
  report.written.map (fun path => "Wrote " ++ shownPath host path) ++
    report.warnings.map fun r =>
      "Warning: unable to auto-format " ++ shownPath host r.path ++ ": " ++ r.message

/-- Loads the interfaces and builds them. -/
def build [Stack] (host : Host) (args : GenerateArguments) (settings : Settings) : Run Report := do
  let interfaces ← args.interfaces.mapM fun path => do
    Run.ofExcept id (Interface.load host (← Run.tree) path)
  Build.runFiles host (Generator.kotlin false) args.multiplatform settings args.workers interfaces
    args.configs

def generate [Stack] (host : Host) (args : GenerateArguments) (w : World) : Ending × World :=
  match outDirOf host args.outDir, words host.formatterLine with
  | .error e, _ => (.escaped e, w)
  | .ok _, .error problem =>
    let reason := "invalid " ++ formatterVariable ++ ": " ++ problem.message
    (.failed (failedMessage generateName reason), w)
  | .ok outDir, .ok formatter =>
    match (build host args (settingsOf args outDir formatter)).run w with
    | (.ok report, w) => (print host (reportLines host report), w)
    | (.error e, w) =>
      match generateReason? e with
      | some reason => (.failed (failedMessage generateName reason), w)
      | none => (.escaped e, w)

/-! ## Merging -/

/-- The reason that the merging command gives for a failure, if it expects it. -/
def mergeReason? : Failure → Option Text
  | .config e => some e.message
  | _ => none

/-- Loads a document of the tree as it is now. -/
def loadDocument [Stack] (host : Host) (wanted : Path.Wanted) : Run Document := do
  let path ← Run.ofExcept Failure.fault wanted
  Run.ofExcept id (Document.load host (← Run.tree) path)

/-- Notes that a configuration tells nothing about packages. -/
def skipConfig (host : Host) (wanted : Path.Wanted) : Run Unit := do
  let path ← Run.ofExcept Failure.fault wanted
  Run.record host
    { level := .debug, part := "merge"
      message := "Skipping " ++ path.text ++ ": no crate_name or [bindings.kotlin]" }

/-- Finds the packages of other components, when there are any. -/
def harvestOf [Stack] (host : Host) (args : MergeArguments) : Option (Run Merge.Packages) :=
  if args.externalConfigs.isEmpty then none
  else some (Merge.harvest (loadDocument host) (skipConfig host) args.externalConfigs)

/-- Merges a configuration and saves the result; tells where. -/
def mergeAndSave [Stack] (host : Host) (args : MergeArguments) : Run Path := do
  let base ← args.config.mapM (loadDocument host)
  let merged ← Merge.merge base args.supplied (harvestOf host args)
  let output ← Run.ofExcept Failure.fault args.output
  let w ← get
  let (tree, outcome) := merged.save host output w.tree
  set { w with tree }
  Run.ofExcept id outcome
  return output

def merge [Stack] (host : Host) (args : MergeArguments) (w : World) : Ending × World :=
  match (mergeAndSave host args).run w with
  | (.ok output, w) => (print host ["Merged config written to " ++ shownPath host output], w)
  | (.error e, w) =>
    match mergeReason? e with
    | some reason => (.failed (failedMessage mergeName reason), w)
    | none => (.escaped e, w)

/-! ## The program -/

/-- The help text of a program. -/
def helpOf (program : Text) : Text :=
  (([programGrammar, generateGrammar, mergeGrammar].find? fun g => g.program == program).map
    Grammar.helpText).getD ""

/-- Runs an invocation. -/
def execute [Stack] (host : Host) (i : Invocation) (w : World) : Ending × World :=
  match w.setUpLog host i.verbose i.logFile with
  | (w, .error e) => (.escaped e, w)
  | (w, .ok ()) =>
    match i.command with
    | .generate args => generate host args w
    | .merge args => merge host args w

/-- Runs the program on arguments. -/
def run [Stack] (host : Host) (args : List Text) (w : World) : Ending × World :=
  match Invocation.parse args with
  | .error (.refused e) => (.refused e, w)
  | .error (.help program) => (.helped (helpOf program), w)
  | .ok i => execute host i w

end Bindery.CommandLine
