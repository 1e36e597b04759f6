import Bindery.Config.Document
import Bindery.Config.Resolve
import Bindery.Linking
import Bindery.Writer

/-!
# Building a list of components

A build resolves the configuration of every component, links the components, and then emits
them one after another: a component is generated as a whole before any of its files is
written. The first component that fails stops the build, and what was written before it stays.
-/

namespace Bindery

/-- What turns a component into source texts, or says why it cannot. -/
abbrev Generator := Config → Interface → Except Text Bundle

/-- The generator of Kotlin sources. -/
def Generator.kotlin [Stack] (emitStub : Bool) : Generator := fun config interface =>
  (Bundle.generate emitStub config interface).mapError Fault.cause

/-- What holds for a whole build. -/
structure Settings where
  writer : Writer
  cdylib : Option Text := none
  deriving Repr

/-- The files written, and the complaints of the formatter. -/
structure Report where
  written : List Path
  warnings : List FormatResult
  deriving DecidableEq, Repr

namespace Report

/-- The report on files in the order in which they were written. -/
def ofWritten (files : List Written) : Report :=
  { written := files.map Written.path
    warnings := FormatResult.failed (files.filterMap Written.format) }

end Report

namespace Build

def record (host : Host) (level : Level) (message : Text) (component : Text := noComponent) :
    Run Unit :=
  Run.record host { level, message, part := "orchestrator", component }

/-- The outputs of one component. -/
def outputs (generator : Generator) (c : Component) : Except BuildError (List Output) :=
  match generator c.config c.interface with
  | .ok bundle => .ok (bundle.outputs c.interface.component c.package c.config.multiplatform)
  | .error reason => .error ⟨c.interface.component, .generation reason⟩

/-- A failure to write names the component. -/
def blamed (component : Text) : Failure → Failure
  | .write e => .build ⟨component, .write e⟩
  | e => e

/-- Generates one component and writes its files. -/
def emit [Stack] (host : Host) (generator : Generator) (writer : Writer) (c : Component) :
    Run (List Written) := do
  let name := c.interface.component
  record host .info ("Generating bindings for " ++ name) name
  let outputs ← Run.ofExcept Failure.build (outputs generator c)
  let files ← tryCatch (outputs.mapM (writer.write host)) fun e => throw (blamed name e)
  record host .debug ("Wrote " ++ toString files.length ++ " files") name
  return files

/-- Emits all components, whatever becomes of each, and only then fails for the first one that
failed. -/
def emitAll [Stack] (host : Host) (generator : Generator) (writer : Writer)
    (components : List Component) : Run (List (List Written)) := do
  let outcomes ← components.mapM fun c => fun w =>
    let (outcome, w) := emit host generator writer c w
    (.ok outcome, w)
  outcomes.mapM (Run.ofExcept id)

/-- Emits the components, side by side when there is more than one worker. -/
def write [Stack] (host : Host) (generator : Generator) (writer : Writer) (workers : Int)
    (components : List Component) : Run Report := do
  let files ← if 1 < workers then emitAll host generator writer components
    else components.mapM (emit host generator writer)
  let report := Report.ofWritten files.flatten
  record host .info ("Generated " ++ toString report.written.length ++ " files for " ++
    toString components.length ++ " components")
  return report

/-- Links the components. -/
def link (host : Host) (cdylib : Option Text) (components : List Component) :
    Run (List Component) := do
  let (packages, linked) := Linking.link cdylib components
  let table := Value.table none (packages.map fun e => (.text e.1, .text e.2))
  let shown ← Run.ofExcept Failure.fault table.literal
  Run.record host
    { level := .debug, part := "linker"
      message := "Linked " ++ toString components.length ++ " components: " ++ shown }
  return linked

/-- An interface with the configuration that a document gives it. -/
def component (force : Bool) (interface : Interface) (document : Table) :
    Except Failure Component :=
  (Config.resolve document force (some interface.component)).map fun config => ⟨interface, config⟩

/-- Builds interfaces with one document each. -/
def run [Stack] (host : Host) (generator : Generator) (force : Bool) (settings : Settings)
    (workers : Int) (interfaces : List Interface) (documents : List Table) : Run Report := do
  if interfaces.length ≠ documents.length then throw (.count .documents)
  let components ← Run.ofExcept id
    ((interfaces.zip documents).mapM fun e => component force e.1 e.2)
  let components ← link host settings.cdylib components
  write host generator settings.writer workers components

/-- One document for every interface, from as many, from a single one, or from none. -/
def spread (interfaces : List Interface) : List Table → List Table
  | [] => interfaces.map fun _ => []
  | [document] => interfaces.map fun _ => document
  | documents => documents

/-- Builds interfaces with the documents in files: one for each, one for all, or none. -/
def runFiles [Stack] (host : Host) (generator : Generator) (force : Bool) (settings : Settings)
    (workers : Int) (interfaces : List Interface) (files : List Path.Wanted) : Run Report := do
  record host .info ("Starting generation run into " ++ settings.writer.outDir.text)
  if 1 < files.length && files.length ≠ interfaces.length then
    throw (.count (.configFiles interfaces.length files.length))
  let documents ← files.mapM fun file => do
    let path ← Run.ofExcept Failure.fault file
    Run.ofExcept id (Document.load host (← Run.tree) path)
  run host generator force settings workers interfaces
    (spread interfaces documents)

end Build

end Bindery
