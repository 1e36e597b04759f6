import Bindery.Destination
import Bindery.Kotlin.Source
import Bindery.World

/-!
# Writing generated files

A bundle becomes a list of outputs, each with its destination and its text (`Bundle.outputs`).
A writer puts an output below its directory and, where it formats, has the formatter called on
every source file after that file is written. A failing formatter leaves a result with a
complaint and stops nothing; a call of it that breaks stops the writing.
-/

namespace Bindery

/-- What an output is: a variant's source or the C header. -/
inductive OutputKind where
  | source (variant : Text)
  | header
  deriving DecidableEq, Repr

/-- One generated file. -/
structure Output where
  kind : OutputKind
  component : Text
  destination : Path
  text : Text
  deriving DecidableEq, Repr

namespace Output

/-- The source file of a variant. -/
def source (component package variant : Text) (multiplatform : Bool) (text : Text) : Output :=
  ⟨.source variant, component, Destination.binding package component variant multiplatform, text⟩

/-- The C header. -/
def header (component text : Text) : Output :=
  ⟨.header, component, Destination.header component, text⟩

def isSource (o : Output) : Bool := o.kind != .header

/-- What the log calls an output. -/
def title (o : Output) : Text :=
  match o.kind with
  | .source variant => variant ++ " bindings for " ++ o.component
  | .header => "cinterop header for " ++ o.component

end Output

/-- The outputs of a component's bundle: its sources in order, then the header. -/
def Bundle.outputs (b : Bundle) (component package : Text) (multiplatform : Bool) : List Output :=
  b.sources.map (fun s => Output.source component package s.1 multiplatform s.2) ++
    (b.header.map (Output.header component)).toList

/-- Where files go, and how they are formatted. -/
structure Writer where
  outDir : Path
  formats : Bool := true
  formatter : List Text := ["ktlint", "-F"]
  timeout : Value := .null
  deriving Repr

/-- A file that was written, with the result of formatting it when it was formatted. -/
structure Written where
  path : Path
  format : Option FormatResult := none
  deriving DecidableEq, Repr

namespace Writer

def record (host : Host) (level : Level) (message : Text) : Run Unit :=
  Run.record host { level, message, part := "writer" }

/-- The result for a file, with a warning about a complaint. -/
def result (host : Host) (path : Path) (complaint : Option Text) : Run FormatResult := do
  if let some text := complaint then
    record host .warning ("Unable to auto-format " ++ path.name ++ ": " ++ text)
  return ⟨path, complaint⟩

/-- Has a file formatted. -/
def format (host : Host) (w : Writer) (path : Path) : Run FormatResult := do
  match w.formatter with
  | [] => result host path (some Formatter.noCommand)
  | program :: _ =>
    record host .info ("Formatting " ++ path.name ++ " with " ++ program ++
      " (use --no-format to disable)")
    let outcome ← Run.format host ⟨w.formatter ++ [path.text], w.timeout⟩
    let complaint ← Run.ofExcept Failure.fault (outcome.complaint program)
    result host path complaint

/-- How a file error stops writing a file. -/
def failure (path : Path) (e : FileError) : Failure :=
  if e.problem.isRefusal then .write ⟨e.problem, path⟩ else .file e

/-- Writes one output, and has it formatted if it is a source file. -/
def write [Stack] (host : Host) (w : Writer) (o : Output) : Run Written := do
  let path := w.outDir ++ o.destination
  Run.changeTree (failure path) fun tree => tree.writeText host.cwd path o.text
  record host .debug ("Wrote " ++ o.title ++ " to " ++ path.text)
  if w.formats && o.isSource then
    return ⟨path, some (← w.format host path)⟩
  else
    return ⟨path, none⟩

end Writer

end Bindery
