import Bindery.Config.Document
import Bindery.Toml.Write
import Bindery.Yaml.Write

/-!
# Saving a document

A document is written in the notation that the ending of its file stands for. Its text is
made first, so a document that has none changes no file.
-/

namespace Bindery.Document

/-- The text of a document in a notation; a refusal names the source. -/
def toText [Stack] (written : Notation) (source : Text) (d : Document) : Except Failure Text :=
  match written with
  | .toml =>
    match (Toml.write d).run with
    | .ok (.ok text) => .ok text
    | .ok (.error problem) => .error (.config ⟨.unwritable problem, some source⟩)
    | .error f => .error (.fault f)
  | .yaml => (Yaml.write d).mapError Failure.fault

/-- The text of a document for a file. -/
def textFor [Stack] (d : Document) (path : Path) : Except Failure Text :=
  match Notation.ofEnding? path.ending with
  | some written => d.toText written path.name
  | none => .error (.config ⟨.unknownEnding, some path.name⟩)

/-- The file tree after a document is saved, and whether it was. -/
def save [Stack] (host : Host) (d : Document) (path : Path) (tree : FileTree) :
    FileTree × Except Failure Unit :=
  match d.textFor path with
  | .error e => (tree, .error e)
  | .ok text =>
    let (tree, outcome) := tree.writeText host.cwd path text
    (tree, outcome.mapError Failure.file)

end Bindery.Document
