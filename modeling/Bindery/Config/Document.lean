import Bindery.FileTree.Text
import Bindery.Host
import Bindery.Toml.Read
import Bindery.Value.Marks
import Bindery.Yaml.Read

/-!
# Configuration documents

A document is a table. Its file is YAML or, with any other ending, TOML. A file that is missing,
blank or null is the empty document; one that is no table is refused. The parts of a document
that was read have marks.
-/

namespace Bindery

abbrev Document := Table

namespace Document

def empty : Document := []

/-- The value that a text writes, or why it writes none. -/
def valueOf [Stack] (written : Notation) (text : String) : Except ReadProblem Value :=
  match written with
  | .yaml => Yaml.read text
  | .toml => (Toml.read text).map fun t => .table none t.marked

/-- The document that a text writes. -/
def ofText [Stack] (written : Notation) (source : Text) (text : String) : Except Failure Document :=
  if Text.isAllBlank text then .ok empty
  else
    match valueOf written text with
    | .error .malformed => .error (.config ⟨.malformed written, some source⟩)
    | .error (.fault f) => .error (.fault f)
    | .ok .null => .ok empty
    | .ok (.table _ t) => .ok t
    | .ok _ => .error (.config ⟨.notATable, some source⟩)

/-- The document in a file; a refusal names the file. -/
def load [Stack] (host : Host) (tree : FileTree) (path : Path) : Except Failure Document := do
  let path ← host.expand path
  match tree.isThere host.cwd path with
  | .error e => .error (.file e)
  | .ok false => .ok empty
  | .ok true =>
    match tree.readText host.cwd path with
    | .error (.file e) => .error (.config ⟨.unreadable e, some path.name⟩)
    | .error e => .error e
    | .ok text => ofText ((Notation.ofEnding? path.ending).getD .toml) path.name text

end Document

end Bindery
