import Bindery.Config.Error
import Bindery.FileTree.Text
import Bindery.Host
import Bindery.Interface.Basic
import Bindery.Value.Text
import Bindery.Yaml.Read

/-!
# Loading an interface description

A description is a table in YAML or, with any other ending, in JSON. A namespace is required;
the crate is named after it unless it is named itself; and of the lists of functions, records
and enums everything that is no table is passed over.
-/

namespace Bindery.Interface

/-- The tables of a list; what is no list has none. -/
def tablesOf : Option Value → List Table
  | some (.list _ items) => items.filterMap Value.table?
  | _ => []

/-- The name of the crate, when one is given. -/
def crateName? (t : Table) : Except Fault (Option Text) :=
  match (t.get? "crate_name").filter fun v => !v.isVacuous with
  | some v => some <$> v.shown
  | none => .ok none

/-- The interface that a value describes. -/
def ofValue (source : Text) (v : Value) : Except Failure Interface :=
  match v.table? with
  | none => .error (.interface ⟨.notATable, source⟩)
  | some t =>
    match Text.filled? ((t.get? "namespace").bind Value.text?) with
    | none => .error (.interface ⟨.noNamespace, source⟩)
    | some name => do
      let crate ← crateName? t
      return { component := name
               crateName := crate.getD name
               functions := tablesOf (t.get? "functions")
               records := tablesOf (t.get? "records")
               enums := tablesOf (t.get? "enums") }

/-- The value that the text of a YAML description writes; nothing at all counts as an empty
table. -/
def yamlValue [Stack] (source : Text) (text : String) : Except Failure Value :=
  match Yaml.read text with
  | .error .malformed => .error (.interface ⟨.malformed, source⟩)
  | .error (.fault f) => .error (.fault f)
  | .ok v => .ok (if v.isVacuous then .table none [] else v)

def jsonValue [Stack] (text : String) : Except Failure Value :=
  match Json.read text with
  | .error (.inl e) => .error (.json e)
  | .error (.inr f) => .error (.fault f)
  | .ok v => .ok v

/-- The interface that a file describes. -/
def load [Stack] (host : Host) (tree : FileTree) (path : Path) : Except Failure Interface := do
  let text ← tree.readText host.cwd path
  let v ← if Notation.ofEnding? path.ending = some .yaml then yamlValue path.name text
    else jsonValue text
  ofValue path.name v

end Bindery.Interface
