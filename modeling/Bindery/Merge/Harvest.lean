import Bindery.Config.Document
import Bindery.Value.Text

/-!
# The packages of other components

A configuration that names its crate tells the package of that crate and of the crates that it
refers to itself. Of several packages for one crate the first one told counts, within a
configuration and across a list of them.
-/

namespace Bindery.Merge

/-- Packages by crate. -/
abbrev Packages := List (Text × Text)

/-- An entry by the texts that its key and its value are shown as. -/
def shownEntry (e : Value × Value) : Except Fault (Text × Text) := do
  let crate ← e.1.shown
  return (crate, ← e.2.shown)

/-- What a document tells about packages: nothing unless it names its crate and has a table
of nested settings. -/
def contribution (document : Table) : Except Fault (Option Packages) := do
  let nested := (((document.get? "bindings").bind Value.table?).bind
    fun bindings => bindings.get? "kotlin").bind Value.table?
  match (document.get? "crate_name").bind Value.text?, nested with
  | some crate, some (nested : Table) =>
    let own := ((nested.get? "package_name").bind Value.text?).map fun package => (crate, package)
    let others := ((nested.get? "external_packages").bind Value.table?).getD []
    return some (own.toList ++ (← others.mapM shownEntry))
  | _, _ => return none

variable {m : Type → Type} [Monad m] [MonadExceptOf Failure m]

/-- Fails where a computation on values fails. -/
def combined {α : Type} (outcome : Except Fault α) : m α :=
  match outcome with
  | .ok a => pure a
  | .error f => throw (.fault f)

/-- The packages that the documents in files tell. `load` opens a file, and `skip` is told of
each that tells nothing. -/
def harvest {α : Type} (load : α → m Document) (skip : α → m Unit) (files : List α) :
    m Packages :=
  files.foldlM (fun found file => do
    match ← combined (contribution (← load file)) with
    | some told => return Assoc.union found told
    | none =>
      skip file
      return found) []

end Bindery.Merge
