import Bindery.Config.Resolve
import Bindery.Merge.Combine
import Bindery.Merge.Harvest
import Bindery.Merge.Supplied

/-!
# Merging a document with supplied settings

The merged document keeps its settings in `bindings.kotlin`, whichever shape the document that it
starts from, its base, has. Of single settings the value of the base counts before the supplied
one; lists are put one after another; tables are united, the entries of the base first. The name
of the crate and the package root are the supplied ones, everything else at the root stays. A
value that is taken over is the same part of the document as before; what is put together here is
a new one.
-/

namespace Bindery

/-- Sets the value under a key, or takes the key away. -/
def Table.replace (t : Table) (key : Text) (v : Option Value) : Table :=
  match v with
  | some v => t.put key v
  | none => t.erase key

namespace Merge

variable {m : Type → Type} [Monad m] [MonadExceptOf Failure m]

/-- The entries that have a value. -/
def present (entries : List (Text × Option Value)) : Table :=
  entries.filterMap fun e => e.2.map fun v => (.text e.1, v)

/-- The single settings: the value of the base, else the supplied one. -/
def singles (own : Table) (s : Supplied) : List (Text × Option Value) :=
  s.singles.map fun e => (e.1, (own.given? e.1).or e.2)

/-- The lists of settings, the items of the base first. -/
def lists (own : Table) (s : Supplied) : Except Fault (List (Text × Option Value)) :=
  s.lists.mapM fun e => do
    return (e.1, (← mergeList (own.given? e.1) e.2).map (.list none))

/-- Packages as a document holds them. -/
def packageTable (packages : Packages) : Table :=
  packages.map fun e => (.text e.1, .text e.2)

/-- The merged settings. `harvest` finds the packages of other components, when there are
any. -/
def settings (own : Table) (s : Supplied) (harvest : Option (m Packages)) : m Table := do
  let lists ← combined (lists own s)
  let customTypes ← combined (mergeTable (own.given? "custom_types") s.customTypes)
  let harvested ← match harvest with
    | none => pure none
    | some found => some <$> found
  let packages ← combined (mergeTable (own.given? "external_packages")
    (harvested.map fun found => .table none (packageTable found)))
  let version ← combined s.version?
  let others : List (Text × Option Value) := [
    ("custom_types", customTypes.map (.table none)),
    ("external_packages", packages.map (.table none)),
    ("kotlin_target_version", (own.given? "kotlin_target_version").or version)]
  return present (singles own s ++ lists ++ others)

/-- A document with the merged settings in their place. -/
def placed (base : Table) (s : Supplied) (settings : Table) : Table :=
  let root := (base.replace "crate_name" s.crateName).replace "package_root" s.packageRoot
  let bindings : Table := ((root.get? "bindings").bind Value.table?).getD []
  root.put "bindings" (.table none (bindings.put "kotlin" (.table none settings)))

/-- The document that results from merging; none counts as the empty one. -/
def merge (base : Option Document) (s : Supplied) (harvest : Option (m Packages)) :
    m Document := do
  let base := base.getD Document.empty
  match select base none with
  | .error e => throw (.config e)
  | .ok selection =>
    return placed base s (← settings selection.table s harvest)

end Merge

end Bindery
