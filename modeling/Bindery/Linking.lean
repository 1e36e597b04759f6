import Bindery.Config.Basic
import Bindery.Interface.Basic

/-!
# Linking the components of a build

Every component gets its package and library name filled in; then the packages of all
components, by crate, are taken down once (`packages`), and each component's external packages
are completed with those of its siblings. What a component already says about a crate stays.
-/

namespace Bindery

/-- An interface with its configuration. -/
structure Component where
  interface : Interface
  config : Config
  deriving Inhabited

namespace Component

/-- The component with its package and library name set, where they were not. -/
def withNames (cdylib : Option Text) (c : Component) : Component :=
  let name := c.interface.component
  { c with config :=
    { c.config with
      packageName := some (c.config.packageName.getD (c.config.packageFor name))
      cdylibName := some (c.config.cdylibName.getD (c.config.cdylibFor name cdylib)) } }

/-- The effective package. -/
def package (c : Component) : Text := c.config.packageFor c.interface.component

/-- The component with the packages of all crates but its own, where it names none. -/
def withPackages (packages : List (Text × Text)) (c : Component) : Component :=
  let others := packages.filter fun e => e.1 != c.interface.crateName
  { c with config :=
    { c.config with externalPackages := Assoc.union c.config.externalPackages others } }

end Component

namespace Linking

/-- The package of every crate; of two components with one crate name the last counts. -/
def packages (components : List Component) : List (Text × Text) :=
  Assoc.ofPairs (components.map fun c => (c.interface.crateName, c.package))

/-- The packages of a build and its components, linked. -/
def link (cdylib : Option Text) (components : List Component) :
    List (Text × Text) × List Component :=
  let named := components.map (Component.withNames cdylib)
  let packages := packages named
  (packages, named.map (Component.withPackages packages))

end Linking

end Bindery
