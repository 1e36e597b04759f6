import Bindery.Config.Error
import Bindery.Value.Text

/-!
# A component's configuration

The settings of one component, their defaults, and the names that follow from them: an unset
or empty package or library name gives way to one made of the component's namespace.
-/

namespace Bindery

/-- The platforms of a multiplatform build. -/
inductive Target where
  | jvm
  | android
  | native
  deriving DecidableEq, Repr

namespace Target

def name : Target → String
  | .jvm => "jvm"
  | .android => "android"
  | .native => "native"

/-- All targets, in the order in which a multiplatform build selects them by default. -/
def all : List Target := [.jvm, .android, .native]

def ofName? (name : Text) : Option Target := all.find? fun t => t.name == name

end Target

/-- How a named interface type appears in generated code: imports it needs, the name of its
type there, and the expressions that convert values, with the value's place as a pair of
braces. -/
structure CustomType where
  imports : List Text
  typeName : Option Text
  lift : Option Text
  lower : Option Text
  deriving DecidableEq, Repr, Inhabited

structure Config where
  packageName : Option Text := none
  cdylibName : Option Text := none
  multiplatform : Bool := false
  targets : List Target := []
  externalPackages : List (Text × Text) := []
  immutableRecords : Bool := false
  omitChecksums : Bool := false
  customTypes : List (Text × CustomType) := []
  targetVersion : Option Text := none
  disableJavaCleaner : Bool := false
  serializableTypes : Bool := false
  pascalCaseEnums : Bool := false
  jvmLibraries : List Text := []
  androidLibraries : List Text := []
  sharedLibraries : List Text := []
  deriving DecidableEq, Repr, Inhabited

def defaultPackage (component : Text) : Text := "uniffi." ++ component

def defaultCdylib (component : Text) : Text := "uniffi_" ++ component

namespace Config

/-- The package of a component's generated code. -/
def packageFor (c : Config) (component : Text) : Text :=
  (Text.filled? c.packageName).getD (defaultPackage component)

/-- The native library that a component's generated code loads: its own, else the build's,
else one made of its namespace. -/
def cdylibFor (c : Config) (component : Text) (build : Option Text) : Text :=
  ((Text.filled? c.cdylibName).or (Text.filled? build)).getD (defaultCdylib component)

end Config

end Bindery
