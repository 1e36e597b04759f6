import Bindery.FileTree.Error
import Bindery.Toml.Problem

/-!
# What is wrong with a configuration

Every reason for which a configuration document is refused, when it is read, resolved or
written, with the source it comes from.
-/

namespace Bindery

/-- What a setting is required to be. -/
inductive Expectation where
  | text | bool | texts | textTable | table
  deriving DecidableEq, Repr

def Expectation.wording : Expectation → String
  | .text => "a string"
  | .bool => "a boolean"
  | .texts => "a list of strings"
  | .textTable => "a table of strings"
  | .table => "a table"

/-- The two notations of configuration documents. -/
inductive Notation where
  | toml
  | yaml
  deriving DecidableEq, Repr

namespace Notation

def name : Notation → String
  | .toml => "TOML"
  | .yaml => "YAML"

/-- The notation that a file's ending stands for. -/
def ofEnding? (ending : Text) : Option Notation :=
  if ending = ".toml" then some .toml
  else if ending = ".yml" || ending = ".yaml" then some .yaml
  else none

end Notation

inductive ConfigProblem where
  | wrongKind (key : Text) (expected : Expectation) (got : Kind)
  | unknownTarget (name key : Text)
  | unreadable (error : FileError)
  | malformed (written : Notation)
  | notATable
  | unwritable (problem : Toml.Problem)
  | unknownEnding
  deriving DecidableEq, Repr

/-- A refused configuration, with the name of where it comes from. -/
structure ConfigError where
  problem : ConfigProblem
  source : Option Text
  deriving DecidableEq, Repr

namespace ConfigProblem

/-- The setting that is wrong, when it is one setting. -/
def key? : ConfigProblem → Option Text
  | .wrongKind key _ _ => some key
  | .unknownTarget _ key => some key
  | _ => none

/-- The wording; what exactly the reader of a notation met is left out. -/
def wording : ConfigProblem → Text
  | .wrongKind key expected got =>
    "invalid value for '" ++ key ++ "': expected " ++ expected.wording ++ ", got " ++ got.name
  | .unknownTarget name key =>
    "unknown target '" ++ name ++ "' in '" ++ key ++ "' (expected one of: jvm, android, native)"
  | .unreadable error => "Failed to read configuration: " ++ error.message
  | .malformed written => "Failed to parse " ++ written.name ++ ": malformed text"
  | .notATable => "configuration must contain a mapping at the root"
  | .unwritable problem => "cannot be written as TOML: " ++ problem.message
  | .unknownEnding => "merged configuration must be a .toml or .yml file"

end ConfigProblem

/-- The message names the source in front, unless it is empty. -/
def ConfigError.message (e : ConfigError) : Text :=
  match e.source with
  | some source => if source.isEmpty then e.problem.wording else source ++ ": " ++ e.problem.wording
  | none => e.problem.wording

end Bindery
