import Bindery.FileTree.Error

/-!
# Why a build stops

A component's code cannot be generated or cannot be written, or the number of configurations
does not fit the number of components.
-/

namespace Bindery

/-- A generated file that could not be written. -/
structure WriteError where
  problem : FileProblem
  path : Path
  deriving DecidableEq, Repr

def WriteError.message (e : WriteError) : Text :=
  "Unable to write " ++ e.path.text ++ ": " ++ e.problem.wording

/-- What stops a component. -/
inductive BuildProblem where
  | generation (reason : Text)
  | write (error : WriteError)
  deriving DecidableEq, Repr

namespace BuildProblem

/-- The phase of the build in which a problem arises. -/
def phase : BuildProblem → String
  | .generation _ => "generation"
  | .write _ => "write"

def reason : BuildProblem → Text
  | .generation reason => reason
  | .write error => error.message

end BuildProblem

/-- A stopped component. -/
structure BuildError where
  component : Text
  problem : BuildProblem
  deriving DecidableEq, Repr

def BuildError.message (e : BuildError) : Text :=
  "[" ++ e.component ++ "] " ++ e.problem.phase ++ " failed: " ++ e.problem.reason

/-- Numbers of things that do not fit. -/
inductive CountError where
  | documents
  | configFiles (interfaces files : Nat)
  deriving DecidableEq, Repr

def CountError.message : CountError → Text
  | .documents => "each interface needs exactly one configuration document"
  | .configFiles interfaces files =>
    "expected 1 or " ++ toString interfaces ++ " config files, got " ++ toString files

end Bindery
