import Bindery.Text.Basic

/-!
# What is wrong with an interface description
-/

namespace Bindery

inductive InterfaceProblem where
  | malformed
  | notATable
  | noNamespace
  deriving DecidableEq, Repr

/-- A refused description, with the name of its file. -/
structure InterfaceError where
  problem : InterfaceProblem
  source : Text
  deriving DecidableEq, Repr

def InterfaceError.message (e : InterfaceError) : Text :=
  match e.problem with
  | .malformed => "Failed to parse " ++ e.source ++ ": malformed text"
  | .notATable => e.source ++ " must contain a mapping at the root"
  | .noNamespace => e.source ++ " is missing a 'namespace'"

end Bindery
