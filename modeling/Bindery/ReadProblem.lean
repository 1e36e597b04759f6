import Bindery.Fault

/-!
# Why a written document has no value

A reader either finds the text malformed, and then no more is said about it, or meets a scalar
that names a type it cannot be read as.
-/

namespace Bindery

inductive ReadProblem where
  | malformed
  | fault (f : Fault)
  deriving DecidableEq, Repr

end Bindery
