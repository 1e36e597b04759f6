import Bindery.Build.Error
import Bindery.Config.Error
import Bindery.Interface.Error
import Bindery.Json.Read

/-!
# Everything that ends a run early

The errors of all parts under one roof.
-/

namespace Bindery

inductive Failure where
  | config (error : ConfigError)
  | interface (error : InterfaceError)
  | json (error : JsonError)
  | file (error : FileError)
  | write (error : WriteError)
  | build (error : BuildError)
  | count (error : CountError)
  | fault (f : Fault)
  deriving DecidableEq, Repr

/-- A refused configuration is a failure. -/
instance : MonadLift (Except ConfigError) (Except Failure) := ⟨Except.mapError Failure.config⟩

/-- A fault is a failure. -/
instance : MonadLift (Except Fault) (Except Failure) := ⟨Except.mapError Failure.fault⟩

/-- What a failure says, its label if it has no sentence. -/
def Failure.message : Failure → Text
  | .config e => e.message
  | .interface e => e.message
  | .json e => e.message
  | .file e => e.message
  | .write e => e.message
  | .build e => e.message
  | .count e => e.message
  | .fault (.undefined member) => Fault.undefinedMessage member
  | .fault f => f.sentence?.getD f.label

end Bindery
