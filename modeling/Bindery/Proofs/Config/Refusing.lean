import Bindery.Config.Resolve
import Bindery.Proofs.Outcome

/-!
# How a document is refused

A document that is not resolved holds a setting of a wrong form, or a value that cannot be shown
(`Config.resolve_only`). No other failure can come of it.
-/

namespace Bindery

/-- A failure that a document alone can bring about. -/
inductive Failure.OfDocument : Failure → Prop where
  | config (error : ConfigError) : OfDocument (.config error)
  | fault (f : Fault) : OfDocument (.fault f)

namespace Outcome

variable {α : Type}

/-- An error of a configuration is one that a document is refused with. -/
theorem only_config (x : Except ConfigError α) :
    Only Failure.OfDocument (liftM x : Except Failure α) := by
  intro e h
  cases x with
  | ok a => cases h
  | error error =>
    obtain rfl := Except.error.inj h
    exact .config error

/-- And so is a fault. -/
theorem only_fault (x : Except Fault α) :
    Only Failure.OfDocument (liftM x : Except Failure α) := by
  intro e h
  cases x with
  | ok a => cases h
  | error f =>
    obtain rfl := Except.error.inj h
    exact .fault f

end Outcome

open Outcome

/-- Reading a custom type fails as a document does. -/
theorem Reader.customType_only (r : Reader) (key : Text) (entry : Value × Value) :
    Only Failure.OfDocument (r.customType key entry) := by
  apply only_bind (only_fault _)
  intro name
  split
  · apply only_bind (only_config _)
    intro conversions
    exact only_pure _
  · intro e h
    obtain rfl := Except.error.inj h
    exact .config _

/-- Reading custom types fails as a document does, at one of them. -/
theorem Reader.customTypes_only (r : Reader) (key : Text) :
    Only Failure.OfDocument (r.customTypes key) := by
  apply only_bind (only_config _)
  intro entries
  split
  · exact only_pure _
  · apply only_bind (only_mapM (fun entry => r.customType_only key entry) _)
    intro customs
    exact only_pure _

namespace Config

/-- Reading a table of settings fails as a document does, at one of the settings. -/
theorem ofTable_only (table : Table) (source : Option Text) :
    Only Failure.OfDocument (ofTable table source) := by
  -- The settings in their order; the custom types are the eighth.
  iterate 7 refine only_bind (only_config _) fun _ => ?_
  refine only_bind (Reader.customTypes_only _ _) fun _ => ?_
  iterate 7 refine only_bind (only_config _) fun _ => ?_
  exact only_pure _

/-- A document is refused for its settings, and in no other way. -/
theorem resolve_only (document : Table) (force : Bool) (source : Option Text) :
    Only Failure.OfDocument (resolve document force source) := by
  apply only_bind (only_config _)
  intro selection
  apply only_bind (ofTable_only _ _)
  intro config
  exact only_pure _

end Config

end Bindery
