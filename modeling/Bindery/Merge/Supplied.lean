import Bindery.Fault
import Bindery.Text.Blank
import Bindery.Value.Basic

/-!
# What a build tool supplies

The settings that a build tool knows about a component. Each is optional, and is a value as
documents hold them: nothing is required of its form before the settings are resolved.
-/

namespace Bindery

structure Supplied where
  crateName : Option Value := none
  packageRoot : Option Value := none
  packageName : Option Value := none
  cdylibName : Option Value := none
  multiplatform : Option Value := none
  targets : Option Value := none
  immutableRecords : Option Value := none
  omitChecksums : Option Value := none
  customTypes : Option Value := none
  targetVersion : Option Value := none
  disableJavaCleaner : Option Value := none
  serializableTypes : Option Value := none
  pascalCaseEnums : Option Value := none
  jvmLibraries : Option Value := none
  androidLibraries : Option Value := none
  sharedLibraries : Option Value := none
  deriving Inhabited

namespace Supplied

/-- The settings that are one text or one truth value. -/
def singles (s : Supplied) : List (Text × Option Value) := [
  ("package_name", s.packageName),
  ("cdylib_name", s.cdylibName),
  ("kotlin_multiplatform", s.multiplatform),
  ("generate_immutable_records", s.immutableRecords),
  ("omit_checksums", s.omitChecksums),
  ("disable_java_cleaner", s.disableJavaCleaner),
  ("generate_serializable_types", s.serializableTypes),
  ("use_pascal_case_enum_class", s.pascalCaseEnums)]

/-- The settings that are lists of texts. -/
def lists (s : Supplied) : List (Text × Option Value) := [
  ("kotlin_targets", s.targets),
  ("jvm_dynamic_library_dependencies", s.jvmLibraries),
  ("android_dynamic_library_dependencies", s.androidLibraries),
  ("dynamic_library_dependencies", s.sharedLibraries)]

/-- Whether a value is blank; only texts and bytes can be asked. -/
def isBlank? : Value → Except Fault Bool
  | .text t => .ok (Text.isAllBlank t)
  | .scalar (.bytes bs) => .ok (bs.all fun b => b = 32 || (9 ≤ b && b ≤ 13))
  | _ => .error .noOperation

/-- The version, unless it counts as nothing or is blank. -/
def version? (s : Supplied) : Except Fault (Option Value) :=
  match s.targetVersion.filter fun v => !v.isVacuous with
  | none => .ok none
  | some v => do return if ← isBlank? v then none else some v

end Supplied

end Bindery
