import Bindery.Config.Basic
import Bindery.Failure
import Bindery.Sequence

/-!
# Resolving a document

A document is flat, or holds its settings in the table `bindings.kotlin`; the two shapes are
never mixed (`select`). Each setting is read by one rule (`Reader.read`): absent or null gives
the default, a value of the expected form is taken, anything else is refused under the
setting's key. Settings are read in a fixed order, so the first bad one is blamed.
-/

namespace Bindery

/-- Where a document keeps its settings. -/
inductive Shape where
  | flat
  | nested
  deriving DecidableEq, Repr

/-- The part of a document that holds the settings. -/
structure Selection where
  shape : Shape
  table : Table

/-- The key of the nested settings. -/
def nestedKey : Text := "bindings.kotlin"

/-- The nested settings when the document has any, else the document itself. -/
def select (document : Table) (source : Option Text) : Except ConfigError Selection :=
  match (document.get? "bindings").bind Value.table? with
  | none => .ok ⟨.flat, document⟩
  | some bindings =>
    match bindings.get? "kotlin" with
    | none => .ok ⟨.flat, document⟩
    | some (.table _ nested) => .ok ⟨.nested, nested⟩
    | some v => .error ⟨.wrongKind nestedKey .table v.kind, source⟩

/-- A table of settings, with what errors say about it: the source, and the key of the table
itself in front of its settings' keys. -/
structure Reader where
  table : Table
  source : Option Text
  keyFront : Text := ""

namespace Reader

/-- Reads one setting: nothing when it is absent or null, else what `decode` makes of it. -/
def read {α : Type} (r : Reader) (key : Text) (expected : Expectation)
    (decode : Value → Option α) : Except ConfigError (Option α) :=
  match r.table.given? key with
  | none => .ok none
  | some v =>
    match decode v with
    | some a => .ok (some a)
    | none => .error ⟨.wrongKind (r.keyFront ++ key) expected v.kind, r.source⟩

def text? (r : Reader) (key : Text) : Except ConfigError (Option Text) :=
  r.read key .text Value.text?

def flag (r : Reader) (key : Text) : Except ConfigError Bool :=
  return (← r.read key .bool Value.bool?).getD false

def texts (r : Reader) (key : Text) : Except ConfigError (List Text) :=
  return (← r.read key .texts Value.texts?).getD []

/-- An entry whose key and value are texts. -/
def textEntry? : Value × Value → Option (Text × Text)
  | (.text k, .text v) => some (k, v)
  | _ => none

def textTable (r : Reader) (key : Text) : Except ConfigError (List (Text × Text)) :=
  return (← r.read key .textTable fun v => v.table?.bind fun t => t.mapM textEntry?).getD []

/-- The targets of a list of names, each once; the first unknown name is refused. -/
def targets (r : Reader) (key : Text) : Except ConfigError (List Target) := do
  let found ← (← r.texts key).mapM fun name =>
    match Target.ofName? name with
    | some target => .ok target
    | none => .error ⟨.unknownTarget name key, r.source⟩
  return Sequence.distinct found

/-- What a table says about a custom type. -/
def conversions (r : Reader) : Except ConfigError CustomType := do
  let imports ← r.texts "imports"
  let typeName ← r.text? "type_name"
  let lift ← r.text? "lift"
  let lower ← r.text? "lower"
  return ⟨imports, typeName, lift, lower⟩

/-- One custom type of the table under `key`. Its name is whatever its key is shown as. -/
def customType (r : Reader) (key : Text) (entry : Value × Value) :
    Except Failure (Text × CustomType) := do
  let name ← entry.1.shown
  match entry.2 with
  | .table _ t =>
    let inner : Reader := { r with table := t, keyFront := key ++ "." ++ name ++ "." }
    return (name, ← inner.conversions)
  | v => throw (.config ⟨.wrongKind (r.keyFront ++ key ++ "." ++ name) .table v.kind, r.source⟩)

def customTypes (r : Reader) (key : Text) : Except Failure (List (Text × CustomType)) := do
  match ← r.read key .table Value.table? with
  | none => return []
  | some entries => return Assoc.ofPairs (← entries.mapM (r.customType key))

end Reader

namespace Config

/-- The configuration that a table of settings describes. Unknown keys are ignored. -/
def ofTable (table : Table) (source : Option Text) : Except Failure Config := do
  let r : Reader := { table, source }
  let packageName ← r.text? "package_name"
  let cdylibName ← r.text? "cdylib_name"
  let multiplatform ← r.flag "kotlin_multiplatform"
  let targets ← r.targets "kotlin_targets"
  let externalPackages ← r.textTable "external_packages"
  let immutableRecords ← r.flag "generate_immutable_records"
  let omitChecksums ← r.flag "omit_checksums"
  let customTypes ← r.customTypes "custom_types"
  let targetVersion ← r.text? "kotlin_target_version"
  let disableJavaCleaner ← r.flag "disable_java_cleaner"
  let serializableTypes ← r.flag "generate_serializable_types"
  let pascalCaseEnums ← r.flag "use_pascal_case_enum_class"
  let jvmLibraries ← r.texts "jvm_dynamic_library_dependencies"
  let androidLibraries ← r.texts "android_dynamic_library_dependencies"
  let sharedLibraries ← r.texts "dynamic_library_dependencies"
  return { packageName, cdylibName, multiplatform, targets, externalPackages, immutableRecords,
           omitChecksums, customTypes, targetVersion, disableJavaCleaner, serializableTypes,
           pascalCaseEnums, jvmLibraries, androidLibraries, sharedLibraries }

/-- The configuration of a multiplatform build: the flag is set, and where the document
selects no target, all are selected. -/
def forced (c : Config) : Config :=
  { c with multiplatform := true, targets := if c.targets.isEmpty then Target.all else c.targets }

/-- The configuration of a document, multiplatform when `force` asks for it. -/
def resolve (document : Table) (force : Bool) (source : Option Text) :
    Except Failure Config := do
  let selection ← select document source
  let config ← ofTable selection.table source
  return if force then config.forced else config

end Config

end Bindery
