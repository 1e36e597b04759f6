import Bindery.Interface.Basic
import Bindery.Kotlin.TypeExpr

/-!
# Functions, records and enums as Kotlin text

Each item of an interface is a table whose attributes are read where the text needs them, so
a wrongly typed attribute is a fault at the place of its first use. The parameter list and the
result type of a function (`tail`) are one definition for all declarations of the function:
the expected and the actual one, and the native member behind them.
-/

namespace Bindery.Kotlin

/-- The items under a key, none when the key is absent. -/
def itemsUnder (t : Table) (key : Text) : Except Fault (List Value) :=
  match t.get? key with
  | none => .ok []
  | some v =>
    match v.items? with
    | some items => .ok items
    | none => .error .wrongKind

/-- The value under a key, null when the key is absent. -/
def valueUnder (t : Table) (key : Text) : Value := (t.get? key).getD .null

/-- A name that is to be respelled: it has to be a text. -/
def nameToSpell (v : Value) : Except Fault Text :=
  match (v.table?.bind fun t => t.get? "name").bind Value.text? with
  | some name => .ok name
  | none => .error .wrongKind

/-- A name that is written as it is: it has to be there. -/
def nameAsWritten (t : Table) : Except Fault Text :=
  match t.get? "name" with
  | some v => v.shown
  | none => .error (.undefined "name")

/-- The type of a parameter or a field: it has to be there. -/
def typeOf (v : Value) : Except Fault Value :=
  match v.table?.bind fun t => t.get? "type" with
  | some t => .ok t
  | none => .error (.undefined "type")

/-- A parameter with its type. -/
def parameter [Stack] (customs : List (Text × CustomType)) (v : Value) : Except Fault Text := do
  let name ← nameToSpell v
  let type ← kotlinType customs (← typeOf v)
  return Naming.camel name ++ ": " ++ type

/-- The type after a parameter list, when the function has a result. -/
def resultType [Stack] (customs : List (Text × CustomType)) (f : Table) : Except Fault Text := do
  let v := valueUnder f "return_type"
  if v.isVacuous then return ""
  else return ": " ++ (← kotlinType customs v)

/-- The parameter list of a function and its result type. -/
def tail [Stack] (customs : List (Text × CustomType)) (f : Table) : Except Fault Text := do
  let parameters ← (← itemsUnder f "arguments").mapM (parameter customs)
  return "(" ++ Text.joined ", " parameters ++ ")" ++ (← resultType customs f)

/-- The signature of a function. -/
def signature [Stack] (customs : List (Text × CustomType)) (f : Table) : Except Fault Text := do
  let name ← nameToSpell (.table none f)
  return Naming.camel name ++ (← tail customs f)

/-- The symbol of a function in the native library. -/
def symbol (i : Interface) (name : Text) : Text :=
  "uniffi_" ++ i.crateName ++ "_fn_func_" ++ name

/-- The symbol of a function's checksum in the native library. -/
def checksumSymbol (i : Interface) (name : Text) : Text :=
  "uniffi_" ++ i.crateName ++ "_checksum_func_" ++ name

/-- A function that common code expects of every platform. -/
def expected [Stack] (c : Config) (f : Table) : Except Fault Text := do
  return "expect fun " ++ (← signature c.customTypes f) ++ "\n"

/-- A function of the native library as a member of its interface. -/
def member [Stack] (c : Config) (i : Interface) (f : Table) : Except Fault Text := do
  let name ← nameAsWritten f
  return "    fun " ++ symbol i name ++ (← tail c.customTypes f) ++ "\n"

/-- A checksum of the native library as a member of its interface. -/
def checksumMember (i : Interface) (f : Table) : Except Fault Text := do
  return "    fun " ++ checksumSymbol i (← nameAsWritten f) ++ "(): Short\n\n"

/-- The comparison of a function's checksum with the one the library reports. -/
def checksumCheck (i : Interface) (f : Table) : Except Fault Text := do
  let name ← nameAsWritten f
  return "                check(lib." ++ checksumSymbol i name ++ "() == " ++
    (← (valueUnder f "checksum").shown) ++ ".toShort()) \x7b\n" ++
    "                    \"" ++ i.component ++ ": checksum mismatch for " ++ name ++
    ", rebuild the native library\"\n                \x7d\n"

/-- An argument of a native call: the parameter's value, lowered. -/
def loweredArgument (customs : List (Text × CustomType)) (v : Value) : Except Fault Text := do
  let name ← nameToSpell v
  let type ← typeOf v
  return lowerExpr customs (Naming.camel name) (type.text?.getD "")

/-- The call of a function's symbol, its result lifted. -/
def nativeCall (c : Config) (i : Interface) (receiver : Text) (f : Table) :
    Except Fault Text := do
  let arguments ← (← itemsUnder f "arguments").mapM (loweredArgument c.customTypes)
  let call := receiver ++ symbol i (← nameAsWritten f) ++ "(" ++ Text.joined ", " arguments ++ ")"
  return liftExpr c.customTypes call ((valueUnder f "return_type").text?.getD "")

/-- One field of a record. -/
def field [Stack] (c : Config) (v : Value) : Except Fault Text := do
  let declared ← parameter c.customTypes v
  return "    " ++ (if c.immutableRecords then "val" else "var") ++ " " ++ declared ++ ",\n"

/-- A record as a data class. -/
def record [Stack] (c : Config) (t : Table) : Except Fault Text := do
  let name ← nameToSpell (.table none t)
  let fields ← (← itemsUnder t "fields").mapM (field c)
  let mark := if c.serializableTypes then "@kotlinx.serialization.Serializable\n" else ""
  return mark ++ "data class " ++ Naming.pascal name ++ "(\n" ++ fields.flatten ++ ")\n\n"

/-- A variant of an enum, spelled as a type name or in capitals. -/
def variant (c : Config) (v : Value) : Except Fault Text := do
  if c.pascalCaseEnums then
    match v.text? with
    | some name => return "    " ++ Naming.pascal name ++ ",\n"
    | none => throw .wrongKind
  else return "    " ++ Text.capitals (← v.shown) ++ ",\n"

/-- An enum as an enum class. -/
def enum (c : Config) (t : Table) : Except Fault Text := do
  let name ← nameToSpell (.table none t)
  let variants ← (← itemsUnder t "variants").mapM (variant c)
  return "enum class " ++ Naming.pascal name ++ " \x7b\n" ++ variants.flatten ++ "\x7d\n\n"

/-- A parameter of a C prototype. -/
def prototypeParameter (v : Value) : Except Fault Text := do
  let type ← cType (← typeOf v)
  match v.table? with
  | some t => return type ++ " " ++ (← nameAsWritten t)
  | none => throw (.undefined "name")

/-- The C prototype of a function's symbol. -/
def prototype (i : Interface) (f : Table) : Except Fault Text := do
  let result ← cType (valueUnder f "return_type")
  let name ← nameAsWritten f
  let parameters ← (← itemsUnder f "arguments").mapM prototypeParameter
  let list : Text := if parameters.isEmpty then "void" else Text.joined ", " parameters
  return result ++ " " ++ symbol i name ++ "(" ++ list ++ ");\n"

end Bindery.Kotlin
