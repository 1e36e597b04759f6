import Bindery.Config.Basic
import Bindery.Naming
import Bindery.Stack

/-!
# Interface types in generated code

A written interface type is a name, an optional type `t?` or a list `sequence<t>`
(`TypeExpr.ofText`). In Kotlin, names of custom types stand for the type chosen in the
configuration, names of primitives for the builtin types, and any other name for a class of
that name; optional and list types are built around the type of their element. Across the C
boundary only primitives keep a type of their own.
-/

namespace Bindery

/-- An interface type. -/
inductive TypeExpr where
  | named (name : Text)
  | optional (element : TypeExpr)
  | list (element : TypeExpr)
  deriving DecidableEq, Repr, Inhabited

namespace TypeExpr

def listOpening : Text := "sequence<"

/-- What stands between the brackets of a list type. -/
def listElement? (s : Text) : Option Text :=
  if listOpening.isPrefixOf s && s.getLast? == some (.char '>') then
    some ((s.drop listOpening.length).dropLast)
  else none

theorem length_listElement?_lt {s e : Text} (h : listElement? s = some e) :
    e.length < s.length := by
  unfold listElement? at h
  split at h
  · rename_i hc
    simp only [Option.some.injEq] at h
    subst h
    simp only [Bool.and_eq_true] at hc
    have : s ≠ [] := by
      rintro rfl
      simp at hc
    have : 0 < s.length := List.length_pos_iff.2 this
    simp only [List.length_dropLast, List.length_drop]
    omega
  · simp at h

/-- The type that a text writes. A text of no other form is a name. -/
def ofText (s : Text) : TypeExpr :=
  if _h : s.getLast? = some (.char '?') then .optional (ofText s.dropLast)
  else
    match _h' : listElement? s with
    | some element => .list (ofText element)
    | none => .named s
termination_by s.length
decreasing_by
  · have : s ≠ [] := by rintro rfl; simp at _h
    have : 0 < s.length := List.length_pos_iff.2 this
    simp only [List.length_dropLast]
    omega
  · exact length_listElement?_lt _h'

/-- The written form. -/
def written : TypeExpr → Text
  | .named name => name
  | .optional t => t.written ++ "?"
  | .list t => "sequence<" ++ t.written ++ ">"

/-- How many types stand inside one another. -/
def depth : TypeExpr → Nat
  | .named _ => 1
  | .optional t => t.depth + 1
  | .list t => t.depth + 1

/-- How many types may stand inside one another. -/
def deepest [Stack] : Nat := Stack.types

/-- The Kotlin types of the primitives. -/
def builtins : List (Text × Text) := [
  ("u8", "UByte"), ("i8", "Byte"), ("u16", "UShort"), ("i16", "Short"), ("u32", "UInt"),
  ("i32", "Int"), ("u64", "ULong"), ("i64", "Long"), ("f32", "Float"), ("f64", "Double"),
  ("bool", "Boolean"), ("string", "String"), ("bytes", "ByteArray")]

/-- The C types of the primitives. -/
def cTypes : List (Text × Text) := [
  ("u8", "uint8_t"), ("i8", "int8_t"), ("u16", "uint16_t"), ("i16", "int16_t"),
  ("u32", "uint32_t"), ("i32", "int32_t"), ("u64", "uint64_t"), ("i64", "int64_t"),
  ("f32", "float"), ("f64", "double"), ("bool", "int8_t")]

/-- The type name that the configuration gives a custom type. -/
def customName? (customs : List (Text × CustomType)) (name : Text) : Option Text :=
  (customs.lookup name).bind fun custom => Text.filled? custom.typeName

/-- The Kotlin type of a name; no name at all is the type without a value. -/
def kotlinName (customs : List (Text × CustomType)) (name : Text) : Text :=
  if name.isEmpty then "Unit"
  else (customName? customs name).getD ((builtins.lookup name).getD (Naming.pascal name))

/-- The Kotlin type. -/
def kotlin (customs : List (Text × CustomType)) : TypeExpr → Text
  | .named name => kotlinName customs name
  | .optional t => t.kotlin customs ++ "?"
  | .list t => "List<" ++ t.kotlin customs ++ ">"

end TypeExpr

/-- The Kotlin type of what an interface gives for a type. Only texts write types; what counts
as nothing is no type. -/
def kotlinType [Stack] (customs : List (Text × CustomType)) (v : Value) : Except Fault Text :=
  if v.isVacuous then .ok "Unit"
  else
    match v with
    | .text s =>
      let t := TypeExpr.ofText s
      if TypeExpr.deepest < t.depth then .error .tooDeep else .ok (t.kotlin customs)
    | .scalar (.bytes _) => .error .wrongKind
    | _ => .error .noOperation

/-- The C type of what an interface gives for a type. Everything but the primitives crosses
the boundary serialized. -/
def cType (v : Value) : Except Fault Text :=
  if v.isVacuous then .ok "void"
  else
    match v with
    | .text s => .ok ((TypeExpr.cTypes.lookup s).getD "RustBuffer")
    | v => if v.isKey then .ok "RustBuffer" else .error .wrongKind

/-- The text with an expression in every place that a pair of braces marks. -/
def fillPlaces (expression : Text) : Text → Text
  | .char '\x7b' :: .char '\x7d' :: rest => expression ++ fillPlaces expression rest
  | c :: rest => c :: fillPlaces expression rest
  | [] => []

/-- The conversion of an expression by a chosen template of its custom type, if its type is
one and has such a template. -/
def convert (template : CustomType → Option Text) (customs : List (Text × CustomType))
    (expression type : Text) : Text :=
  match (customs.lookup type).bind fun custom => Text.filled? (template custom) with
  | none => expression
  | some t => fillPlaces expression t

/-- The expression lowered to what the native library takes. -/
def lowerExpr (customs : List (Text × CustomType)) (expression type : Text) : Text :=
  convert CustomType.lower customs expression type

/-- The expression lifted from what the native library returns. -/
def liftExpr (customs : List (Text × CustomType)) (expression type : Text) : Text :=
  convert CustomType.lift customs expression type

end Bindery
