import Bindery.Kotlin.Source
import Bindery.Proofs.Config.Reading

/-!
# Functions as they are declared and called

A function of an interface is a table whose attributes are read wherever the text of a source
needs them. `Callable` is what can be read there: the name, the parameters with their types, and
the result. Whatever can be declared is described by its table (`exists_reads`), and every text
that is made of the function is a text made of its callable: the signature, the member and the
prototype behind it, and the call of its symbol (`Reads.signature_ok`, `Reads.member_ok`,
`Reads.prototype_ok`, `Reads.nativeCall_ok`).
-/

namespace Bindery.Kotlin

open Outcome

/-- A parameter, with its interface type and its Kotlin type. -/
structure Parameter where
  name : Text
  type : Value
  kotlin : Text

/-- A function: its name, its parameters, what it returns, the Kotlin type of that when there is
one, and its checksum when it carries one. -/
structure Callable where
  name : Text
  parameters : List Parameter
  result : Value
  resultType : Option Text
  checksum : Option Value

/-- A value of an interface that describes a parameter. -/
structure Parameter.Reads [Stack] (customs : List (Text × CustomType)) (v : Value) (p : Parameter) :
    Prop where
  name : (v.table?.bind fun t => t.get? "name") = some (.text p.name)
  type : (v.table?.bind fun t => t.get? "type") = some p.type
  kotlin : kotlinType customs p.type = .ok p.kotlin

/-- The Kotlin type of a result, none for a result that counts as nothing. -/
def ResultReads [Stack] (customs : List (Text × CustomType)) (v : Value) (type : Option Text) :
    Prop :=
  if v.isVacuous then type = none else ∃ t, kotlinType customs v = .ok t ∧ type = some t

/-- A table of an interface that describes a function. -/
structure Callable.Reads [Stack] (customs : List (Text × CustomType)) (f : Table) (k : Callable) :
    Prop where
  name : f.get? "name" = some (.text k.name)
  parameters : ∃ items, itemsUnder f "arguments" = .ok items ∧
    List.Forall₂ (Parameter.Reads customs) items k.parameters
  result : valueUnder f "return_type" = k.result
  resultType : ResultReads customs k.result k.resultType
  checksum : f.get? "checksum" = k.checksum

/-! ## The texts made of a function -/

namespace Parameter

/-- The parameter in a declaration. -/
def declared (p : Parameter) : Text := Naming.camel p.name ++ ": " ++ p.kotlin

/-- The parameter as an argument of a native call. -/
def lowered (customs : List (Text × CustomType)) (p : Parameter) : Text :=
  lowerExpr customs (Naming.camel p.name) (p.type.text?.getD "")

end Parameter

/-- The C type of what an interface gives for a type that has a Kotlin type. -/
def cTypeName (v : Value) : Text :=
  match v.text? with
  | some s => if s.isEmpty then "void" else (TypeExpr.cTypes.lookup s).getD "RustBuffer"
  | none => "void"

/-- What native calls on a target are made on. -/
def receiver (t : Target) : String := if t = .native then "" else "UniffiLib.INSTANCE."

/-- What marks a function of a platform as an actual one. -/
def mark (c : Config) : String := if c.multiplatform then "actual " else ""

/-- What stands after a parameter list for a result. -/
def resultClause : Option Text → Text
  | none => ""
  | some t => ": " ++ t

namespace Callable

/-- The parameter list and the result type of a function. -/
def tail (k : Callable) : Text :=
  "(" ++ Text.joined ", " (k.parameters.map Parameter.declared) ++ ")" ++
    resultClause k.resultType

def signature (k : Callable) : Text := Naming.camel k.name ++ k.tail

/-- The function as a member of the interface to the native library. -/
def member (i : Interface) (k : Callable) : Text :=
  "    fun " ++ symbol i k.name ++ k.tail ++ "\n"

/-- The function's checksum as a member of the interface to the native library. -/
def checksumMember (i : Interface) (k : Callable) : Text :=
  "    fun " ++ checksumSymbol i k.name ++ "(): Short\n\n"

/-- The call of the function's symbol, one lowered argument for each parameter, with the whole
call lifted. -/
def call (c : Config) (i : Interface) (receiver : Text) (k : Callable) : Text :=
  liftExpr c.customTypes
    (receiver ++ symbol i k.name ++ "(" ++
      Text.joined ", " (k.parameters.map (Parameter.lowered c.customTypes)) ++ ")")
    (k.result.text?.getD "")

/-- The C prototype of the function's symbol. -/
def prototype (i : Interface) (k : Callable) : Text :=
  cTypeName k.result ++ " " ++ symbol i k.name ++ "(" ++
    (if k.parameters.isEmpty then ("void" : Text)
      else Text.joined ", " (k.parameters.map fun p => cTypeName p.type ++ " " ++ p.name)) ++ ");\n"

/-- What the function does on a platform. -/
def body (c : Config) (i : Interface) (p : Platform) (k : Callable) : Text :=
  match p with
  | .stub =>
    "    throw UnsupportedOperationException(\"" ++ i.component ++
      " is not available on this platform\")\n"
  | .target t => "    " ++ k.call c i (receiver t) ++ "\n"

/-- The function in the common source. -/
def expectation (k : Callable) : Text := "expect fun " ++ k.signature ++ "\n"

/-- The function in a platform's source. -/
def definition (c : Config) (i : Interface) (p : Platform) (k : Callable) : Text :=
  mark c ++ "fun " ++ k.signature ++ " =\n" ++ k.body c i p ++ "\n"

end Callable

/-! ## Reading a function -/

section Reads

variable {customs : List (Text × CustomType)} {v : Value} {f : Table} {s : Text}

/-- What is spelled as a name is the text under its key. -/
theorem nameToSpell_ok_iff :
    nameToSpell v = .ok s ↔ (v.table?.bind fun t => t.get? "name") = some (.text s) := by
  have named : (v.table?.bind fun t => t.get? "name").bind Value.text? = some s ↔
      (v.table?.bind fun t => t.get? "name") = some (.text s) := by
    simp [Option.bind_eq_some_iff, Value.text?_eq_some]
  rw [← named, nameToSpell]
  cases (v.table?.bind fun t => t.get? "name").bind Value.text? <;> simp

/-- A type is what stands under its key. -/
theorem typeOf_ok_iff {w : Value} :
    typeOf v = .ok w ↔ (v.table?.bind fun t => t.get? "type") = some w := by
  unfold typeOf
  cases v.table?.bind fun t => t.get? "type" <;> simp

/-- A parameter is declared as the table that it stands in tells. -/
theorem parameter_ok_iff [Stack] :
    parameter customs v = .ok s ↔ ∃ p, Parameter.Reads customs v p ∧ p.declared = s := by
  simp only [parameter, bind_ok_iff, pure_ok_iff, nameToSpell_ok_iff, typeOf_ok_iff]
  constructor
  · rintro ⟨name, hname, type, htype, kotlin, hkotlin, rfl⟩
    exact ⟨⟨name, type, kotlin⟩, ⟨hname, htype, hkotlin⟩, rfl⟩
  · rintro ⟨p, ⟨hname, htype, hkotlin⟩, rfl⟩
    exact ⟨_, hname, _, htype, _, hkotlin, rfl⟩

/-- The type of a result is shown as it reads, or not at all. -/
theorem resultType_ok_iff [Stack] :
    resultType customs f = .ok s ↔ ∃ type, ResultReads customs (valueUnder f "return_type") type ∧
      resultClause type = s := by
  simp only [resultType, ResultReads]
  split
  · simp [pure_ok_iff, resultClause]
  · simp only [bind_ok_iff, pure_ok_iff]
    constructor
    · rintro ⟨t, ht, rfl⟩
      exact ⟨_, ⟨t, ht, rfl⟩, rfl⟩
    · rintro ⟨_, ⟨t, ht, rfl⟩, rfl⟩
      exact ⟨t, ht, rfl⟩

theorem cType_of_vacuous (hv : v.isVacuous) : cType v = .ok (cTypeName v) := by
  unfold cType cTypeName
  rw [if_pos hv]
  cases ht : v.text? with
  | none => rfl
  | some t =>
    obtain rfl := Value.text?_eq_some.1 ht
    have : t.isEmpty = true := hv
    simp [this]

/-- What has a Kotlin type has a C type. -/
theorem cType_ok [Stack] {kotlin : Text} (h : kotlinType customs v = .ok kotlin) :
    cType v = .ok (cTypeName v) := by
  unfold kotlinType at h
  split at h
  · exact cType_of_vacuous ‹_›
  · rename_i hv
    unfold cType cTypeName
    rw [if_neg hv]
    split at h
    · rename_i t
      have : t.isEmpty = false := by simpa [Value.isVacuous, Scalar.isVacuous] using hv
      simp [this, Value.text?]
    · cases h
    · cases h

variable {c : Config} {i : Interface} {k : Callable} {p : Parameter}

namespace Parameter.Reads

/-- A parameter that reads is lowered by its type. -/
theorem loweredArgument_ok [Stack] (h : Parameter.Reads customs v p) :
    loweredArgument customs v = .ok (p.lowered customs) := by
  refine bind_ok_iff.2 ⟨_, nameToSpell_ok_iff.2 h.name, ?_⟩
  exact bind_ok_iff.2 ⟨_, typeOf_ok_iff.2 h.type, rfl⟩

/-- In a prototype a parameter that reads stands behind its C type. -/
theorem prototypeParameter_ok [Stack] (h : Parameter.Reads customs v p) :
    prototypeParameter v = .ok (cTypeName p.type ++ " " ++ p.name) := by
  refine bind_ok_iff.2 ⟨_, typeOf_ok_iff.2 h.type, bind_ok_iff.2 ⟨_, cType_ok h.kotlin, ?_⟩⟩
  obtain ⟨t, ht, hname⟩ := Option.bind_eq_some_iff.1 h.name
  rw [ht]
  refine bind_ok_iff.2 ⟨p.name, ?_, rfl⟩
  rw [nameAsWritten, hname]
  rfl

end Parameter.Reads

/-- A function that can be declared is one that its table describes. -/
theorem exists_reads [Stack] (h : signature customs f = .ok s) :
    ∃ k, Callable.Reads customs f k := by
  simp only [signature, tail, bind_ok_iff, pure_ok_iff, nameToSpell_ok_iff, mapM_ok_iff,
    resultType_ok_iff] at h
  obtain ⟨name, hname, _, ⟨items, hitems, texts, htexts, _, ⟨type, htype, -⟩, -⟩, -⟩ := h
  obtain ⟨parameters, hparameters⟩ := exists_forall₂ (R := Parameter.Reads customs) fun v hv => by
    obtain ⟨text, htext⟩ := exists_of_forall₂ htexts v hv
    obtain ⟨p, hp, -⟩ := parameter_ok_iff.1 htext
    exact ⟨p, hp⟩
  exact ⟨⟨name, parameters, _, type, _⟩, hname, ⟨items, hitems, hparameters⟩, rfl, htype, rfl⟩

namespace Callable.Reads

theorem nameAsWritten_ok [Stack] (h : Reads customs f k) : nameAsWritten f = .ok k.name := by
  rw [nameAsWritten, h.name]
  rfl

/-- A callable that reads has parameters and a result behind its name. -/
theorem tail_ok [Stack] (h : Reads customs f k) : Kotlin.tail customs f = .ok k.tail := by
  obtain ⟨items, hitems, hparameters⟩ := h.parameters
  refine bind_ok_iff.2 ⟨items, hitems, bind_ok_iff.2
    ⟨k.parameters.map Parameter.declared, mapM_ok_iff.2 ?_, bind_ok_iff.2
      ⟨_, resultType_ok_iff.2 ⟨k.resultType, h.result ▸ h.resultType, rfl⟩, rfl⟩⟩⟩
  rw [List.forall₂_map_right_iff]
  exact hparameters.imp fun v p hp => parameter_ok_iff.2 ⟨p, hp, rfl⟩

/-- Every declaration of a function has the same signature. -/
theorem signature_ok [Stack] (h : Reads customs f k) :
    Kotlin.signature customs f = .ok k.signature :=
  bind_ok_iff.2 ⟨k.name, nameToSpell_ok_iff.2 h.name, bind_ok_iff.2 ⟨k.tail, h.tail_ok, rfl⟩⟩

/-- It is expected by its signature. -/
theorem expected_ok [Stack] (h : Reads c.customTypes f k) :
    expected c f = .ok k.expectation :=
  bind_ok_iff.2 ⟨_, h.signature_ok, rfl⟩

theorem member_ok [Stack] (h : Reads c.customTypes f k) : Kotlin.member c i f = .ok (k.member i) :=
  bind_ok_iff.2 ⟨_, h.nameAsWritten_ok, bind_ok_iff.2 ⟨_, h.tail_ok, rfl⟩⟩

/-- It is called through its library by its name and its lowered parameters. -/
theorem nativeCall_ok [Stack] (h : Reads c.customTypes f k) (receiver : Text) :
    nativeCall c i receiver f = .ok (k.call c i receiver) := by
  obtain ⟨items, hitems, hparameters⟩ := h.parameters
  refine bind_ok_iff.2 ⟨items, hitems, bind_ok_iff.2
    ⟨k.parameters.map (Parameter.lowered c.customTypes), mapM_ok_iff.2 ?_, bind_ok_iff.2
      ⟨_, h.nameAsWritten_ok, by rw [h.result]; rfl⟩⟩⟩
  rw [List.forall₂_map_right_iff]
  exact hparameters.imp fun v p hp => hp.loweredArgument_ok

/-- Its body calls the library, or throws in a stub. -/
theorem body_ok [Stack] (h : Reads c.customTypes f k) (p : Platform) :
    Kotlin.body c i p f = .ok (k.body c i p) := by
  cases p with
  | stub => rfl
  | target t => exact bind_ok_iff.2 ⟨_, h.nativeCall_ok _, rfl⟩

/-- It is defined by its signature and that body. -/
theorem actual_ok [Stack] (h : Reads c.customTypes f k) (p : Platform) :
    actual c i p f = .ok (k.definition c i p) :=
  bind_ok_iff.2 ⟨_, h.signature_ok, bind_ok_iff.2 ⟨_, h.body_ok p, rfl⟩⟩

theorem checksumMember_ok [Stack] (h : Reads customs f k) :
    Kotlin.checksumMember i f = .ok (k.checksumMember i) :=
  bind_ok_iff.2 ⟨_, h.nameAsWritten_ok, rfl⟩

theorem cType_result_ok [Stack] (h : Reads customs f k) :
    cType k.result = .ok (cTypeName k.result) := by
  have read := h.resultType
  unfold ResultReads at read
  split at read
  · exact cType_of_vacuous ‹_›
  · obtain ⟨t, ht, -⟩ := read
    exact cType_ok ht

/-- It has a prototype in C. -/
theorem prototype_ok [Stack] (h : Reads customs f k) :
    Kotlin.prototype i f = .ok (k.prototype i) := by
  obtain ⟨items, hitems, hparameters⟩ := h.parameters
  refine bind_ok_iff.2 ⟨_, h.result ▸ h.cType_result_ok, bind_ok_iff.2 ⟨_, h.nameAsWritten_ok,
    bind_ok_iff.2 ⟨items, hitems, bind_ok_iff.2
      ⟨k.parameters.map fun p => cTypeName p.type ++ " " ++ p.name, mapM_ok_iff.2 ?_, ?_⟩⟩⟩⟩
  · rw [List.forall₂_map_right_iff]
    exact hparameters.imp fun v p hp => hp.prototypeParameter_ok
  · rw [List.isEmpty_map, h.result]
    rfl

end Callable.Reads

end Reads

end Bindery.Kotlin
