import Bindery.Proofs.Config.Offences
import Bindery.Proofs.Kotlin.Generation
import Bindery.Proofs.Kotlin.Headings
import Bindery.Proofs.Kotlin.TypeTexts
import Bindery.Proofs.Value.Text

/-!
# Well-formed interfaces

An interface is well formed when everything in it has a name, every parameter and field has a type
or null in its place, and what is to be a list is one (`Interface.WellFormed`). Nothing else is
asked of the items, and no setting of a configuration matters, so what can still go wrong is named
in full: types may stand too deep inside one another, and a checksum that is compared may have no
text. Where neither is so everything that a bundle is made of can be written (`signature_iff`,
`record_iff`, `exists_enum`), and the bundle is generated. Every text that is generated ends with
one line end (`endsLine_texts`). Both together are `Interface.WellFormed.generates`.
-/

namespace Bindery

open Outcome Text

/-! ## What an interface has to be -/

/-- Whether a value can stand for a type: a text writes one, and null is none. -/
def Value.isTypeName (v : Value) : Bool := v.isText || v.isNull

namespace Table

def isNamed (t : Table) : Bool := (t.get? "name").any Value.isText

/-- Whether nothing stands under a key, or a list of values of one form. -/
def lists (t : Table) (key : Text) (form : Value → Bool) : Bool :=
  (t.get? key).all fun
    | .list _ items => items.all form
    | _ => false

end Table

/-- The type of a parameter or a field. -/
def Value.typeUnder? (v : Value) : Option Value := v.table?.bind fun t => t.get? "type"

/-- Whether a value describes a parameter or a field: it has a name, and a type or null. -/
def Value.isTyped (v : Value) : Bool :=
  v.table?.any Table.isNamed && v.typeUnder?.any Value.isTypeName

/-- Whether no more types than may stand inside one another in the type that a value writes. -/
def Value.isShallow [Stack] : Value → Bool
  | .text s => (TypeExpr.ofText s).depth ≤ TypeExpr.deepest
  | _ => true

namespace Table

def isFunction (t : Table) : Bool :=
  t.isNamed && t.lists "arguments" Value.isTyped && (t.get? "return_type").all Value.isTypeName

def isRecord (t : Table) : Bool := t.isNamed && t.lists "fields" Value.isTyped

def isEnum (t : Table) : Bool := t.isNamed && t.lists "variants" Value.isText

/-- The types of the parameters or fields under a key. -/
def typesUnder (t : Table) (key : Text) : List Value :=
  match t.get? key with
  | some (.list _ items) => items.filterMap Value.typeUnder?
  | _ => []

/-- The types of a function's parameters and of its result. -/
def signatureTypes (f : Table) : List Value :=
  f.typesUnder "arguments" ++ (f.get? "return_type").toList

end Table

namespace Interface

/-- Functions, records and enums are what they have to be. -/
structure WellFormed (i : Interface) : Prop where
  functions : ∀ f ∈ i.functions, f.isFunction = true
  records : ∀ r ∈ i.records, r.isRecord = true
  enums : ∀ e ∈ i.enums, e.isEnum = true

/-- All types of parameters, results and fields. -/
def types (i : Interface) : List Value :=
  i.functions.flatMap Table.signatureTypes ++ i.records.flatMap fun r => r.typesUnder "fields"

/-- In no type do too many types stand inside one another. -/
def Shallow [Stack] (i : Interface) : Prop := ∀ type ∈ i.types, type.isShallow = true

end Interface

/-- All texts of a bundle. -/
def Bundle.texts (b : Bundle) : List Text := b.sources.map Prod.snd ++ b.header.toList

/-- A text that is there and ends with one line end. -/
def Text.EndsLine (s : Text) : Prop := ∃ front c, s = front ++ [c, .char '\n'] ∧ c ≠ .char '\n'

/-! ## The pieces of a source -/

namespace Kotlin

variable {customs : List (Text × CustomType)} {v : Value} {t f : Table} {key : Text}

theorem eq_null_of_isNull (null : v.isNull = true) : v = .null := by
  unfold Value.isNull at null
  split at null
  · rfl
  · cases null

/-- The text of a type can be shown when not too many types stand inside one another. -/
theorem kotlinType_iff [Stack] (typed : v.isTypeName = true) :
    (∃ s, kotlinType customs v = .ok s) ↔ v.isShallow = true := by
  rw [Value.isTypeName, Bool.or_eq_true] at typed
  rcases typed with text | null
  · obtain ⟨s, rfl⟩ := Reader.isText_iff.1 text
    rw [TypeExpr.kotlinType_text, Value.isShallow, decide_eq_true_iff]
    split <;> simp_all
  · obtain rfl := eq_null_of_isNull null
    exact iff_of_true ⟨_, rfl⟩ rfl

/-- A named table has a text as its name. -/
theorem exists_name (named : t.isNamed = true) : ∃ name, t.get? "name" = some (.text name) := by
  rw [Table.isNamed, Option.any_eq_true] at named
  obtain ⟨v, hv, text⟩ := named
  obtain ⟨name, rfl⟩ := Reader.isText_iff.1 text
  exact ⟨name, hv⟩

theorem exists_nameToSpell (named : t.isNamed = true) (mark : Mark) :
    ∃ name, nameToSpell (.table mark t) = .ok name := by
  obtain ⟨name, hname⟩ := exists_name named
  exact ⟨name, nameToSpell_ok_iff.2 hname⟩

/-- A typed parameter can be declared when its type is shallow. -/
theorem parameter_iff [Stack] (typed : v.isTyped = true) :
    (∃ s, parameter customs v = .ok s) ↔ ∀ type ∈ v.typeUnder?, type.isShallow = true := by
  simp only [Value.isTyped, Bool.and_eq_true, Option.any_eq_true] at typed
  obtain ⟨⟨t, ht, named⟩, type, htype, isType⟩ := typed
  obtain ⟨mark, rfl⟩ := Value.table?_eq_some.1 ht
  have htypeOf : typeOf (.table mark t) = .ok type := typeOf_ok_iff.2 htype
  obtain ⟨name, hname⟩ := exists_nameToSpell named mark
  rw [htype, parameter, hname, htypeOf]
  show (∃ s, (kotlinType customs type >>= fun k => pure _) = .ok s) ↔ _
  rw [exists_bind_pure, kotlinType_iff isType]
  simp

/-- What stands under a key where a list is to stand: items of a form, or none. -/
theorem exists_itemsUnder {form : Value → Bool} (listed : t.lists key form = true) :
    ∃ items, itemsUnder t key = .ok items ∧ (∀ v ∈ items, form v = true) ∧
      t.typesUnder key = items.filterMap Value.typeUnder? := by
  unfold Table.lists at listed
  unfold itemsUnder Table.typesUnder
  cases h : t.get? key with
  | none => exact ⟨[], rfl, nofun, rfl⟩
  | some v =>
    cases v with
    | list mark items =>
      rw [h, Option.all_some] at listed
      exact ⟨items, rfl, List.all_eq_true.1 listed, rfl⟩
    | _ =>
      rw [h, Option.all_some] at listed
      cases listed

/-- A list of what has types is gone through well when all of the types are shallow, if this is so
for each of its items. -/
theorem exists_items [Stack] {g : Value → Except Fault Text}
    (each : ∀ v, v.isTyped = true →
      ((∃ s, g v = .ok s) ↔ ∀ type ∈ v.typeUnder?, type.isShallow = true))
    (listed : t.lists key Value.isTyped = true) :
    ∃ items, itemsUnder t key = .ok items ∧ ((∃ texts, items.mapM g = .ok texts) ↔
      ∀ type ∈ t.typesUnder key, type.isShallow = true) := by
  obtain ⟨items, hitems, typed, htypes⟩ := exists_itemsUnder listed
  refine ⟨items, hitems, ?_⟩
  rw [exists_mapM_ok_iff, htypes]
  simp only [List.mem_filterMap]
  constructor
  · rintro fine type ⟨v, hv, htype⟩
    exact (each v (typed v hv)).1 (fine v hv) type htype
  · intro shallow v hv
    exact (each v (typed v hv)).2 fun type htype => shallow type ⟨v, hv, htype⟩

/-- A result can be shown when its type is shallow. -/
theorem resultType_iff [Stack] (typed : (f.get? "return_type").all Value.isTypeName = true) :
    (∃ s, resultType customs f = .ok s) ↔ ∀ type ∈ f.get? "return_type", type.isShallow = true := by
  unfold resultType valueUnder
  cases h : f.get? "return_type" with
  | none => exact iff_of_true ⟨_, rfl⟩ nofun
  | some v =>
    rw [h, Option.all_some] at typed
    rw [Option.getD_some]
    have shallow : (∃ s, kotlinType customs v = .ok s) ↔ v.isShallow = true := kotlinType_iff typed
    have single : (∀ type ∈ some v, type.isShallow = true) ↔ v.isShallow = true := by simp
    rw [single, ← shallow]
    by_cases vacuous : v.isVacuous = true
    · rw [if_pos vacuous]
      exact iff_of_true ⟨_, rfl⟩ ⟨_, if_pos vacuous⟩
    · rw [if_neg vacuous]
      exact exists_bind_pure

/-- Parameters and result of a function can be written when all their types are shallow. -/
theorem tail_iff [Stack] (formed : f.isFunction = true) :
    (∃ s, tail customs f = .ok s) ↔ ∀ type ∈ f.signatureTypes, type.isShallow = true := by
  simp only [Table.isFunction, Bool.and_eq_true] at formed
  obtain ⟨⟨-, listed⟩, result⟩ := formed
  obtain ⟨items, hitems, parameters⟩ :=
    exists_items (g := parameter customs) (fun _ => parameter_iff) listed
  rw [tail, hitems]
  show (∃ s, (items.mapM (parameter customs) >>= fun _ => resultType customs f >>= fun _ =>
    pure _) = .ok s) ↔ _
  rw [exists_bind_and fun _ _ => exists_bind_pure.trans (resultType_iff result), parameters]
  simp only [Table.signatureTypes, List.forall_mem_append, Option.mem_toList, Option.mem_def]

/-- And so can its signature. -/
theorem signature_iff [Stack] (formed : f.isFunction = true) :
    (∃ s, signature customs f = .ok s) ↔ ∀ type ∈ f.signatureTypes, type.isShallow = true := by
  have named : f.isNamed = true := by
    simp only [Table.isFunction, Bool.and_eq_true] at formed
    exact formed.1.1
  obtain ⟨name, hname⟩ := exists_nameToSpell named none
  rw [← tail_iff formed, signature, hname]
  exact exists_bind_pure

/-- A record can be written when the types of its fields are shallow. -/
theorem record_iff [Stack] {c : Config} (formed : t.isRecord = true) :
    (∃ s, record c t = .ok s) ↔ ∀ type ∈ t.typesUnder "fields", type.isShallow = true := by
  simp only [Table.isRecord, Bool.and_eq_true] at formed
  obtain ⟨named, listed⟩ := formed
  obtain ⟨name, hname⟩ := exists_nameToSpell named none
  obtain ⟨items, hitems, fields⟩ :=
    exists_items (g := field c) (fun _ typed => exists_bind_pure.trans (parameter_iff typed)) listed
  rw [← fields, record, hname, hitems]
  exact exists_bind_pure

/-- An enum can always be written. -/
theorem exists_enum (formed : t.isEnum = true) (c : Config) : ∃ s, enum c t = .ok s := by
  simp only [Table.isEnum, Bool.and_eq_true] at formed
  obtain ⟨named, listed⟩ := formed
  obtain ⟨name, hname⟩ := exists_nameToSpell named none
  obtain ⟨items, hitems, texts, -⟩ := exists_itemsUnder listed
  have variants : ∃ variants, items.mapM (variant c) = .ok variants := by
    refine exists_mapM_ok_iff.2 fun v hv => ?_
    obtain ⟨s, rfl⟩ := Reader.isText_iff.1 (texts v hv)
    unfold variant
    cases c.pascalCaseEnums <;> exact ⟨_, rfl⟩
  rw [enum, hname, hitems]
  exact exists_bind_pure.2 variants

end Kotlin

/-- An interface is shallow when the types of its functions and of its records are. -/
theorem Interface.shallow_iff [Stack] {i : Interface} : i.Shallow ↔
    (∀ f ∈ i.functions, ∀ type ∈ f.signatureTypes, type.isShallow = true) ∧
      ∀ r ∈ i.records, ∀ type ∈ r.typesUnder "fields", type.isShallow = true := by
  unfold Shallow types
  rw [List.forall_mem_append, List.forall_mem_flatMap, List.forall_mem_flatMap]

/-- A bundle of a well-formed interface is generated unless a type is too deep, or a checksum that
is compared has no text. -/
theorem Bundle.exists_generate_of_wellFormed [Stack] {emitStub : Bool} {c : Config} {i : Interface}
    (formed : i.WellFormed) : (∃ b, generate emitStub c i = .ok b) ↔
      i.Shallow ∧ (c.ComparesChecksums → i.ChecksumsShown) := by
  have records : (∀ r ∈ i.records, ∃ s, Kotlin.record c r = .ok s) ↔
      ∀ r ∈ i.records, ∀ type ∈ r.typesUnder "fields", type.isShallow = true :=
    forall₂_congr fun r hr => Kotlin.record_iff (formed.records r hr)
  have enums : ∀ e ∈ i.enums, ∃ s, Kotlin.enum c e = .ok s := fun e he =>
    Kotlin.exists_enum (formed.enums e he) c
  have functions : Kotlin.Declarable c i ↔
      ∀ f ∈ i.functions, ∀ type ∈ f.signatureTypes, type.isShallow = true :=
    forall₂_congr fun f hf => Kotlin.signature_iff (formed.functions f hf)
  rw [generates_iff, Interface.shallow_iff, records, functions]
  tauto

/-! ## How the texts end -/

/-- Where something can be seen, a finished text ends behind it with one line end. -/
theorem Kotlin.endsLine_finished {c : CodePoint} (visible : c.is isBlank = false)
    (front rest : Text) : EndsLine (finished (front ++ c :: rest)) := by
  have solid {c : CodePoint} (visible : c.is isBlank = false) : c ≠ .char '\n' := by
    rintro rfl
    cases visible
  rw [finished, trimEnd_append_cons visible]
  rcases trimEnd_cases rest with nothing | ⟨more, d, last, hd⟩
  · exact ⟨front, c, by rw [nothing]; simp; rfl, solid visible⟩
  · exact ⟨front ++ c :: more, d, by rw [last]; simp; rfl, solid hd⟩

/-- What stands behind the banner ends with a line end. -/
theorem Kotlin.endsLine_behind_banner (rest : Text) : EndsLine (finished (banner ++ rest)) := by
  -- The full stop at the end of the banner can be seen, so no more than what follows is taken off.
  have split : banner = "// This file was autogenerated by kmpbindgen. Do not edit" ++
      [CodePoint.char '.', .char '\n'] := by
    decide +kernel
  have visible : (CodePoint.char '.').is isBlank = false := by decide
  rw [split, List.append_assoc]
  exact endsLine_finished visible _ _

/-- Every text of a bundle ends with one line end. -/
theorem Bundle.endsLine_texts [Stack] {emitStub : Bool} {c : Config} {i : Interface} {b : Bundle}
    (h : generate emitStub c i = .ok b) : ∀ text ∈ b.texts, text.EndsLine := by
  unfold texts
  rw [List.forall_mem_append]
  constructor
  · intro text ht
    obtain ⟨e, he, rfl⟩ := List.mem_map.1 ht
    obtain ⟨own, rest, -, headed⟩ := headed_sources h e he
    rw [headed, Kotlin.opening]
    simp only [List.append_assoc]
    exact Kotlin.endsLine_behind_banner _
  · intro text ht
    obtain ⟨ks, hks⟩ := exists_callables h
    have header := (header_iff_native h).2 text (Option.mem_toList.1 ht)
    rw [Kotlin.header_eq hks header, Kotlin.headerOpening]
    simp only [List.append_assoc]
    exact Kotlin.endsLine_behind_banner _

/-! ## Which of them have bundles -/

namespace Interface

open Bindery.Bundle

variable {i : Interface}

/-- The bundle of a well-formed interface is generated, unless a type in it is too deep or a
checksum that is compared has no text, and every text of it ends with one line end. -/
theorem WellFormed.generates [Stack] (formed : i.WellFormed) (emitStub : Bool) (c : Config) :
    ((∃ b, generate emitStub c i = .ok b) ↔
        i.Shallow ∧ (c.ComparesChecksums → i.ChecksumsShown)) ∧
      ∀ b, generate emitStub c i = .ok b → ∀ text ∈ b.texts, text.EndsLine :=
  ⟨exists_generate_of_wellFormed formed, fun _ => endsLine_texts⟩

/-- The counter is well formed, and every text of its bundle ends with one line end. -/
theorem generates_counter : counter.WellFormed ∧ counterConfig.ComparesChecksums ∧
    ∃ b, generate true counterConfig counter = .ok b ∧ ∀ text ∈ b.texts, text.EndsLine := by
  have formed : counter.WellFormed := ⟨by decide +kernel, nofun, nofun⟩
  have shallow : counter.Shallow := by
    unfold Shallow
    decide +kernel
  have shown : counter.ChecksumsShown := by
    intro f hf v hv
    obtain rfl := List.mem_singleton.1 hf
    obtain rfl := Option.some.inj hv
    exact ⟨"7", by decide +kernel⟩
  obtain ⟨generated, ends⟩ := formed.generates true counterConfig
  obtain ⟨b, h⟩ := generated.2 ⟨shallow, fun _ => shown⟩
  exact ⟨formed, ⟨rfl, fun _ => ⟨.jvm, by decide, by decide⟩⟩, b, h, ends b h⟩

/-- An interface of one function with one parameter. -/
def taking (type : Text) : Interface where
  component := "n"
  crateName := "n"
  functions := [[(.text "name", .text "f"), (.text "arguments", .list none [
    .table none [(.text "name", .text "x"), (.text "type", .text type)]])]]

/-- An interface of one function without parameters, with a checksum. -/
def summed (checksum : Value) : Interface where
  component := "n"
  crateName := "n"
  functions := [[(.text "name", .text "f"), (.text "checksum", checksum)]]

theorem wellFormed_taking (type : Text) : (taking type).WellFormed := by
  refine ⟨fun f hf => ?_, nofun, nofun⟩
  obtain rfl := List.mem_singleton.1 hf
  rfl

theorem wellFormed_summed (checksum : Value) : (summed checksum).WellFormed := by
  refine ⟨fun f hf => ?_, nofun, nofun⟩
  obtain rfl := List.mem_singleton.1 hf
  rfl

/-- Well-formed interfaces that have no bundle with the configuration of the empty document: the
type of a parameter is too deep, or a checksum has too many digits. -/
theorem wellFormed_without_bundle :
    Config.resolve [] false none = .ok {} ∧
      (taking ("u8" ++ List.replicate 2000 (CodePoint.char '?'))).WellFormed ∧
      (∀ emitStub b, generate emitStub {}
        (taking ("u8" ++ List.replicate 2000 (CodePoint.char '?'))) ≠ .ok b) ∧
      (summed (.scalar (.int leastTextless))).WellFormed ∧
      ∀ emitStub b, generate emitStub {} (summed (.scalar (.int leastTextless))) ≠ .ok b := by
  refine ⟨rfl, wellFormed_taking _, fun emitStub b h => ?_, wellFormed_summed _,
    fun emitStub b h => ?_⟩
  · have shallow := ((exists_generate_of_wellFormed (wellFormed_taking _)).1 ⟨b, h⟩).1 _ (.head _)
    rw [← TypeExpr.written_optionals, Value.isShallow,
      TypeExpr.ofText_written (TypeExpr.formed_optionals 2000), TypeExpr.depth_optionals] at shallow
    revert shallow
    decide
  · have shown := ((exists_generate_of_wellFormed (wellFormed_summed _)).1 ⟨b, h⟩).2
      ⟨rfl, nofun⟩ _ (.head _) _ rfl
    rw [Value.shown_of_textless (Nat.le_refl _)] at shown
    obtain ⟨_, h⟩ := shown
    cases h

end Interface

end Bindery
