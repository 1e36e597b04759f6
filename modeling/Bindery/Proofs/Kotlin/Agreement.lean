import Bindery.Proofs.Kotlin.Emission

/-!
# Declarations, calls and symbols agree

The texts of a bundle are made apart from one another, but have to fit together. The common source
expects the functions that every platform defines, with the same signatures in the same order.
What a platform's functions call in the native library is what is declared of it there: on the
JVM the members of its interface, with the checksums that are compared when it is loaded, and on
native targets the prototypes of the header.
-/

namespace Bindery

open Outcome

namespace Kotlin

/-- The functions whose checksum is compared, by their callables. -/
def checked (c : Config) (ks : List Callable) : List Callable :=
  if c.omitChecksums then [] else ks.filter fun k => k.checksum.isSome

namespace Callable

/-- The lines that compare the function's checksum with a number. -/
def check (i : Interface) (k : Callable) (number : Text) : Text :=
  "                check(lib." ++ checksumSymbol i k.name ++ "() == " ++ number ++
    ".toShort()) \x7b\n" ++
    "                    \"" ++ i.component ++ ": checksum mismatch for " ++ k.name ++
    ", rebuild the native library\"\n                \x7d\n"

/-- The lines that compare the function's checksum with the one that it carries. -/
def Checks (i : Interface) (k : Callable) (lines : Text) : Prop :=
  ∃ number, (k.checksum.getD .null).shown = .ok number ∧ lines = k.check i number

end Callable

/-- The lines that load the component's library and make the checks. -/
def loadingText (c : Config) (i : Interface) (checks : List Text) : Text :=
  let load := "            Native.load(\"" ++ c.cdylibFor i.component none ++
    "\", UniffiLib::class.java)"
  if checks.isEmpty then load ++ "\n"
  else load ++ ".also \x7b lib ->\n" ++ checks.flatten ++ "            \x7d\n"

/-- The interface to the native library. -/
def libraryText (c : Config) (i : Interface) (p : Platform) (checks : List Text)
    (ks : List Callable) : Text :=
  "internal interface UniffiLib : Library \x7b\n    companion object \x7b\n" ++
    "        internal val INSTANCE: UniffiLib by lazy \x7b\n" ++ libraryLines c p ++
    loadingText c i checks ++ "        \x7d\n    \x7d\n\n" ++
    (checked c ks).flatMap (Callable.checksumMember i) ++ ks.flatMap (Callable.member i) ++
    "\x7d\n\n"

/-- What a header begins with. -/
def headerOpening : Text :=
  banner ++ "#pragma once\n\n#include <stdint.h>\n\n" ++
    "typedef struct RustBuffer \x7b\n    int64_t capacity;\n    int64_t len;\n" ++
    "    uint8_t *data;\n\x7d RustBuffer;\n\n"

section Texts

variable {c : Config} {i : Interface} {p : Platform} {ks : List Callable} {text : Text}

/-- The functions whose checksums are compared are read as the callables that are compared. -/
theorem reads_checked [Stack] (hks : List.Forall₂ (Callable.Reads c.customTypes) i.functions ks) :
    List.Forall₂ (Callable.Reads c.customTypes) (checkedFunctions c i) (checked c ks) := by
  unfold checkedFunctions checked
  split
  · exact .nil
  · exact List.rel_filter (fun f k h => by simp only [h.checksum]) hks

/-- A line that compares a checksum compares that of its callable. -/
theorem Callable.Reads.checks_of_ok [Stack] {f : Table} {k : Callable}
    (h : Callable.Reads c.customTypes f k) (hcheck : checksumCheck i f = .ok text) :
    k.Checks i text := by
  obtain ⟨name, hname, hcheck⟩ := bind_ok_iff.1 hcheck
  rw [h.nameAsWritten_ok] at hname
  obtain rfl := Except.ok.inj hname
  obtain ⟨number, hnumber, hcheck⟩ := bind_ok_iff.1 hcheck
  rw [valueUnder, h.checksum] at hnumber
  exact ⟨number, hnumber, (pure_ok_iff.1 hcheck).symm⟩

/-- The checks that are made when the library is loaded, of each checked function one. -/
theorem checks_of_ok [Stack] {checks : List Text}
    (hks : List.Forall₂ (Callable.Reads c.customTypes) i.functions ks)
    (h : (checkedFunctions c i).mapM (checksumCheck i) = .ok checks) :
    List.Forall₂ (Callable.Checks i) (checked c ks) checks := by
  have read := reads_checked hks
  generalize checkedFunctions c i = fs at h read
  generalize checked c ks = ks' at read ⊢
  induction read generalizing checks with
  | nil =>
    obtain rfl := Except.ok.inj h
    exact .nil
  | cons hf _ ih =>
    obtain ⟨lines, rest, hlines, hrest, rfl⟩ := List.forall₂_cons_left_iff.1 (mapM_ok_iff.1 h)
    exact .cons (hf.checks_of_ok hlines) (ih (mapM_ok_iff.2 hrest))

/-- The part that loads the library has a line for each checksum. -/
theorem loading_eq {checks : List Text}
    (hchecks : (checkedFunctions c i).mapM (checksumCheck i) = .ok checks) :
    loading c i = .ok (loadingText c i checks) := by
  refine bind_ok_iff.2 ⟨checks, hchecks, ?_⟩
  unfold loadingText
  split <;> rfl

/-- The interface of a library has a line for each checksum that is compared, and a member for each
callable. -/
theorem libraryInterface_eq [Stack]
    (hks : List.Forall₂ (Callable.Reads c.customTypes) i.functions ks)
    (h : libraryInterface c i p = .ok text) :
    ∃ checks, List.Forall₂ (Callable.Checks i) (checked c ks) checks ∧
      text = libraryText c i p checks ks := by
  obtain ⟨loads, hloads, h⟩ := bind_ok_iff.1 h
  obtain ⟨checks, hchecks, -⟩ := bind_ok_iff.1 hloads
  rw [loading_eq hchecks] at hloads
  obtain rfl := Except.ok.inj hloads
  obtain ⟨sums, hsums, h⟩ := bind_ok_iff.1 h
  obtain ⟨members, hmembers, h⟩ := bind_ok_iff.1 h
  rw [mapM_of_reads (reads_checked hks) fun _ _ h => h.checksumMember_ok] at hsums
  rw [mapM_of_reads hks fun _ _ h => h.member_ok] at hmembers
  obtain rfl := Except.ok.inj hsums
  obtain rfl := Except.ok.inj hmembers
  refine ⟨checks, checks_of_ok hks hchecks, (pure_ok_iff.1 h).symm.trans ?_⟩
  rw [libraryText, List.flatMap_def, List.flatMap_def]

/-- In a multiplatform build every function of a platform is marked as an actual one. -/
theorem definition_actual (hm : c.multiplatform = true) :
    Callable.definition c i p =
      fun k => ("actual fun " ++ k.signature ++ " =\n" ++ k.body c i p ++ "\n" : Text) := by
  have hmark : mark c = "actual " := if_pos hm
  funext k
  rw [Callable.definition, hmark]
  rfl

/-- On a target every function calls its symbol, on what such calls are made on there. -/
theorem definition_target {t : Target} {on : String} (hon : receiver t = on) :
    Callable.definition c i (.target t) = fun k => (mark c ++ "fun " ++ k.signature ++ " =\n" ++
      ("    " ++ k.call c i on ++ "\n") ++ "\n" : Text) := by
  funext k
  rw [Callable.definition, Callable.body, hon]

/-- A header has a prototype for each callable, in order. -/
theorem header_eq [Stack] (hks : List.Forall₂ (Callable.Reads c.customTypes) i.functions ks)
    (h : header i = .ok text) :
    text = finished (headerOpening ++ ks.flatMap (Callable.prototype i)) := by
  simp only [header, bind_ok_iff, pure_ok_iff] at h
  obtain ⟨prototypes, hprototypes, rfl⟩ := h
  rw [mapM_of_reads hks fun _ _ h => h.prototype_ok] at hprototypes
  obtain rfl := Except.ok.inj hprototypes
  rw [List.flatMap_def]
  rfl

end Texts

end Kotlin

open Kotlin

namespace Bundle

variable {emitStub : Bool} {c : Config} {i : Interface} {b : Bundle}

/-- An interface with one function, whose types are built from a custom one. -/
def counter : Interface where
  component := "counter"
  crateName := "counter"
  functions := [[
    (.text "name", .text "add_all"),
    (.text "arguments", .list none [
      .table none [(.text "name", .text "start_at"), (.text "type", .text "u32")],
      .table none [(.text "name", .text "tags"), (.text "type", .text "sequence<tag>?")]]),
    (.text "return_type", .text "tag"),
    (.text "checksum", .scalar (.int 7))]]

/-- A multiplatform configuration that converts the custom type. -/
def counterConfig : Config where
  multiplatform := true
  targets := [.jvm, .native]
  customTypes := [("tag", ⟨[], some "Tag", some "Tag(\x7b\x7d)", some "\x7b\x7d.raw"⟩)]

/-- The counter has a bundle. -/
theorem exists_counter_bundle : ∃ b, generate true counterConfig counter = .ok b := by
  have hok : (generate true counterConfig counter).isOk = true := by decide +kernel
  cases h : generate true counterConfig counter with
  | ok b => exact ⟨b, rfl⟩
  | error f => simp [h, Except.isOk, Except.toBool] at hok

/-- In a multiplatform bundle the common source expects the functions that the source of every
selected platform defines, each under one signature, and in one order. -/
theorem expectations_met [Stack] (hm : c.multiplatform = true) (h : generate emitStub c i = .ok b) :
    ∃ ks, List.Forall₂ (Callable.Reads c.customTypes) i.functions ks ∧
      (∃ front, b.common =
        finished (front ++ ks.flatMap fun k => ("expect fun " ++ k.signature ++ "\n" : Text))) ∧
      (∀ p : Platform, p.Selected emitStub c → ∃ text, b.text? p = some text) ∧
      ∀ p text, b.text? p = some text → p.Selected emitStub c ∧ ∃ front, text =
        finished (front ++ ks.flatMap fun k =>
          ("actual fun " ++ k.signature ++ " =\n" ++ k.body c i p ++ "\n" : Text)) := by
  obtain ⟨ks, hks⟩ := exists_callables h
  refine ⟨ks, hks, common_eq hm hks (generate_common h), fun p hp => exists_text? h hp, ?_⟩
  intro p text htext
  obtain ⟨selected, hplatform⟩ := (text?_eq_some_iff h).1 htext
  obtain ⟨library, -, ht⟩ := platform_eq hks hplatform
  rw [definition_actual hm] at ht
  exact ⟨selected, _, ht⟩

/-- The common source of the counter's bundle expects the functions that its stub defines. -/
theorem expectations_met_counter :
    ∃ b ks front front' text, generate true counterConfig counter = .ok b ∧
      List.Forall₂ (Callable.Reads counterConfig.customTypes) counter.functions ks ∧
      b.common = finished (front ++ ks.flatMap fun k =>
        ("expect fun " ++ k.signature ++ "\n" : Text)) ∧
      b.stub = some text ∧ text = finished (front' ++ ks.flatMap fun k =>
        ("actual fun " ++ k.signature ++ " =\n" ++ k.body counterConfig counter .stub ++ "\n" :
          Text)) := by
  obtain ⟨b, h⟩ := exists_counter_bundle
  obtain ⟨ks, hks, ⟨front, hcommon⟩, there, texts⟩ := expectations_met rfl h
  obtain ⟨text, htext⟩ := there .stub ⟨rfl, rfl⟩
  obtain ⟨-, front', hstub⟩ := texts .stub text htext
  exact ⟨b, ks, front, front', text, h, hks, hcommon, htext, hstub⟩

/-- What the functions of a platform call in the native library is declared of it. On the JVM
every function calls a member of the library's interface, which has one for each function, and
the checksums declared there are those that are compared when the library is loaded. On native
targets every function calls a symbol that the header has the prototype of. -/
theorem calls_declared [Stack] (h : generate emitStub c i = .ok b) :
    ∃ ks, List.Forall₂ (Callable.Reads c.customTypes) i.functions ks ∧
      (∀ t text, t ≠ .native → b.text? (.target t) = some text →
        ∃ checks, List.Forall₂ (Callable.Checks i) (checked c ks) checks ∧ text =
          finished (front c i (.target t) ++ libraryText c i (.target t) checks ks ++
            ks.flatMap fun k => (mark c ++ "fun " ++ k.signature ++ " =\n" ++
              ("    " ++ k.call c i "UniffiLib.INSTANCE." ++ "\n") ++ "\n" : Text))) ∧
      (∀ text, b.native = some text → text =
        finished (front c i (.target .native) ++
          ks.flatMap fun k => (mark c ++ "fun " ++ k.signature ++ " =\n" ++
            ("    " ++ k.call c i "" ++ "\n") ++ "\n" : Text))) ∧
      b.header.isSome = b.native.isSome ∧
      ∀ text, b.header = some text →
        text = finished (headerOpening ++ ks.flatMap (Callable.prototype i)) := by
  obtain ⟨ks, hks⟩ := exists_callables h
  obtain ⟨hsome, hheader⟩ := header_iff_native h
  refine ⟨ks, hks, ?_, ?_, hsome, fun text htext => header_eq hks (hheader text htext)⟩
  · intro t text ht htext
    obtain ⟨library, hlibrary, heq⟩ := platform_eq hks ((text?_eq_some_iff h).1 htext).2
    have hjava : (Platform.target t).isJava = true := by cases t <;> simp_all [Platform.isJava]
    rw [libraryPart, if_pos hjava] at hlibrary
    obtain ⟨checks, hchecks, hl⟩ := libraryInterface_eq hks hlibrary
    rw [hl, definition_target (if_neg ht)] at heq
    exact ⟨checks, hchecks, heq⟩
  · intro text htext
    have hplatform : platform c i (.target .native) = .ok text :=
      ((text?_eq_some_iff h (p := .target .native)).1 htext).2
    obtain ⟨library, hlibrary, heq⟩ := platform_eq hks hplatform
    rw [libraryPart, if_neg (by decide)] at hlibrary
    obtain rfl := Except.ok.inj hlibrary
    rw [definition_target (if_pos rfl)] at heq
    exact heq.trans (congrArg (fun t => finished (t ++ _)) (List.append_nil _))

/-- The counter's bundle has members for what its JVM source calls, and a header with the
prototypes of what its native source calls. -/
theorem calls_declared_counter :
    ∃ b ks checks text text' header, generate true counterConfig counter = .ok b ∧
      List.Forall₂ (Callable.Reads counterConfig.customTypes) counter.functions ks ∧
      b.jvm = some text ∧ b.native = some text' ∧ b.header = some header ∧
      List.Forall₂ (Callable.Checks counter) (checked counterConfig ks) checks ∧
      text = finished (front counterConfig counter (.target .jvm) ++
        libraryText counterConfig counter (.target .jvm) checks ks ++
        ks.flatMap fun k => (mark counterConfig ++ "fun " ++ k.signature ++ " =\n" ++
          ("    " ++ k.call counterConfig counter "UniffiLib.INSTANCE." ++ "\n") ++ "\n" :
            Text)) ∧
      text' = finished (front counterConfig counter (.target .native) ++ ks.flatMap fun k =>
        (mark counterConfig ++ "fun " ++ k.signature ++ " =\n" ++
          ("    " ++ k.call counterConfig counter "" ++ "\n") ++ "\n" : Text)) ∧
      header = finished (headerOpening ++ ks.flatMap (Callable.prototype counter)) := by
  obtain ⟨b, h⟩ := exists_counter_bundle
  obtain ⟨ks, hks, hjava, hnative, hsome, hheader⟩ := calls_declared h
  have selected {t : Target} (ht : t ∈ counterConfig.targets) : ∃ s, b.text? (.target t) = some s :=
    exists_text? h ht
  obtain ⟨text, htext⟩ := selected (t := .jvm) (by decide)
  obtain ⟨text', htext'⟩ := selected (t := .native) (by decide)
  have hn : b.native = some text' := htext'
  rw [hn, Option.isSome_some, Option.isSome_iff_exists] at hsome
  obtain ⟨header, hh⟩ := hsome
  obtain ⟨checks, hchecks, heq⟩ := hjava .jvm text (by decide) htext
  exact ⟨b, ks, checks, text, text', header, h, hks, htext, hn, hh, hchecks, heq,
    hnative text' hn, hheader header hh⟩

end Bundle

end Bindery
