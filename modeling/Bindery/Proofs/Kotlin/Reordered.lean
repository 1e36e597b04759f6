import Mathlib.Data.List.Permutation
import Bindery.Proofs.Config.Keyed
import Bindery.Proofs.Kotlin.Headings
import Bindery.Proofs.Kotlin.PackageOrder
import Bindery.Proofs.Sequence
import Bindery.Proofs.Sorting

/-!
# Tables in another order

The tables of a configuration have an order that means nothing. Of the custom types, generated text
takes what stands under a name (`Kotlin.signature_of_lookup` and its likes) and the imports that all
of them need, which are sorted; of the packages of other components it takes the imports, in order
of the crates. So the bundles of two configurations that differ in the order of their tables are the
same, and so are their failures (`Bundle.generate_eq_of_alike`).

The imports of a source are in order of what they are sorted by: those of packages in order of the
crates that the packages belong to, those of custom types in order of their names
(`Kotlin.SortedImports`). As lines they need not be in order: a crate may come before another and
its package after the other's (`Bundle.imports_by_crate`).
-/

namespace Bindery

open Outcome Text

/-! ## The same custom types under all names -/

section Lookups

variable {customs customs' : List (Text × CustomType)}
  (found : ∀ name, customs'.lookup name = customs.lookup name)

include found

/-- Tables that are looked up alike show every type alike. -/
theorem TypeExpr.kotlin_of_lookup (t : TypeExpr) : t.kotlin customs' = t.kotlin customs := by
  induction t with
  | named name => simp only [kotlin, kotlinName, customName?, found]
  | optional t ih => rw [kotlin, kotlin, ih]
  | list t ih => rw [kotlin, kotlin, ih]

theorem kotlinType_of_lookup [Stack] : kotlinType customs' = kotlinType customs := by
  funext v
  unfold kotlinType
  simp only [TypeExpr.kotlin_of_lookup found]

/-- And convert every expression alike. -/
theorem convert_of_lookup (template : CustomType → Option Text) :
    convert template customs' = convert template customs := by
  funext expression type
  unfold convert
  rw [found]

namespace Kotlin

/-- So parameters are declared alike. -/
theorem parameter_of_lookup [Stack] : parameter customs' = parameter customs := by
  funext v
  unfold parameter
  rw [kotlinType_of_lookup found]

theorem tail_of_lookup [Stack] : tail customs' = tail customs := by
  funext f
  unfold tail resultType
  rw [parameter_of_lookup found, kotlinType_of_lookup found]

/-- And signatures are. -/
theorem signature_of_lookup [Stack] : signature customs' = signature customs := by
  funext f
  unfold signature
  rw [tail_of_lookup found]

theorem loweredArgument_of_lookup : loweredArgument customs' = loweredArgument customs := by
  funext v
  unfold loweredArgument lowerExpr
  rw [convert_of_lookup found]

end Kotlin

end Lookups

/-! ## Custom types in another order -/

section CustomTypes

variable {c : Config} {customs : List (Text × CustomType)} {i : Interface}
  (found : ∀ name, customs.lookup name = c.customTypes.lookup name)

namespace Kotlin

section

include found

theorem record_of_lookup [Stack] : record { c with customTypes := customs } = record c := by
  funext t
  unfold record field
  simp only [parameter_of_lookup found]

theorem expected_of_lookup [Stack] : expected { c with customTypes := customs } = expected c := by
  funext f
  unfold expected
  simp only [signature_of_lookup found]

theorem member_of_lookup [Stack] : member { c with customTypes := customs } i = member c i := by
  funext f
  unfold member
  simp only [tail_of_lookup found]

theorem nativeCall_of_lookup : nativeCall { c with customTypes := customs } i = nativeCall c i := by
  funext receiver f
  unfold nativeCall liftExpr
  simp only [loweredArgument_of_lookup found, convert_of_lookup found]

/-- And definitions are. -/
theorem actual_of_lookup [Stack] : actual { c with customTypes := customs } i = actual c i := by
  funext p f
  unfold actual body
  simp only [signature_of_lookup found, nativeCall_of_lookup found]

/-- The interface of a library asks for custom types only by name. -/
theorem libraryInterface_of_lookup [Stack] (p : Platform) :
    libraryInterface { c with customTypes := customs } i p = libraryInterface c i p := by
  unfold libraryInterface
  rw [member_of_lookup found]
  rfl

end

variable (imported : customImports customs = customImports c.customTypes)

include found imported

/-- So the common part is the same but for its imports. -/
theorem commonBody_of_lookup [Stack] :
    commonBody { c with customTypes := customs } i = commonBody c i := by
  unfold commonBody expectations customImportLines
  rw [record_of_lookup found, expected_of_lookup found]
  simp only [imported]
  rfl

/-- And so is that of any platform. -/
theorem platformBody_of_lookup [Stack] (p : Platform) :
    platformBody { c with customTypes := customs } i p = platformBody c i p := by
  unfold platformBody customImportLines
  rw [libraryInterface_of_lookup found, actual_of_lookup found]
  simp only [imported]
  rfl

end Kotlin

include found

/-- A bundle does not depend on more of the custom types than what stands under each name and what
they need imported. -/
theorem Bundle.generate_of_lookup [Stack]
    (imported : Kotlin.customImports customs = Kotlin.customImports c.customTypes)
    (emitStub : Bool) : generate emitStub { c with customTypes := customs } i =
      generate emitStub c i := by
  unfold generate
  simp only [Kotlin.common, Kotlin.platform, Kotlin.commonBody_of_lookup found imported,
    Kotlin.platformBody_of_lookup found imported]

end CustomTypes

/-! ## The imports of a source -/

namespace Kotlin

variable {c : Config} {i : Interface} {p : Platform} {text : Text}

/-- The line that imports a name. -/
def nameLine (name : Text) : Text := "import " ++ name

/-- The lines of a text that import something. -/
def importLines (text : Text) : List Text := (lines text).filter fun l => ofString "import " <+: l

/-- Packages and names to import as a configuration has them: its packages in order of their
crates, and every name that one of its custom types needs, once, in order. -/
structure SortedImports (c : Config) (packages : List (Text × Text)) (names : List Text) :
    Prop where
  perm : packages.Perm c.externalPackages
  crates : (packages.map Prod.fst).Pairwise Sequence.Before
  mem_names : ∀ name, name ∈ names ↔ ∃ e ∈ c.customTypes, name ∈ e.2.imports
  names : names.Pairwise Sequence.Before

/-- A source that has, behind imports of its own, one line for each package and one for each name,
and then a blank line. -/
def Importing (c : Config) (i : Interface) (own : Text) (packages : List (Text × Text))
    (names : List Text) (text : Text) : Prop :=
  ∃ declarations, text = finished (opening (c.packageFor i.component) ++ own ++
    ended (packages.map fun e => importLine e.2) ++ ended (names.map nameLine) ++ "\n" ++
    declarations)

/-- Imports of custom types are sorted, so their order does not matter. -/
theorem customImports_perm {customs customs' : List (Text × CustomType)}
    (perm : customs.Perm customs') : customImports customs = customImports customs' :=
  Sequence.sortedTexts_perm (Sequence.distinct_perm (perm.flatMap_right _))

/-- Each import of a custom type stands in a line of its own. -/
theorem customImportLines_eq (c : Config) :
    customImportLines c = ended ((customImports c.customTypes).map nameLine) := by
  rw [ended, List.flatMap_map]
  rfl

/-- The imports of a configuration without repeated keys are sorted. -/
theorem sortedImports (keyed : c.Keyed) :
    SortedImports c (Sequence.sortedByKey c.externalPackages) (customImports c.customTypes) where
  perm := List.mergeSort_perm _ _
  crates := Sequence.pairwise_keys_sortedByKey keyed.externalPackages
  mem_names name := by
    have sorted : (customImports c.customTypes).Perm _ := List.mergeSort_perm _ _
    rw [sorted.mem_iff, Sequence.mem_distinct, List.mem_flatMap]
  names := Sequence.pairwise_sortedTexts (Sequence.nodup_distinct _)

/-- A common source imports packages and custom types in order. -/
theorem importing_common [Stack] (h : common c i = .ok text) :
    Importing c i "" (Sequence.sortedByKey c.externalPackages) (customImports c.customTypes)
      text := by
  obtain ⟨_, hbody, rfl⟩ := map_ok_iff.1 h
  simp only [commonBody, bind_ok_iff, pure_ok_iff] at hbody
  obtain ⟨records, -, enums, -, functions, -, rfl⟩ := hbody
  refine ⟨records.flatten ++ enums.flatten ++ functions, ?_⟩
  rw [← packageImports_eq, ← customImportLines_eq]
  simp only [List.append_assoc]
  rfl

/-- And so does a platform source, behind its own imports. -/
theorem importing_platform [Stack] (h : platform c i p = .ok text) :
    Importing c i (platformImports c i p) (Sequence.sortedByKey c.externalPackages)
      (customImports c.customTypes) text := by
  obtain ⟨_, hbody, rfl⟩ := map_ok_iff.1 h
  obtain ⟨library, functions, -, -, rfl⟩ := platformBody_cases hbody
  refine ⟨library ++ functions.flatten, ?_⟩
  rw [← packageImports_eq, ← customImportLines_eq, front, List.append_assoc _ library]

end Kotlin

namespace Bundle

variable {c c' : Config}

/-- Configurations that are alike generate the same. -/
theorem generate_eq_of_alike [Stack] (keyed : c.Keyed) (alike : c.Alike c') (emitStub : Bool)
    (i : Interface) : generate emitStub c' i = generate emitStub c i := by
  obtain ⟨⟨packages, customs, rfl⟩, permPackages, permCustoms⟩ := alike
  have sorted : Sequence.sortedByKey packages = Sequence.sortedByKey c.externalPackages :=
    (Sequence.sortedByKey_append_perm permPackages keyed.externalPackages []).symm
  have found (name : Text) : customs.lookup name = c.customTypes.lookup name := by
    rw [Assoc.lookup_eq_get?, Assoc.lookup_eq_get?, Assoc.get?_perm permCustoms keyed.customTypes]
  have imported := (Kotlin.customImports_perm permCustoms).symm
  -- The packages are put in the other order first, then the custom types.
  have byPackages : generate emitStub { c with externalPackages := packages } i =
      generate emitStub c i := generate_of_sorted sorted emitStub
  rw [← byPackages]
  exact generate_of_lookup (c := { c with externalPackages := packages }) found imported emitStub

/-- A document may have its entries in another order: it gives the same bundle. -/
theorem generate_eq_of_documents [Stack] {d d' : Document} (plain : d.Plain) (same : d.Alike d')
    {force : Bool} {source : Option Text} (h : Config.resolve d force source = .ok c)
    (emitStub : Bool) (i : Interface) :
    ∃ c', Config.resolve d' force source = .ok c' ∧
      generate emitStub c' i = generate emitStub c i := by
  obtain ⟨c', h', alike⟩ := Config.resolve_ok_alike h plain same
  exact ⟨c', h', generate_eq_of_alike (Config.keyed_of_resolve plain h) alike emitStub i⟩

/-- Configurations that differ in the order of their tables have the same bundle or the same
failure, and the imports of every source of a bundle are sorted. -/
theorem generate_reordered [Stack] (keyed : c.Keyed) (alike : c.Alike c') (emitStub : Bool)
    (i : Interface) : generate emitStub c' i = generate emitStub c i ∧
      ∀ b, generate emitStub c i = .ok b → ∃ packages names,
        Kotlin.SortedImports c packages names ∧ Kotlin.Importing c i "" packages names b.common ∧
          ∀ p text, b.text? p = some text →
            Kotlin.Importing c i (Kotlin.platformImports c i p) packages names text := by
  refine ⟨generate_eq_of_alike keyed alike emitStub i, fun b h => ?_⟩
  refine ⟨_, _, Kotlin.sortedImports keyed, Kotlin.importing_common (generate_common h), ?_⟩
  intro p text there
  exact Kotlin.importing_platform ((text?_eq_some_iff h).1 there).2

/-- A configuration with two packages, which are in another order than their crates, and two custom
types that need one name in common. -/
def crossed : Config where
  multiplatform := true
  targets := [.jvm, .native]
  externalPackages := [("a", "z.pkg"), ("b", "a.pkg")]
  customTypes := [("tag", ⟨["kt.Tag", "kt.Key"], some "Tag", none, some "\x7b\x7d.raw"⟩),
    ("key", ⟨["kt.Key"], some "Key", some "Key(\x7b\x7d)", none⟩)]

/-- An interface that uses both custom types. -/
def keyring : Interface where
  component := "keyring"
  crateName := "keyring"
  functions := [[
    (.text "name", .text "find_key"),
    (.text "arguments", .list none [
      .table none [(.text "name", .text "by_tag"), (.text "type", .text "tag")]]),
    (.text "return_type", .text "key")]]

/-- The same configuration with both tables back to front. -/
def uncrossed : Config :=
  { crossed with
    externalPackages := crossed.externalPackages.reverse
    customTypes := crossed.customTypes.reverse }

theorem keyed_crossed : crossed.Keyed := ⟨by decide, by decide⟩

theorem alike_uncrossed : crossed.Alike uncrossed :=
  ⟨⟨_, _, rfl⟩, (List.reverse_perm _).symm, (List.reverse_perm _).symm⟩

theorem exists_keyring_bundle : ∃ b, generate true crossed keyring = .ok b :=
  exists_of_isOk (by decide +kernel)

/-- With both tables back to front, the keyring has the same bundle. -/
theorem generate_reordered_crossed :
    crossed.Keyed ∧ crossed.Alike uncrossed ∧ ∃ b packages names text,
      generate true crossed keyring = .ok b ∧ generate true uncrossed keyring = .ok b ∧
      Kotlin.SortedImports crossed packages names ∧
      Kotlin.Importing crossed keyring "" packages names b.common ∧ b.jvm = some text ∧
      Kotlin.Importing crossed keyring (Kotlin.platformImports crossed keyring (.target .jvm))
        packages names text := by
  obtain ⟨same, imports⟩ := generate_reordered keyed_crossed alike_uncrossed true keyring
  obtain ⟨b, h⟩ := exists_keyring_bundle
  obtain ⟨packages, names, sorted, common, platforms⟩ := imports b h
  obtain ⟨text, there⟩ : ∃ text, b.text? (.target .jvm) = some text :=
    exists_text? h (show Target.jvm ∈ crossed.targets by decide)
  exact ⟨keyed_crossed, alike_uncrossed, b, packages, names, text, h, same.trans h, sorted, common,
    there, platforms _ _ there⟩

/-- As lines, imports of packages need not be in order: they are in that of the crates. -/
theorem imports_by_crate :
    crossed.Keyed ∧ ∃ b, generate true crossed ⟨"keyring", "keyring", [], [], []⟩ = .ok b ∧
      Kotlin.importLines b.common = ([
        "import z.pkg.*", "import a.pkg.*", "import kt.Key", "import kt.Tag"] : List Text) ∧
      ¬(Kotlin.importLines b.common).Pairwise fun l l' => Sequence.textLe l l' = true := by
  obtain ⟨b, h⟩ : ∃ b, generate true crossed ⟨"keyring", "keyring", [], [], []⟩ = .ok b :=
    exists_of_isOk (by decide +kernel)
  have text : Kotlin.common crossed ⟨"keyring", "keyring", [], [], []⟩ =
      .ok ("// This file was autogenerated by kmpbindgen. Do not edit.\n" ++
        "@file:Suppress(\"NAME_SHADOWING\", \"RemoveRedundantQualifierName\")\n\n" ++
        "package uniffi.keyring\n\n" ++
        "import z.pkg.*\nimport a.pkg.*\nimport kt.Key\nimport kt.Tag\n") := by cbv
  have written := Except.ok.inj ((generate_common h).symm.trans text)
  refine ⟨keyed_crossed, b, h, ?_⟩
  rw [written]
  exact ⟨by decide +kernel, by decide +kernel⟩

end Bundle

end Bindery
