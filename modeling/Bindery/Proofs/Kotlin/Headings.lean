import Bindery.Proofs.Kotlin.Emission
import Bindery.Proofs.Text.Pieces

/-!
# The head of a source

Every Kotlin source of a bundle begins with the same lines and its package, and then has the
imports, those that its platform needs in front of the packages of other components
(`Bundle.headed_sources`). A source is cut where it ends with blanks, but never within a line of
its head that ends with something else (`finished_line`). So the package stands behind the opening
lines (`Headed.opens`), and every external package has its import (`Headed.imports`).
-/

namespace Bindery

open Outcome Text

namespace Kotlin

/-- The lines that stand in front of the package. -/
def preamble : List Text :=
  ["// This file was autogenerated by kmpbindgen. Do not edit.",
    "@file:Suppress(\"NAME_SHADOWING\", \"RemoveRedundantQualifierName\")", ""]

/-- The line that names the package of a source. -/
def packageLine (package : Text) : Text := "package " ++ package

/-- The line that imports what a package has. -/
def importLine (package : Text) : Text := "import " ++ package ++ ".*"

/-- A source that opens with the package of a component and imports, perhaps behind other imports,
the external packages. -/
def Headed (c : Config) (i : Interface) (text : Text) : Prop :=
  ∃ own rest, Whole own ∧
    text = finished (opening (c.packageFor i.component) ++ own ++ packageImports c ++ rest)

variable {c : Config} {i : Interface} {p : Platform} {text package : Text}

/-! ## The lines of the head -/

/-- An opening is the preamble, the line of the package and an empty line. -/
theorem opening_eq (package : Text) :
    opening package = ended (preamble ++ [packageLine package, ""]) := by
  have fixed : ended preamble ++ ofString "package " = banner ++
      "@file:Suppress(\"NAME_SHADOWING\", \"RemoveRedundantQualifierName\")\n\npackage " := by
    have newline : [CodePoint.char '\n'] = ofString "\n" := rfl
    simp only [ended, preamble, banner, newline, List.flatMap_cons, List.flatMap_nil,
      List.append_nil, ← ofString_append]
    rfl
  rw [opening, ← fixed, ended_append, ended_cons, packageLine, List.append_assoc,
    List.append_assoc, List.append_assoc]
  rfl

/-- Imports of packages stand in lines of their own, sorted by crate. -/
theorem packageImports_eq (c : Config) : packageImports c =
    ended ((Sequence.sortedByKey c.externalPackages).map fun e => importLine e.2) := by
  rw [ended, List.flatMap_map]
  refine List.flatMap_congr fun e _ => ?_
  rw [importLine, List.append_assoc _ _ [_]]
  rfl

theorem newline_notMem_packageLine (single : .char '\n' ∉ package) :
    .char '\n' ∉ packageLine package := by
  rw [packageLine, List.mem_append, not_or]
  exact ⟨by decide +kernel, single⟩

theorem newline_notMem_importLine (single : .char '\n' ∉ package) :
    .char '\n' ∉ importLine package := by
  rw [importLine, List.mem_append, List.mem_append, not_or, not_or]
  exact ⟨⟨by decide +kernel, single⟩, by decide⟩

/-! ## The head of what is generated -/

/-- What is cut off the end of a text leaves a line without blanks as it is. -/
theorem finished_line {line : Text} (solid : line.Solid) (filled : line ≠ []) (front rest : Text) :
    ∃ rest', finished (front ++ (line ++ .char '\n' :: rest)) =
      front ++ (line ++ .char '\n' :: rest') := by
  obtain ⟨word, c, rfl⟩ := (List.eq_nil_or_concat' line).resolve_left filled
  have visible : c.is isBlank = false := solid c (by simp)
  have split (s : Text) : front ++ (word ++ [c] ++ s) = (front ++ word) ++ c :: s := by simp
  rw [split, finished, trimEnd_append_cons visible, List.append_assoc, List.cons_append]
  rcases trimEnd_cons_newline rest with gone | kept
  · exact ⟨[], by rw [gone, split]; rfl⟩
  · exact ⟨trimEnd rest ++ "\n", by rw [kept, split]; rfl⟩

/-- Imports of a platform are whole lines. -/
theorem whole_platformImports (c : Config) (i : Interface) (p : Platform) :
    Whole (platformImports c i p) := by
  unfold platformImports
  split
  · exact Whole.behind (by decide +kernel) (by decide +kernel) _
  · exact by decide
  · refine Whole.append (by decide +kernel) ?_
    split <;> decide +kernel

/-- A common source is headed by its package and its imports. -/
theorem headed_common [Stack] (h : common c i = .ok text) : Headed c i text := by
  obtain ⟨_, hbody, rfl⟩ := map_ok_iff.1 h
  simp only [commonBody, bind_ok_iff, pure_ok_iff] at hbody
  obtain ⟨records, -, enums, -, functions, -, rfl⟩ := hbody
  refine ⟨[], customImportLines c ++ "\n" ++ records.flatten ++ enums.flatten ++ functions,
    by decide, ?_⟩
  simp only [List.append_assoc, List.nil_append]

/-- And so is a platform source. -/
theorem headed_platform [Stack] (h : platform c i p = .ok text) : Headed c i text := by
  obtain ⟨_, hbody, rfl⟩ := map_ok_iff.1 h
  obtain ⟨library, functions, -, -, rfl⟩ := platformBody_cases hbody
  refine ⟨platformImports c i p, customImportLines c ++ "\n" ++ library ++ functions.flatten,
    whole_platformImports c i p, ?_⟩
  simp only [front, List.append_assoc]

namespace Headed

/-- A headed text opens with the preamble and the line of its package. -/
theorem opens (headed : Headed c i text) (solid : (c.packageFor i.component).Solid)
    (filled : c.packageFor i.component ≠ []) :
    preamble ++ [packageLine (c.packageFor i.component)] <+: lines text := by
  obtain ⟨own, rest, -, head⟩ := headed
  generalize c.packageFor i.component = package at solid filled head ⊢
  obtain ⟨rest', cut⟩ := finished_line solid filled (ended preamble ++ "package ")
    (ended [""] ++ (own ++ (packageImports c ++ rest)))
  have heading : text = ended (preamble ++ [packageLine package]) ++ rest' := by
    rw [head, opening_eq, ended_append, ended_append, ended_cons _ [""],
      ended_cons (packageLine package) [], packageLine]
    simp only [List.append_assoc, List.cons_append] at cut ⊢
    exact cut
  have single : ∀ l ∈ preamble ++ [packageLine package], CodePoint.char '\n' ∉ l := by
    rw [List.forall_mem_append, List.forall_mem_singleton]
    exact ⟨by decide +kernel, newline_notMem_packageLine solid.newline_notMem⟩
  rw [heading, lines_ended_append single]
  exact List.prefix_append _ _

/-- And imports every external package in a line of its own. -/
theorem imports (headed : Headed c i text) {crate : Text}
    (mem : (crate, package) ∈ c.externalPackages) (single : .char '\n' ∉ package) :
    importLine package ∈ lines text := by
  obtain ⟨own, rest, whole, head⟩ := headed
  have sorted : (crate, package) ∈ Sequence.sortedByKey c.externalPackages :=
    (List.mergeSort_perm _ _).mem_iff.2 mem
  obtain ⟨before, behind, entries⟩ := List.append_of_mem sorted
  rw [packageImports_eq, entries, List.map_append, List.map_cons, ended_append, ended_cons] at head
  generalize before.map (fun e => importLine e.2) = before at head
  have front : Whole (opening (c.packageFor i.component) ++ own ++ ended before) :=
    ((opening_eq _ ▸ whole_ended _).append whole).append (whole_ended before)
  generalize opening (c.packageFor i.component) ++ own = opened at head front
  obtain ⟨rest', cut⟩ := finished_line (show Solid ".*" by decide +kernel) (by decide +kernel)
    (opened ++ ended before ++ ("import " ++ package))
    (ended (behind.map fun e => importLine e.2) ++ rest)
  have heading : text = opened ++ ended before ++ (importLine package ++ .char '\n' :: rest') := by
    rw [head, importLine]
    simp only [List.append_assoc, List.cons_append] at cut ⊢
    exact cut
  rw [heading]
  exact front.mem_lines (newline_notMem_importLine single) rest'

end Headed

end Kotlin

/-- Every Kotlin source of a bundle has a head. -/
theorem Bundle.headed_sources [Stack] {emitStub : Bool} {c : Config} {i : Interface} {b : Bundle}
    (h : generate emitStub c i = .ok b) : ∀ e ∈ b.sources, Kotlin.Headed c i e.2 := by
  intro e he
  rcases List.mem_cons.1 he with rfl | he
  · exact Kotlin.headed_common (generate_common h)
  · obtain ⟨⟨name, text?⟩, named, found⟩ := List.mem_filterMap.1 he
    obtain ⟨text, there, rfl⟩ := Option.map_eq_some_iff.1 found
    have platform : ∃ p, b.text? p = text? := by
      simp only [List.mem_cons, Prod.mk.injEq, List.not_mem_nil, or_false] at named
      rcases named with ⟨-, rfl⟩ | ⟨-, rfl⟩ | ⟨-, rfl⟩ | ⟨-, rfl⟩
      exacts [⟨.target .jvm, rfl⟩, ⟨.target .android, rfl⟩, ⟨.target .native, rfl⟩, ⟨.stub, rfl⟩]
    obtain ⟨p, rfl⟩ := platform
    exact Kotlin.headed_platform ((text?_eq_some_iff h).1 there).2

end Bindery
