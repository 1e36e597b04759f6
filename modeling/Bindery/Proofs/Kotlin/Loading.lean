import Bindery.Proofs.Kotlin.Headings
import Bindery.Proofs.Kotlin.Variants

/-!
# Libraries loaded before the component's own

A source that calls the native library through the JVM loads other libraries first, each in a line
of its own behind the line that opens the block, and the component's library behind the last of them
(`Kotlin.LoadsInOrder`). The libraries are those of the platform and the shared ones at their first
places, and they have an import when there are any. The other sources have no such lines, and look
at no list of libraries (`Bundle.libraries_in_order`).
-/

namespace Bindery

open Outcome Text Kotlin

/-- The libraries that a target alone asks for. -/
def Config.librariesOf (c : Config) : Target → List Text
  | .jvm => c.jvmLibraries
  | .android => c.androidLibraries
  | .native => []

namespace Kotlin

/-- What a source imports to load libraries. -/
def loaderImports (libraries : List Text) : List Text :=
  "import com.sun.jna.Library" :: "import com.sun.jna.Native" ::
    if libraries = [] then [] else ["import com.sun.jna.NativeLibrary"]

/-- The lines that open the block in which libraries are loaded. -/
def loaderOpening : List Text :=
  ["", "internal interface UniffiLib : Library \x7b", "    companion object \x7b",
    "        internal val INSTANCE: UniffiLib by lazy \x7b"]

/-- The line that loads a library. -/
def instanceLine (library : Text) : Text :=
  "            NativeLibrary.getInstance(\"" ++ library ++ "\")"

/-- The call that loads the library of a component. -/
def loadCall (c : Config) (i : Interface) : Text :=
  "            Native.load(\"" ++ c.cdylibFor i.component none ++ "\", UniffiLib::class.java)"

/-- A source that loads libraries one after another, each in one line, and then the library of a
component. -/
def LoadsInOrder (c : Config) (i : Interface) (libraries : List Text) (text : Text) : Prop :=
  ∃ rest, text = opening (c.packageFor i.component) ++ ended (loaderImports libraries) ++
    packageImports c ++ customImportLines c ++
    ended (loaderOpening ++ libraries.map instanceLine) ++ loadCall c i ++ rest

/-- What a source imports that does not call the library through the JVM. -/
def foreignImports (i : Interface) (p : Platform) : List Text :=
  if p = .target .native then
    ["import kotlinx.cinterop.*", "import " ++ i.component ++ ".cinterop.*"]
  else []

/-- A source that has functions behind its imports, and nothing in between. -/
def LoadsNothing [Stack] (c : Config) (i : Interface) (p : Platform) (text : Text) : Prop :=
  ∃ ks, List.Forall₂ (Callable.Reads c.customTypes) i.functions ks ∧ text =
    finished (opening (c.packageFor i.component) ++ ended (foreignImports i p) ++
      packageImports c ++ customImportLines c ++ ended [""] ++
      ks.flatMap (Callable.definition c i p))

variable {c : Config} {i : Interface} {p : Platform} {text : Text}

/-- A target loads its own libraries and then the shared ones, each at its first place. -/
theorem librariesFor_target {t : Target} (ht : t ≠ .native) (c : Config) :
    librariesFor c (Platform.target t).name =
      Sequence.distinct (c.librariesOf t ++ c.sharedLibraries) := by
  cases t with
  | native => exact absurd rfl ht
  | jvm | android => rw [Bundle.librariesFor_java rfl]; rfl

/-! ## Lines -/

/-- A platform of the JVM imports the loader if it has libraries to load. -/
theorem platformImports_java (java : p.isJava = true) :
    platformImports c i p = ended (loaderImports (librariesFor c p.name)) := by
  have imports : platformImports c i p =
      "import com.sun.jna.Library\nimport com.sun.jna.Native\n" ++
        (if (librariesFor c p.name).isEmpty then "" else "import com.sun.jna.NativeLibrary\n") := by
    rcases Bundle.eq_of_java java with rfl | rfl <;> rfl
  rw [imports, loaderImports]
  simp only [List.isEmpty_iff]
  split <;> decide +kernel

/-- Any other platform imports what it calls the library with. -/
theorem platformImports_foreign (foreign : p.isJava = false) :
    platformImports c i p = ended (foreignImports i p) := by
  cases p with
  | stub => rfl
  | target t =>
    cases t with
    | jvm | android => cases foreign
    | native =>
      have first : ofString "import kotlinx.cinterop.*\nimport " =
          ended ["import kotlinx.cinterop.*"] ++ "import " := by decide +kernel
      have last : ofString ".cinterop.*\n" = ofString ".cinterop.*" ++ [.char '\n'] := by
        decide +kernel
      have imports : platformImports c i (.target .native) =
          "import kotlinx.cinterop.*\nimport " ++ i.component ++ ".cinterop.*\n" := rfl
      rw [imports, first, last, foreignImports, if_pos rfl]
      simp only [ended, List.flatMap_cons, List.flatMap_nil, List.append_assoc, List.append_nil]

/-- Each library is loaded in a line of its own, in order. -/
theorem libraryLines_eq (c : Config) (p : Platform) :
    libraryLines c p = ended ((librariesFor c p.name).map instanceLine) := by
  rw [ended, List.flatMap_map]
  refine List.flatMap_congr fun library _ => ?_
  rw [instanceLine, List.append_assoc _ _ [_]]
  rfl

/-- Loading begins with the call that loads. -/
theorem loadingText_eq (c : Config) (i : Interface) (checks : List Text) :
    ∃ rest, loadingText c i checks = loadCall c i ++ rest := by
  unfold loadingText
  split
  · exact ⟨_, rfl⟩
  · refine ⟨".also \x7b lib ->\n" ++ checks.flatten ++ "            \x7d\n", ?_⟩
    simp only [loadCall, List.append_assoc]

/-- The interface to the library goes from the opening of the block to the libraries, and on to the
component's own. -/
theorem libraryText_eq (c : Config) (i : Interface) (p : Platform) (checks : List Text)
    (ks : List Callable) :
    ∃ rest, ended [""] ++ libraryText c i p checks ks =
      ended (loaderOpening ++ (librariesFor c p.name).map instanceLine) ++ loadCall c i ++
        rest := by
  obtain ⟨rest, loads⟩ := loadingText_eq c i checks
  have opening : ended loaderOpening = ended [""] ++
      ("internal interface UniffiLib : Library \x7b\n    companion object \x7b\n" ++
        "        internal val INSTANCE: UniffiLib by lazy \x7b\n") := by decide +kernel
  rw [libraryText, libraryLines_eq, loads, ended_append, opening]
  simp only [List.append_assoc]
  exact ⟨_, rfl⟩

/-- Finishing a text keeps everything up to the call that loads. -/
theorem finished_loadCall (c : Config) (i : Interface) (front rest : Text) :
    ∃ rest', finished (front ++ loadCall c i ++ rest) = front ++ loadCall c i ++ rest' := by
  have last : loadCall c i = "            Native.load(\"" ++ c.cdylibFor i.component none ++
      "\", UniffiLib::class.java" ++ [CodePoint.char ')'] := by
    simp only [loadCall, List.append_assoc]
    rfl
  refine ⟨trimEnd rest ++ "\n", ?_⟩
  rw [last, ← List.append_assoc, List.append_assoc _ [_], List.append_assoc _ [_], finished]
  simp only [List.singleton_append]
  rw [trimEnd_append_cons (by decide), List.append_assoc, List.cons_append]

end Kotlin

namespace Bundle

variable {emitStub : Bool} {c : Config} {i : Interface} {b : Bundle}

/-- A source that loads through the JVM loads its libraries in order. -/
theorem loadsInOrder_java [Stack] {p : Platform} (java : p.isJava = true) {text : Text}
    (h : platform c i p = .ok text)
    {ks : List Callable} (hks : List.Forall₂ (Callable.Reads c.customTypes) i.functions ks) :
    LoadsInOrder c i (librariesFor c p.name) text := by
  obtain ⟨library, hlibrary, whole⟩ := platform_eq hks h
  rw [libraryPart, if_pos java] at hlibrary
  obtain ⟨checks, -, rfl⟩ := libraryInterface_eq hks hlibrary
  obtain ⟨rest, interface⟩ := libraryText_eq c i p checks ks
  have blank : ofString "\n" = ended [""] := by decide +kernel
  rw [whole, front, platformImports_java java, blank, List.append_assoc _ (ended [""]), interface,
    ← List.append_assoc, ← List.append_assoc, List.append_assoc _ rest]
  exact finished_loadCall c i _ _

/-- Any other source loads none. -/
theorem loadsNothing_foreign [Stack] {p : Platform} (foreign : p.isJava = false) {text : Text}
    (h : platform c i p = .ok text)
    {ks : List Callable} (hks : List.Forall₂ (Callable.Reads c.customTypes) i.functions ks) :
    LoadsNothing c i p text := by
  obtain ⟨library, hlibrary, whole⟩ := platform_eq hks h
  rw [libraryPart, if_neg (by rw [foreign]; exact Bool.false_ne_true)] at hlibrary
  obtain rfl := Except.ok.inj hlibrary
  have blank : ofString "\n" = ended [""] := by decide +kernel
  refine ⟨ks, hks, whole.trans ?_⟩
  rw [front, platformImports_foreign foreign, blank]
  exact congrArg (fun t => finished (t ++ _)) (List.append_nil _)

/-- Every source for the JVM or for Android loads the libraries of its target and then the shared
ones, each at its first place and no other, before the component's own, and has the import for it
when there are any. The other sources load none, whatever the libraries are. -/
theorem libraries_in_order [Stack] (h : generate emitStub c i = .ok b) :
    (∀ t text, t ≠ .native → b.text? (.target t) = some text →
      ∃ own shared, Sequence.FirstPlaces (c.librariesOf t) own ∧
        Sequence.FirstPlaces (c.librariesOf t ++ c.sharedLibraries) (own ++ shared) ∧
        LoadsInOrder c i (own ++ shared) text) ∧
    ∀ p text, p.isJava = false → b.text? p = some text → LoadsNothing c i p text ∧
      ∀ jvm android shared, ∃ b',
        generate emitStub (c.withLibraries jvm android shared) i = .ok b' ∧
          b'.text? p = some text := by
  obtain ⟨ks, hks⟩ := exists_callables h
  refine ⟨fun t text ht there => ?_, fun p text foreign there => ⟨?_, fun jvm android shared => ?_⟩⟩
  · have java : (Platform.target t).isJava = true := by
      cases t with
      | native => exact absurd rfl ht
      | _ => rfl
    have loads := loadsInOrder_java java ((text?_eq_some_iff h).1 there).2 hks
    obtain ⟨shared, split⟩ :=
      Sequence.distinct_prefix_append (c.librariesOf t) c.sharedLibraries
    refine ⟨_, shared, Sequence.firstPlaces_distinct _, ?_, ?_⟩
    · rw [split]
      exact Sequence.firstPlaces_distinct _
    · rw [split]
      rwa [librariesFor_target ht] at loads
  · exact loadsNothing_foreign foreign ((text?_eq_some_iff h).1 there).2 hks
  · obtain ⟨b', h', differ⟩ := exists_withLibraries h jvm android shared
      fun (q : Platform) (java' : ¬ q.isJava = true) java => absurd java java'
    exact ⟨b', h', (differ.platforms p (by simp [foreign])).trans there⟩

/-- Of two libraries for the JVM and two shared ones the counter's JVM source loads three, and its
stub loads none. -/
theorem libraries_in_order_counter :
    ∃ b text text',
      generate true (counterConfig.withLibraries ["m", "ssl"] [] ["ssl", "z"]) counter = .ok b ∧
      b.jvm = some text ∧ b.stub = some text' ∧
      LoadsInOrder counterConfig counter ["m", "ssl", "z"] text ∧
      LoadsNothing counterConfig counter .stub text' := by
  obtain ⟨b₀, h₀⟩ := exists_counter_bundle
  obtain ⟨b, h, -⟩ := exists_withLibraries h₀ ["m", "ssl"] [] ["ssl", "z"]
    fun (q : Platform) (java' : ¬ q.isJava = true) java => absurd java java'
  obtain ⟨loads, none⟩ := libraries_in_order h
  have jvm : Target.jvm ∈ counterConfig.targets := by decide
  obtain ⟨text, there⟩ := exists_text? h (p := .target .jvm) jvm
  obtain ⟨text', there'⟩ := exists_text? h (p := .stub) ⟨rfl, rfl⟩
  obtain ⟨own, shared, -, places, inOrder⟩ := loads .jvm text (by decide) there
  have libraries : own ++ shared = (["m", "ssl", "z"] : List Text) :=
    (places.eq (Sequence.firstPlaces_distinct _)).trans (by decide +kernel)
  rw [libraries] at inOrder
  exact ⟨b, text, text', h, there, there', inOrder, (none .stub text' rfl there').1⟩

end Bundle

end Bindery
