import Bindery.Kotlin.Declaration
import Bindery.Sequence

/-!
# Generated source files

The text of every file that is generated for a component: the common Kotlin source, one for
each platform, and the C header. A single-target build has the common and the JVM source
only; a multiplatform build has the sources of its targets, the header when one of them is
native, and on request a stub for all other platforms.
-/

namespace Bindery.Kotlin

/-- The platforms a source is made for. -/
inductive Platform where
  | target (t : Target)
  | stub
  deriving DecidableEq, Repr

namespace Platform

def name : Platform → String
  | .target t => t.name
  | .stub => "stub"

/-- Whether the platform calls the native library through the JVM. -/
def isJava : Platform → Bool
  | .target .jvm | .target .android => true
  | _ => false

end Platform

/-- The text without blanks at its end, and one line end. -/
def finished (s : Text) : Text := Text.trimEnd s ++ "\n"

def banner : Text := "// This file was autogenerated by kmpbindgen. Do not edit.\n"

/-- The lines that every Kotlin source begins with. -/
def opening (package : Text) : Text :=
  banner ++ "@file:Suppress(\"NAME_SHADOWING\", \"RemoveRedundantQualifierName\")\n\npackage " ++
    package ++ "\n\n"

/-- The imports of the packages of other components, in order of their crates. -/
def packageImports (c : Config) : Text :=
  (Sequence.sortedByKey c.externalPackages).flatMap fun e => "import " ++ e.2 ++ ".*\n"

/-- What the custom types need imported, in order and without repetition. -/
def customImports (customs : List (Text × CustomType)) : List Text :=
  Sequence.sortedTexts (Sequence.distinct (customs.flatMap fun e => e.2.imports))

def customImportLines (c : Config) : Text :=
  (customImports c.customTypes).flatMap fun name => "import " ++ name ++ "\n"

/-- The libraries that a platform loads before the component's own: those of the platform,
then the shared ones, each at its first place. -/
def librariesFor (c : Config) (platform : Text) : List Text :=
  let own :=
    if platform = "jvm" then c.jvmLibraries
    else if platform = "android" then c.androidLibraries
    else []
  Sequence.distinct (own ++ c.sharedLibraries)

/-- The declarations that common code expects of the platforms. -/
def expectations [Stack] (c : Config) (i : Interface) : Except Fault Text := do
  if c.multiplatform then return (← i.functions.mapM (expected c)).flatten else return ""

/-- The common source before blanks at its end are removed. -/
def commonBody [Stack] (c : Config) (i : Interface) : Except Fault Text := do
  let records ← i.records.mapM (record c)
  let enums ← i.enums.mapM (enum c)
  let functions ← expectations c i
  return opening (c.packageFor i.component) ++ packageImports c ++ customImportLines c ++ "\n" ++
    records.flatten ++ enums.flatten ++ functions

def common [Stack] (c : Config) (i : Interface) : Except Fault Text := finished <$> commonBody c i

/-- The imports that a platform needs of its own. -/
def platformImports (c : Config) (i : Interface) (p : Platform) : Text :=
  match p with
  | .target .native =>
    "import kotlinx.cinterop.*\nimport " ++ i.component ++ ".cinterop.*\n"
  | .stub => ""
  | .target _ =>
    "import com.sun.jna.Library\nimport com.sun.jna.Native\n" ++
      (if (librariesFor c p.name).isEmpty then "" else "import com.sun.jna.NativeLibrary\n")

/-- The functions whose checksum is compared when the library is loaded. -/
def checkedFunctions (c : Config) (i : Interface) : List Table :=
  if c.omitChecksums then [] else i.functions.filter fun f => (f.get? "checksum").isSome

/-- Loads the component's library, with the checks of its checksums. -/
def loading (c : Config) (i : Interface) : Except Fault Text := do
  let load := "            Native.load(\"" ++ c.cdylibFor i.component none ++
    "\", UniffiLib::class.java)"
  let checks ← (checkedFunctions c i).mapM (checksumCheck i)
  if checks.isEmpty then return load ++ "\n"
  else return load ++ ".also \x7b lib ->\n" ++ checks.flatten ++ "            \x7d\n"

/-- The lines that load the libraries needed before. -/
def libraryLines (c : Config) (p : Platform) : Text :=
  (librariesFor c p.name).flatMap fun library =>
    "            NativeLibrary.getInstance(\"" ++ library ++ "\")\n"

/-- The interface to the native library: how it is loaded, and its members. -/
def libraryInterface [Stack] (c : Config) (i : Interface) (p : Platform) : Except Fault Text := do
  let loads ← loading c i
  let checksums ← (checkedFunctions c i).mapM (checksumMember i)
  let members ← i.functions.mapM (member c i)
  return "internal interface UniffiLib : Library \x7b\n    companion object \x7b\n" ++
    "        internal val INSTANCE: UniffiLib by lazy \x7b\n" ++ libraryLines c p ++ loads ++
    "        \x7d\n    \x7d\n\n" ++ checksums.flatten ++ members.flatten ++ "\x7d\n\n"

/-- What a function does on a platform. -/
def body (c : Config) (i : Interface) (p : Platform) (f : Table) : Except Fault Text := do
  match p with
  | .stub =>
    return "    throw UnsupportedOperationException(\"" ++ i.component ++
      " is not available on this platform\")\n"
  | .target t =>
    let receiver := if t = .native then "" else "UniffiLib.INSTANCE."
    return "    " ++ (← nativeCall c i receiver f) ++ "\n"

/-- A function of a platform's source. -/
def actual [Stack] (c : Config) (i : Interface) (p : Platform) (f : Table) : Except Fault Text := do
  let mark := if c.multiplatform then "actual " else ""
  let declared ← signature c.customTypes f
  return mark ++ "fun " ++ declared ++ " =\n" ++ (← body c i p f) ++ "\n"

/-- A platform's source before blanks at its end are removed. -/
def platformBody [Stack] (c : Config) (i : Interface) (p : Platform) : Except Fault Text := do
  let library ← if p.isJava then libraryInterface c i p else .ok ""
  let functions ← i.functions.mapM (actual c i p)
  return opening (c.packageFor i.component) ++ platformImports c i p ++ packageImports c ++
    customImportLines c ++ "\n" ++ library ++ functions.flatten

def platform [Stack] (c : Config) (i : Interface) (p : Platform) : Except Fault Text :=
  finished <$> platformBody c i p

/-- The C header of a component. -/
def header (i : Interface) : Except Fault Text := do
  let prototypes ← i.functions.mapM (prototype i)
  return finished (banner ++ "#pragma once\n\n#include <stdint.h>\n\n" ++
    "typedef struct RustBuffer \x7b\n    int64_t capacity;\n    int64_t len;\n" ++
    "    uint8_t *data;\n\x7d RustBuffer;\n\n" ++ prototypes.flatten)

end Bindery.Kotlin

namespace Bindery

/-- The generated texts of one component. -/
structure Bundle where
  common : Text
  jvm : Option Text := none
  android : Option Text := none
  native : Option Text := none
  stub : Option Text := none
  header : Option Text := none
  deriving DecidableEq, Repr, Inhabited

namespace Bundle

/-- The Kotlin sources that are there, with the names of their variants. -/
def sources (b : Bundle) : List (Text × Text) :=
  ("common", b.common) ::
    ([("jvm", b.jvm), ("android", b.android), ("native", b.native), ("stub", b.stub)].filterMap
      fun e => e.2.map fun text => (e.1, text))

/-- The texts generated for a component. -/
def generate [Stack] (emitStub : Bool) (c : Config) (i : Interface) : Except Fault Bundle := do
  let common ← Kotlin.common c i
  if c.multiplatform then
    let texts ← c.targets.mapM fun t => do return (t, ← Kotlin.platform c i (.target t))
    let header ← if .native ∈ c.targets then some <$> Kotlin.header i else .ok none
    let stub ← if emitStub then some <$> Kotlin.platform c i .stub else .ok none
    return { common, header, stub, jvm := texts.lookup .jvm, android := texts.lookup .android
             native := texts.lookup .native }
  else
    return { common, jvm := some (← Kotlin.platform c i (.target .jvm)) }

end Bundle

end Bindery
