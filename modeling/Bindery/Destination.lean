import Bindery.Path

/-!
# Where generated files go

A source file goes into the source set of its variant, below the directories of its package;
the C header goes to a fixed place of its own. Single-target builds put all variants into one
source set, where the variant in the file name keeps them apart.
-/

namespace Bindery.Destination

/-- The source set of a variant. -/
def sourceSet (variant : Text) (multiplatform : Bool) : Text :=
  if multiplatform then variant ++ "Main" else "main"

/-- The file name of a variant's source. -/
def fileName (component variant : Text) : Text := component ++ "." ++ variant ++ ".kt"

/-- The directories of a package: one for each of its segments. -/
def packagePath (package : Text) : Path := Path.ofTexts (Text.pieces '.' package)

/-- The path of a variant's source file from the output directory. -/
def binding (package component variant : Text) (multiplatform : Bool) : Path :=
  Path.ofText (sourceSet variant multiplatform) ++ Path.ofText "kotlin" ++ packagePath package ++
    Path.ofText (fileName component variant)

/-- The path of the C header from the output directory. -/
def header (component : Text) : Path :=
  ⟨.here, ["nativeInterop", "cinterop", "headers"]⟩ ++ Path.ofText component ++
    Path.ofText (component ++ ".h")

end Bindery.Destination
