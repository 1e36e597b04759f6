import Bindery.Failure
import Bindery.FileTree.Basic

/-!
# Text files

A text file is UTF-8. Reading one gives every line end the same spelling, writing one leaves
the text as it is.
-/

namespace Bindery.FileTree

/-- The text that the bytes of a file hold. -/
def textOf (content : ByteArray) : Except Fault String :=
  match Text.decode content with
  | .ok text => .ok (String.ofList (Text.unifyLineEnds text.toList))
  | .error reason => .error (.undecodable reason)

/-- The text of a file. -/
def readText (t : FileTree) (cwd p : Path) : Except Failure String :=
  match t.bytesOf cwd p with
  | .error e => .error (.file e)
  | .ok content =>
    match textOf content with
    | .error f => .error (.fault f)
    | .ok text => .ok text

/-- Writes a text file, after the directories it goes to. A text without an encoding leaves an
empty file. -/
def writeText [Stack] (t : FileTree) (cwd p : Path) (text : Text) :
    FileTree × Except FileError Unit :=
  match t.makeDirs cwd p.parent with
  | (t, .error e) => (t, .error e)
  | (t, .ok ()) =>
    let encoded := Text.encode text
    match t.store cwd p (encoded.toOption.getD ByteArray.empty) with
    | .error e => (t, .error e)
    | .ok t => (t, encoded.mapError (fun reason => ⟨.unencodable reason, p⟩) *> .ok ())

end Bindery.FileTree
