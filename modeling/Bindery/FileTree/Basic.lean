import Bindery.Assoc
import Bindery.FileTree.Error
import Bindery.Stack
import Bindery.Text.Utf8

/-!
# The file tree

A tree of directories and regular files, without links. `place` puts a node at a list of names
from the top, and `get?` looks one up; all that reads and writes files is said through these
two. A path is first brought to such a list by walking it (`locate`): every name that another
follows has to be a directory, and a double dot goes back up. Names in the tree are the texts that
stand for their bytes (`Text.canonicalName`).
-/

namespace Bindery

/-- A regular file or a directory. -/
inductive FileTree where
  | file (content : ByteArray)
  | dir (children : List (Text × FileTree))

instance : Inhabited FileTree := ⟨.dir []⟩

namespace FileTree

/-- The node at a list of names. -/
def get? : List Text → FileTree → Option FileTree
  | [], t => some t
  | _ :: _, .file _ => none
  | name :: names, .dir children => (Assoc.get? name children).bind (get? names)

/-- The tree with a node put at a list of names; directories on the way are made. A file on
the way stays, and then nothing is put. -/
def place (new : FileTree) : List Text → FileTree → FileTree
  | [], _ => new
  | _ :: _, .file content => .file content
  | name :: names, .dir children =>
    let child := (Assoc.get? name children).getD (.dir [])
    .dir (Assoc.put name (place new names child) children)

def isDir : FileTree → Bool
  | .dir _ => true
  | .file _ => false

mutual

/-- All regular files, with their names from the top. -/
def files : FileTree → List (List Text × ByteArray)
  | .file content => [([], content)]
  | .dir children => childFiles children

def childFiles : List (Text × FileTree) → List (List Text × ByteArray)
  | [] => []
  | (name, child) :: rest => child.files.map (fun f => (name :: f.1, f.2)) ++ childFiles rest

end

/-- The longest name, in bytes. -/
def longestName : Nat := 255

/-- The longest written path, in bytes. -/
def longestPath : Nat := 4095

/-- Follows names from a place in the tree. -/
def walk (t : FileTree) : List Text → List Text → Except FileProblem (List Text)
  | here, [] => .ok here
  | here, name :: names =>
    match t.get? here with
    | none => .error .notFound
    | some (.file _) => .error .notDirectory
    | some (.dir _) =>
      if name = ".." then walk t here.dropLast names
      else if longestName < Text.nameSize name then .error .nameTooLong
      else walk t (here ++ [name]) names

/-- Refuses the text of a path that cannot be given to a file system. -/
def checkText (text : Text) : Except FileProblem Unit :=
  match Text.checkName text with
  | .error reason => .error (.unencodable reason)
  | .ok () =>
    if text.contains '\x00' then .error .nulInPath
    else if longestPath < Text.nameSize text then .error .nameTooLong
    else .ok ()

/-- The place that a path names, from the directory `cwd` when it has no root. All but the last
of its names have to be there. -/
def locate (t : FileTree) (cwd p : Path) : Except FileProblem (List Text) := do
  checkText p.text
  walk t [] ((cwd ++ p).names.map Text.canonicalName)

/-- Attaches the path to a problem. -/
def refuse {α : Type} (p : Path) : Except FileProblem α → Except FileError α
  | .ok a => .ok a
  | .error problem => .error ⟨problem, p⟩

/-- The node that a path names, if it is there. -/
def node? (t : FileTree) (cwd p : Path) : Option FileTree :=
  match t.locate cwd p with
  | .ok names => t.get? names
  | .error _ => none

/-- Whether something is at a path. A name too long is refused, all other hindrances mean no. -/
def isThere (t : FileTree) (cwd p : Path) : Except FileError Bool :=
  match t.locate cwd p with
  | .ok names => .ok (t.get? names).isSome
  | .error .nameTooLong => .error ⟨.nameTooLong, p⟩
  | .error _ => .ok false

/-- The content of a regular file. -/
def bytesOf (t : FileTree) (cwd p : Path) : Except FileError ByteArray :=
  refuse p do
    match t.get? (← t.locate cwd p) with
    | some (.file content) => .ok content
    | some (.dir _) => .error .isDirectory
    | none => .error .notFound

/-- Writes a regular file in a directory that is there, whatever a file of that name held. -/
def store (t : FileTree) (cwd p : Path) (content : ByteArray) : Except FileError FileTree :=
  refuse p do
    let names ← t.locate cwd p
    match t.get? names with
    | some (.dir _) => .error .isDirectory
    | _ => .ok (place (.file content) names t)

/-- Adds to the end of a regular file. -/
def extend (t : FileTree) (names : List Text) (more : ByteArray) : FileTree :=
  match t.get? names with
  | some (.file content) => place (.file (content ++ more)) names t
  | _ => t

/-- Finds a regular file to add to, and makes an empty one where nothing is. -/
def openFile (t : FileTree) (cwd p : Path) : Except FileError (FileTree × List Text) :=
  refuse p do
    let names ← t.locate cwd p
    match t.get? names with
    | some (.dir _) => .error .isDirectory
    | some (.file _) => .ok (t, names)
    | none => .ok (place (.file ByteArray.empty) names t, names)

/-- Makes one directory where nothing is. -/
def makeDir (t : FileTree) (cwd p : Path) : Except FileError FileTree :=
  refuse p do
    let names ← t.locate cwd p
    match t.get? names with
    | some _ => .error .exists
    | none => .ok (place (.dir []) names t)

/-- Takes a directory that is there already for made. -/
def orThere (t : FileTree) (cwd p : Path) :
    Except FileError FileTree → FileTree × Except FileError Unit
  | .ok t' => (t', .ok ())
  | .error e => (t, if (t.node? cwd p).any isDir then .ok () else .error e)

/-- How many directories can be made at once. -/
def mostDirs [Stack] : Nat := Stack.dirs

/-- Makes a directory and all that miss above it, up to a number of them. -/
def makeDirsWithin (t : FileTree) (cwd : Path) : Nat → Path → FileTree × Except FileError Unit
  | 0, p => (t, .error ⟨.tooDeep, p⟩)
  | count + 1, p =>
    match p.names, t.makeDir cwd p with
    | _ :: _, .error ⟨.notFound, _⟩ =>
      match makeDirsWithin t cwd count p.parent with
      | (t, .error e) => (t, .error e)
      | (t, .ok ()) =>
        match t.makeDir cwd p with
        | .error ⟨.notFound, path⟩ => (t, .error ⟨.notFound, path⟩)
        | made => orThere t cwd p made
    | _, made => orThere t cwd p made

/-- Makes a directory and all that miss above it. What was made before a failure stays. -/
def makeDirs [Stack] (t : FileTree) (cwd p : Path) : FileTree × Except FileError Unit :=
  makeDirsWithin t cwd mostDirs p

end FileTree

end Bindery
