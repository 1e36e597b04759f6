import Bindery.Path

/-!
# What the file system refuses

The reasons for which an operation on a path fails, with the number and the wording a message
gives them.
-/

namespace Bindery

inductive FileProblem where
  | notFound
  | exists
  | notDirectory
  | isDirectory
  | nameTooLong
  /-- The path holds a NUL, which no file system takes. -/
  | nulInPath
  /-- The path, or the text to be written there, has no encoding. -/
  | unencodable (reason : Unencodable)
  /-- More directories than can be made at once miss on the way to the path. -/
  | tooDeep
  deriving DecidableEq, Repr

namespace FileProblem

def number : FileProblem → Nat
  | .notFound => 2
  | .exists => 17
  | .notDirectory => 20
  | .isDirectory => 21
  | .nameTooLong => 36
  | .nulInPath | .unencodable _ | .tooDeep => 22

def wording : FileProblem → String
  | .notFound => "No such file or directory"
  | .exists => "File exists"
  | .notDirectory => "Not a directory"
  | .isDirectory => "Is a directory"
  | .nameTooLong => "File name too long"
  | .nulInPath | .unencodable _ | .tooDeep => "Invalid argument"

/-- The label under which a problem is reported; a name too long has only the general one. -/
def label : FileProblem → String
  | .notFound => "FileNotFoundError"
  | .exists => "FileExistsError"
  | .notDirectory => "NotADirectoryError"
  | .isDirectory => "IsADirectoryError"
  | .nameTooLong => "OSError"
  | .nulInPath => "ValueError"
  | .unencodable _ => "UnicodeEncodeError"
  | .tooDeep => Fault.tooDeep.label

/-- Whether the file system itself refuses; what holds a NUL, has no encoding or is too deep never
gets there. -/
def isRefusal : FileProblem → Bool
  | .nulInPath | .unencodable _ | .tooDeep => false
  | _ => true

end FileProblem

/-- A refusal: the problem and the path the operation was given. -/
structure FileError where
  problem : FileProblem
  path : Path
  deriving DecidableEq, Repr

namespace FileError

def message (e : FileError) : Text :=
  match e.problem with
  | .nulInPath => Unconvertible.pathWithNul.message
  | .unencodable reason => reason.message
  | .tooDeep => FileProblem.tooDeep.label
  | problem =>
    "[Errno " ++ toString problem.number ++ "] " ++ problem.wording ++ ": " ++
      Text.quoted e.path.text

end FileError

end Bindery
