import Bindery.Fault
import Bindery.Text.Blank
import Bindery.Text.Case
import Bindery.Text.Utf8

/-!
# Paths

A path is a root and the names after it. Reading one drops empty names and single dots and
keeps double dots, which only walking the file tree can resolve. Joining to a rooted path
forgets what stood before.
-/

namespace Bindery

/-- What a path starts from: the place where the program runs, the root directory, or the
root written with exactly two slashes, which stays apart from it. -/
inductive PathRoot where
  | here
  | root
  | doubleRoot
  deriving DecidableEq, Repr, Inhabited

structure Path where
  root : PathRoot
  names : List Text
  deriving DecidableEq, Repr, Inhabited

namespace Path

/-- A path that was asked for. Where none was named, using it is a fault. -/
abbrev Wanted := Except Fault Path

/-- The root of a written path, by the number of slashes at its start. -/
def rootOf (s : Text) : PathRoot :=
  match (s.takeWhile fun c : CodePoint => c == '/').length with
  | 0 => .here
  | 2 => .doubleRoot
  | _ => .root

/-- The path that a text writes. -/
def ofText (s : Text) : Path :=
  { root := rootOf s
    names := (Text.pieces '/' s).filter fun name => name != "" && name != "." }

/-- The second path as seen from the first. -/
def join (p q : Path) : Path :=
  match q.root with
  | .here => { p with names := p.names ++ q.names }
  | _ => q

instance : Append Path := ⟨join⟩

/-- The path of texts joined one after another. -/
def ofTexts (parts : List Text) : Path :=
  parts.foldl (fun p part => p ++ ofText part) ⟨.here, []⟩

/-- The path one name further. -/
def child (p : Path) (name : Text) : Path := { p with names := p.names ++ [name] }

/-- The path without its last name. -/
def parent (p : Path) : Path := { p with names := p.names.dropLast }

/-- The last name, empty when there is none. -/
def name (p : Path) : Text := p.names.getLast?.getD ""

def rootText : PathRoot → Text
  | .here => ""
  | .root => "/"
  | .doubleRoot => "//"

/-- The written form; a path without root and names is the single dot. -/
def text (p : Path) : Text :=
  if p.root = .here && p.names.isEmpty then "."
  else rootText p.root ++ Text.joined "/" p.names

/-- The ending of a name from its last dot on, when something stands on both sides of it. -/
def endingOf (name : Text) : Text :=
  let ending := (name.reverse.takeWhile fun c : CodePoint => c != '.').reverse
  let before := name.take (name.length - ending.length - 1)
  if ending.isEmpty || before.isEmpty then [] else .char '.' :: ending

/-- The ending of the last name in small letters. No letter outside ASCII has a small form
among the letters of the endings looked for. -/
def ending (p : Path) : Text :=
  Text.asciiSmall (endingOf p.name)

/-- Whose home a name at the start of a path stands for: nobody's unless it starts with `~`. -/
def homeOwner? (name : Text) : Option Text :=
  match name with
  | .char '~' :: owner => some owner
  | _ => none

/-- Replaces a leading `~` by the home directory, and one with a user's name by the home of that
user. No user has a name with a null character, or one that has no bytes. -/
def expandHome (homeOf : Text → Option Path) (p : Path) : Except Fault Path :=
  match p.root, p.names with
  | .here, name :: rest =>
    match homeOwner? name with
    | none => .ok p
    | some owner =>
      match Text.checkName owner with
      | .error reason => .error (.unencodable reason)
      | .ok () =>
        if owner.contains '\x00' then .error (.unconvertible .pathWithNul)
        else
          match homeOf owner with
          | some home => .ok { home with names := home.names ++ rest }
          | none => .error .homeless
  | _, _ => .ok p

/-- Takes back one name for every double dot, as far as there are names. -/
def settledNames (names : List Text) : List Text :=
  names.foldl (fun before (name : Text) =>
    if name = ".." then before.dropLast else before ++ [name]) []

/-- The path from the root, without double dots. -/
def settled (cwd p : Path) : Path :=
  let whole := cwd ++ p
  { whole with names := settledNames whole.names }

/-- The rest of a path below another one, if it is below it. -/
def below? (dir p : Path) : Option Path :=
  if dir.root = p.root && dir.names.isPrefixOf p.names then
    some ⟨.here, p.names.drop dir.names.length⟩
  else none

end Path

end Bindery
