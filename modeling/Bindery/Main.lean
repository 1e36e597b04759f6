import Bindery.CommandLine.Run
import Bindery.FileTree.Changes
import Std.Time.Format
import Std.Time.Zoned

/-!
# The command line

Runs the program on the files of this machine. A run is made in memory, on a file tree with what
the disk has at the places that the arguments name. When the run changes a place that was not
looked at, the place is looked at too and the run is made anew, until nothing is left to look
at; only then are its changes made on the disk. No formatter is ever started: every call of one
ends as if it were not there.
-/

namespace Bindery.CommandLine

/-- A text as the machine takes it. -/
def plainText (text : Text) : String := String.ofList text.characters

/-- The written form of a place. -/
def placeText (place : List Text) : String := plainText (Path.text ⟨.root, place⟩)

/-- The places that a path leads through. -/
def placesOf (host : Host) (path : Path) : List (List Text) :=
  (path :: (host.expand path).toOption.toList).flatMap fun path =>
    let names := (host.cwd ++ path).names
    (List.range (names.length + 1)).map fun n => Path.settledNames (names.take n)

/-- The places that arguments name. -/
def placesIn (host : Host) (args : List Text) : List (List Text) :=
  match Invocation.parse args with
  | .ok i => i.paths.flatMap (placesOf host)
  | .error _ => []

/-- What the disk has at a place; of a directory only that it is there. -/
def nodeAt? (place : List Text) : IO (Option FileTree) := do
  try
    return some (.file (← IO.FS.readBinFile (placeText place)))
  catch
    | .inappropriateType .. => return some (.dir [])
    | .noFileOrDirectory .. | .invalidArgument .. => return none
    | e => throw e

/-- The tree with what the disk has at a place and on the way there. -/
def look (tree : FileTree) (place : List Text) : IO FileTree :=
  (List.range place.length).foldlM (fun tree n => do
    let here := place.take (n + 1)
    if (tree.get? here).isSome || !(tree.get? here.dropLast).any FileTree.isDir then return tree
    else return ((← nodeAt? here).map (FileTree.place · here tree)).getD tree) tree

/-- Makes a run on what the disk has at some places and at those that the run changes, and tells
the changes too. -/
partial def settle (host : Host) (args : List Text) (places : List (List Text)) :
    IO (Ending × World × List (List Text × FileTree)) := do
  let tree ← places.foldlM look (.dir [])
  let (ending, world) := run host args { tree }
  let changes := tree.changes world.tree
  match (changes.map Prod.fst).filter fun place => !places.contains place with
  | [] => return (ending, world, changes)
  | more => settle host args (places ++ more)

/-- Makes one change on the disk. -/
def change : List Text × FileTree → IO Unit
  | (place, .dir _) => IO.FS.createDirAll (placeText place)
  | (place, .file content) => IO.FS.writeBinFile (placeText place) content

/-- The user and the home that a line of the table of accounts tells. -/
def account? (line : Text) : Option (Text × Path) :=
  match Text.pieces ':' line with
  | [user, _, _, _, _, home, _] => some (user, Path.ofText home)
  | _ => none

/-- The homes of this machine's users. -/
def accounts : IO (List (Text × Path)) := do
  try
    return (Text.pieces '\n' (← IO.FS.readFile "/etc/passwd")).filterMap account?
  catch _ => return []

/-- This machine. -/
def thisHost : IO Host := do
  return {
    cwd := Path.ofText (Text.ofString (← IO.currentDir).toString)
    home := Path.ofText (Text.ofString ((← IO.getEnv "HOME").getD "/"))
    homes := ← accounts
    now := Text.ofString ((← Std.Time.PlainDateTime.now).format "uuuu-MM-dd HH:mm:ss,SSS")
    formatterLine := Text.ofString ((← IO.getEnv formatterVariable).getD "")
    respond := fun _ _ => .notFound
    refusal? := Host.strictRefusal? }

end Bindery.CommandLine

open Bindery Bindery.CommandLine in
/-- Runs the program; a failure that no command expects is told as it is. -/
def main (args : List String) : IO UInt32 := do
  let args := args.map Text.ofString
  let host ← thisHost
  let (ending, world, changes) ← settle host args (placesIn host args)
  changes.forM change
  IO.eprint (plainText world.log.console)
  IO.print (plainText ending.printed)
  match ending with
  | .escaped failure | .interrupted _ failure =>
    IO.eprintln (plainText failure.message)
    return 1
  | _ =>
    IO.eprint (plainText ending.complaint)
    return (ending.status?.getD 1).toUInt32
