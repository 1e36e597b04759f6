import Bindery.FileTree.Text
import Bindery.Host
import Bindery.Log

/-!
# What a run changes

The file tree, the log, and the calls of the formatter so far. A `Run` is a computation on
these that may fail; what it did before it failed stays done.
-/

namespace Bindery

structure World where
  tree : FileTree
  log : Log := {}
  calls : List Formatter.Call := []

/-- A computation on a world that may fail. -/
abbrev Run (α : Type) := ExceptT Failure (StateM World) α

namespace World

/-- The world after a record. A line without an encoding is left out of the log file. -/
def record (host : Host) (r : Record) (w : World) : World :=
  let tree :=
    match w.log.file with
    | some names =>
      match w.log.takes r, Text.encode (r.fileLine host.now) with
      | true, .ok line => w.tree.extend names line
      | _, _ => w.tree
    | none => w.tree
  { w with tree, log := w.log.display r }

/-- Sets up the log anew. A log file is opened at once, after the directories it is in; when
that fails the console is set up and the threshold is the old one. -/
def setUpLog [Stack] (host : Host) (verbose : Bool) (file : Option Path.Wanted) (w : World) :
    World × Except Failure Unit :=
  let style := if verbose then .full else .brief
  let log := { w.log with style, file := none }
  match file with
  | none => ({ w with log := { log with threshold := style.level } }, .ok ())
  | some wanted =>
    match wanted.bind host.expand with
    | .error f => ({ w with log }, .error (.fault f))
    | .ok path =>
      match w.tree.makeDirs host.cwd path.parent with
      | (tree, .error e) => ({ w with tree, log }, .error (.file e))
      | (tree, .ok ()) =>
        match tree.openFile host.cwd (Path.settled host.cwd path) with
        | .error e => ({ w with tree, log }, .error (.file e))
        | .ok (tree, names) =>
          ({ w with tree, log := { log with threshold := .debug, file := some names } }, .ok ())

end World

namespace Run

/-- Fails or succeeds as an outcome says. -/
def ofExcept {ε α : Type} (wrap : ε → Failure) : Except ε α → Run α
  | .ok a => pure a
  | .error e => throw (wrap e)

/-- The file tree as it is now. -/
def tree : Run FileTree := return (← get).tree

def record (host : Host) (r : Record) : Run Unit := modify (World.record host r)

/-- Calls the formatter. -/
def format (host : Host) (call : Formatter.Call) : Run Formatter.Outcome := do
  let w ← get
  set { w with calls := w.calls ++ [call] }
  return host.respond w.calls call

/-- Changes the file tree, even when that fails on the way. -/
def changeTree (wrap : FileError → Failure) (change : FileTree → FileTree × Except FileError Unit) :
    Run Unit := do
  let w ← get
  let (tree, outcome) := change w.tree
  set { w with tree }
  ofExcept wrap outcome

end Run

end Bindery
