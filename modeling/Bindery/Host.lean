import Bindery.Formatter

/-!
# The host of a run

What a run finds around it and cannot change: where it works, the homes of users, the time, how the
code formatter answers, and what the output takes.
-/

namespace Bindery

structure Host where
  /-- The directory that paths without a root start from. -/
  cwd : Path
  /-- The home directory of who runs the program. -/
  home : Path
  /-- The home directories of users by their names. -/
  homes : List (Text × Path) := []
  /-- The moment of the run, as the log file gives it. -/
  now : Text := ""
  /-- The command of the formatter, blank for the usual one. -/
  formatterLine : Text := ""
  /-- How the formatter answers a call, after the calls made before it. -/
  respond : List Formatter.Call → Formatter.Call → Formatter.Outcome
  /-- Why the output does not take a line, if it does not. -/
  refusal? : Text → Option Fault := fun _ => none

/-- The home of a user; the empty name is that of who runs the program. -/
def Host.homeOf (h : Host) (user : Text) : Option Path :=
  if user.isEmpty then some h.home else h.homes.lookup user

/-- The refusal of an output that is strict about UTF-8. -/
def Host.strictRefusal? (line : Text) : Option Fault :=
  match Text.encode line with
  | .ok _ => none
  | .error reason => some (.unencodable reason)

/-- A path with a leading home written out. -/
def Host.expand (h : Host) (p : Path) : Except Fault Path := p.expandHome h.homeOf

end Bindery
