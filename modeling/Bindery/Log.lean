import Bindery.Log.Pattern

/-!
# The log

A record has a level, the part of the program it comes from, the component it is about, and a
message. A log takes the records that find it and whose level reaches its threshold. Its console
shows those that also reach the level of its style; its file, when there is one, takes every record
that the log takes. How often a log was set up before makes no difference. What finds it are the
records of all parts of the program whose names do not begin with a dot, and of some others.
-/

namespace Bindery

/-- How grave a record is. Some levels have names. -/
structure Level where
  number : Int
  deriving DecidableEq, Repr

namespace Level

def debug : Level := ⟨10⟩
def info : Level := ⟨20⟩
def warning : Level := ⟨30⟩
def error : Level := ⟨40⟩
def critical : Level := ⟨50⟩

def name (l : Level) : String :=
  match l.number with
  | 0 => "NOTSET"
  | 10 => "DEBUG"
  | 20 => "INFO"
  | 30 => "WARNING"
  | 40 => "ERROR"
  | 50 => "CRITICAL"
  | n => "Level " ++ toString n

/-- Whether a level is at least as grave as another one. -/
def reaches (l threshold : Level) : Bool := threshold.number ≤ l.number

end Level

/-- The component of a record that is about none. -/
def noComponent : Text := "-"

structure Record where
  level : Level
  message : Text
  /-- The part of the program, empty for the program as a whole. -/
  part : Text := ""
  component : Text := noComponent
  deriving DecidableEq, Repr

namespace Record

/-- The part of the program with the program's name in front. -/
def origin (r : Record) : Text :=
  if r.part.isEmpty then "kmpbindgen" else "kmpbindgen." ++ r.part

/-- The level, the origin and the component. -/
def heading (r : Record) : Text :=
  r.level.name ++ " " ++ r.origin ++ " [" ++ r.component ++ "]"

/-- How many dots the part of the program begins with. -/
def dots (r : Record) : Nat := (r.part.takeWhile (· == .char '.')).length

/-- The line in a log file. -/
def fileLine (now : Text) (r : Record) : Text :=
  now ++ " " ++ r.heading ++ ": " ++ r.message ++ "\n"

end Record

/-- How a console shows records: until the log is set up only grave ones and only their
messages, then either those of interest to a user or all with their headings. -/
inductive Style where
  | bare | brief | full
  deriving DecidableEq, Repr

namespace Style

/-- The level that a record has to reach. -/
def level : Style → Level
  | .bare => .warning
  | .brief => .info
  | .full => .debug

/-- The line on the console. -/
def line (s : Style) (r : Record) : Text :=
  match s with
  | .bare => r.message ++ "\n"
  | .brief => "[kmpbindgen] " ++ r.level.name ++ " " ++ r.message ++ "\n"
  | .full => "[kmpbindgen] " ++ r.heading ++ " " ++ r.message ++ "\n"

end Style

/-- A log: its threshold, its console with all that was shown there, and the place of its file.
Of the parts of the program that have records those are remembered that are nothing but dots, by
their number. -/
structure Log where
  threshold : Level := .warning
  style : Style := .bare
  file : Option (List Text) := none
  console : Text := ""
  dotted : List Nat := []
  deriving DecidableEq, Repr

namespace Log

/-- Whether the log is found from a part of the program that begins with some dots. The parts above
it are gone through from the longest one, and of dots next to one another every second one is passed
over, unless a part that ends there is `known`. -/
def foundFrom (known : Nat → Bool) : Nat → Bool
  | 0 => true
  | 1 => false
  | dots + 2 => if known (dots + 1) then foundFrom known (dots + 1) else foundFrom known dots

/-- Whether a record finds the log. -/
def finds (l : Log) (r : Record) : Bool := foundFrom (fun dots => dots ∈ l.dotted) r.dots

/-- Whether a log takes a record. -/
def takes (l : Log) (r : Record) : Bool := l.finds r && r.level.reaches l.threshold

/-- What a console shows of a record, nothing or a line. A record that does not find the log is
shown as if the log was never set up. -/
def shown (l : Log) (r : Record) : Text :=
  if l.finds r then
    if l.takes r && r.level.reaches l.style.level then l.style.line r else ""
  else if r.level.reaches Style.bare.level then Style.bare.line r
  else ""

/-- The log after its console has shown a record, if it does. -/
def display (l : Log) (r : Record) : Log :=
  { l with
    console := l.console ++ l.shown r
    dotted := if r.dots = r.part.length then r.dots :: l.dotted else l.dotted }

/-- The levels of the places that records go to. -/
def sinkLevels (l : Log) : List Level :=
  l.style.level :: if l.file.isSome then [.debug] else []

end Log

end Bindery
