import Bindery.Fault
import Bindery.Number.Read
import Bindery.Number.Shortest
import Bindery.Text.Blank
import Bindery.Value.Basic

/-!
# How a value is shown as text

`Value.shown` is the text of a value where one is asked for and something else is given, as
for a crate named by a number. A text shows as itself; inside a collection it stands in
quotes (`Value.literal`), and dates are spelled as constructor calls. Where a collection is met
again inside itself three dots stand for what it holds. Whole numbers with too many digits have
no text.
-/

namespace Bindery

/-- Shortest digits; positional from `1e-4` up to below `1e16`; a whole number ends in `.0`. -/
def shownFloat : Decimal.Layout :=
  { positionalFrom := -4, positionalBelow := 16, wholeEnding := ".0", loneDigitEnding := ""
    infinity := "inf", notANumber := "nan" }

/-- Numbers as call arguments, `(1, 2)`. -/
def callText (name : String) (args : List String) : String :=
  name ++ "(" ++ String.intercalate ", " args ++ ")"

/-- Drops zeros from the end of the seconds and microseconds: an argument that is zero is
left out when all after it are. -/
def secondArguments (second micro : Nat) : List String :=
  if micro ≠ 0 then [toString second, toString micro]
  else if second ≠ 0 then [toString second]
  else []

def Date.arguments (d : Date) : List String := [toString d.year, toString d.month, toString d.day]

def Time.arguments (t : Time) : List String :=
  [toString t.hour, toString t.minute] ++ secondArguments t.second t.micro

/-- An offset as days and seconds, the seconds never negative. -/
def offsetLiteral (minutes : Int) : String :=
  if minutes = 0 then "datetime.timezone.utc"
  else
    let seconds := (minutes * 60) % 86400
    let span := if minutes < 0 then ["days=-1", "seconds=" ++ toString seconds]
      else ["seconds=" ++ toString seconds]
    callText "datetime.timezone" [callText "datetime.timedelta" span]

/-- The least whole number with more digits than a text may have. -/
def leastTextless : Nat := Number.tenTo Number.longestInteger

/-- The digits of a whole number. -/
def integerText (n : Int) : Except Fault Text :=
  if leastTextless ≤ n.natAbs then .error (.unconvertible .integerSize) else .ok (Text.ofInt n)

namespace Scalar

/-- A scalar inside a collection. -/
def literal : Scalar → Except Fault Text
  | .null => .ok "None"
  | .bool b => .ok (if b then "True" else "False")
  | .int n => integerText n
  | .float x => .ok (shownFloat.write x)
  | .text s => .ok (Text.quoted s)
  | .bytes bs => .ok (Text.quotedBytes bs)
  | .date d => .ok (callText "datetime.date" d.arguments)
  | .time t => .ok (callText "datetime.time" t.arguments)
  | .dateTime t =>
    .ok (callText "datetime.datetime" (t.date.arguments ++ t.time.arguments ++
      (t.offset.map fun o => "tzinfo=" ++ offsetLiteral o).toList))

/-- A scalar on its own. -/
def shown : Scalar → Except Fault Text
  | .text s => .ok s
  | .date d => .ok d.iso
  | .time t => .ok t.iso
  | .dateTime t => .ok (t.iso " ")
  | s => s.literal

end Scalar

namespace Value

/-- Whether a part is one of those around it. -/
def isWithin (around : List Nat) (mark : Mark) : Bool := mark.any around.contains

mutual

/-- A value inside a collection; `around` are the marks of the parts around it. -/
def literalIn (around : List Nat) : Value → Except Fault Text
  | .scalar s | .marked _ s => s.literal
  | .list mark items => do
    if isWithin around mark then return "[...]"
    else return "[" ++ Text.joined ", " (← literalsIn (mark.toList ++ around) items) ++ "]"
  | .table mark entries => do
    if isWithin around mark then return "\x7b...\x7d"
    else
      let shown ← entryLiteralsIn (mark.toList ++ around) entries
      return "\x7b" ++ Text.joined ", " shown ++ "\x7d"
  | .set mark members => do
    if members.isEmpty then return "set()"
    else
      let shown ← literalsIn (mark.toList ++ around) members
      return "\x7b" ++ Text.joined ", " shown ++ "\x7d"
  | .pair mark a b => do
    if isWithin around mark then return "(...)"
    else
      let first ← literalIn (mark.toList ++ around) a
      return "(" ++ first ++ ", " ++ (← literalIn (mark.toList ++ around) b) ++ ")"

def literalsIn (around : List Nat) : List Value → Except Fault (List Text)
  | [] => .ok []
  | v :: rest => do
    let shown ← literalIn around v
    return shown :: (← literalsIn around rest)

def entryLiteralsIn (around : List Nat) : List (Value × Value) → Except Fault (List Text)
  | [] => .ok []
  | (k, v) :: rest => do
    let key ← literalIn around k
    let value ← literalIn around v
    return (key ++ ": " ++ value) :: (← entryLiteralsIn around rest)

end

/-- A value as it stands inside a collection. -/
def literal (v : Value) : Except Fault Text := literalIn [] v

/-- A value on its own. -/
def shown : Value → Except Fault Text
  | .scalar s | .marked _ s => s.shown
  | v => v.literal

end Value

end Bindery
