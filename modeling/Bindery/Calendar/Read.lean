import Bindery.Calendar
import Bindery.Number.Read
import Bindery.Value.Basic

/-!
# Reading dates and times

The ISO forms of a date, a time of day and a moment with or without an offset, each found at
the start of a text. A form that reads on as long as it can leaves the rest; only a date that
the calendar does not have is a form without a value.
-/

namespace Bindery.Calendar

/-- An ASCII digit's value. -/
def digit? (c : Char) : Option Nat := if c.isDigit then some (c.toNat - '0'.toNat) else none

/-- The two-digit number at the start, not above a limit. -/
def twoDigits? (limit : Nat) : List Char → Option (Nat × List Char)
  | a :: b :: rest => do
    let n := (← digit? a) * 10 + (← digit? b)
    if n ≤ limit then some (n, rest) else none
  | _ => none

/-- The four-digit number at the start. -/
def fourDigits? (s : List Char) : Option (Nat × List Char) := do
  let (a, s) ← twoDigits? 99 s
  let (b, s) ← twoDigits? 99 s
  return (a * 100 + b, s)

/-- Takes one given character off the start. -/
def char? (c : Char) : List Char → Option (List Char)
  | [] => none
  | d :: rest => if c = d then some rest else none

/-- The first six digits of a fraction, as microseconds. -/
def microseconds (digits : List Char) : Nat :=
  let six := digits.take 6
  ((Number.natural? 10 six).getD 0) * Number.tenTo (6 - six.length)

/-- The fraction at the start, if there is one; digits past the sixth are dropped. -/
def fraction : List Char → Nat × List Char
  | '.' :: rest =>
    let digits := rest.takeWhile Char.isDigit
    if digits.isEmpty then (0, '.' :: rest) else (microseconds digits, rest.dropWhile Char.isDigit)
  | s => (0, s)

/-- The time of day at the start. -/
def time? (s : List Char) : Option (Time × List Char) := do
  let (hour, s) ← twoDigits? 23 s
  let s ← char? ':' s
  let (minute, s) ← twoDigits? 59 s
  let s ← char? ':' s
  let (second, s) ← twoDigits? 59 s
  let (micro, s) := fraction s
  return (⟨hour, minute, second, micro⟩, s)

/-- The offset at the start, as `Z` or in hours and minutes. -/
def offset? : List Char → Option (Int × List Char)
  | [] => none
  | c :: rest =>
    if c = 'Z' ∨ c = 'z' then some (0, rest)
    else if c = '+' ∨ c = '-' then do
      let (hours, s) ← twoDigits? 23 rest
      let s ← char? ':' s
      let (minutes, s) ← twoDigits? 59 s
      let n : Int := (hours * 60 + minutes : Nat)
      return (if c = '-' then -n else n, s)
    else none

/-- The numbers of a date at the start: a month and a day that may exist. -/
def dateNumbers? (s : List Char) : Option ((Nat × Nat × Nat) × List Char) := do
  let (year, s) ← fourDigits? s
  let s ← char? '-' s
  let (month, s) ← twoDigits? 12 s
  let s ← char? '-' s
  let (day, s) ← twoDigits? 31 s
  if month = 0 || day = 0 then none else some ((year, month, day), s)

/-- The time of day after a date, behind a `T` or a space. -/
def timeAfterDate? : List Char → Option (Time × List Char)
  | c :: rest => if c = 'T' ∨ c = 't' ∨ c = ' ' then time? rest else none
  | [] => none

/-- The date, moment or time of day at the start of a text; the value is missing when the
calendar has no such day. -/
def moment? (s : List Char) : Option (Option Scalar × List Char) :=
  match dateNumbers? s with
  | some ((year, month, day), rest) =>
    let date := (Date.check year month day).toOption
    match timeAfterDate? rest with
    | none => some (date.map .date, rest)
    | some (time, rest) =>
      match offset? rest with
      | some (offset, rest) => some (date.map fun d => .dateTime ⟨d, time, some offset⟩, rest)
      | none => some (date.map fun d => .dateTime ⟨d, time, none⟩, rest)
  | none => (time? s).map fun (time, rest) => (some (.time time), rest)

/-- The value of a text that is one date, moment or time of day. -/
def ofText? (s : String) : Option Scalar :=
  match moment? s.toList with
  | some (value, []) => value
  | _ => none

end Bindery.Calendar
