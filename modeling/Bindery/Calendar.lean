/-!
# Dates and times

Calendar values as documents hold them, the rules that make one valid, their ISO texts, and
when two of them are equal: with an offset from universal time they are compared as instants,
without one field by field, and never across the two.
-/

namespace Bindery

structure Date where
  year : Nat
  month : Nat
  day : Nat
  deriving DecidableEq, Repr, Inhabited

/-- A time of day, to the microsecond. -/
structure Time where
  hour : Nat
  minute : Nat
  second : Nat
  micro : Nat
  deriving DecidableEq, Repr, Inhabited

/-- A date with a time of day and, when it names an instant, the offset from universal time
in minutes. -/
structure DateTime where
  date : Date
  time : Time
  offset : Option Int
  deriving DecidableEq, Repr, Inhabited

namespace Date

def isLeap (year : Nat) : Bool := year % 4 == 0 && (year % 100 != 0 || year % 400 == 0)

def daysInMonth (year month : Nat) : Nat :=
  if month = 2 then (if isLeap year then 29 else 28)
  else if month = 4 || month = 6 || month = 9 || month = 11 then 30
  else 31

/-- Why three numbers are no date. -/
inductive Problem where
  | year (n : Nat)
  | month
  | day
  deriving DecidableEq, Repr

/-- The date of three numbers, or the first reason against it. -/
def check (year month day : Nat) : Except Problem Date :=
  if year = 0 || 9999 < year then .error (.year year)
  else if month = 0 || 12 < month then .error .month
  else if day = 0 || daysInMonth year month < day then .error .day
  else .ok ⟨year, month, day⟩

/-- The number of days from the first of January of year one. -/
def ordinal (d : Date) : Nat :=
  let y := d.year - 1
  let before := (List.range (d.month - 1)).foldl (fun n m => n + daysInMonth d.year (m + 1)) 0
  y * 365 + y / 4 - y / 100 + y / 400 + before + (d.day - 1)

end Date

/-- The decimal digits of a number, padded with zeros to a width. -/
def paddedDigits (width n : Nat) : String :=
  let digits := Nat.toDigits 10 n
  String.ofList (List.replicate (width - digits.length) '0' ++ digits)

/-- The ISO text, such as `2020-01-02`. -/
def Date.iso (d : Date) : String :=
  paddedDigits 4 d.year ++ "-" ++ paddedDigits 2 d.month ++ "-" ++ paddedDigits 2 d.day

namespace Time

/-- Why numbers are no time of day. -/
inductive Problem where
  | hour
  | minute
  | second
  deriving DecidableEq, Repr

/-- The time of day of four numbers, or the first reason against it. -/
def check (hour minute second micro : Nat) : Except Problem Time :=
  if 23 < hour then .error .hour
  else if 59 < minute then .error .minute
  else if 59 < second then .error .second
  else .ok ⟨hour, minute, second, micro⟩

/-- The ISO text; the fraction is there only when it is not zero. -/
def iso (t : Time) : String :=
  let whole := paddedDigits 2 t.hour ++ ":" ++ paddedDigits 2 t.minute ++ ":" ++
    paddedDigits 2 t.second
  if t.micro = 0 then whole else whole ++ "." ++ paddedDigits 6 t.micro

end Time

/-- The text of an offset, such as `+01:30`. -/
def offsetText (minutes : Int) : String :=
  let n := minutes.natAbs
  (if minutes < 0 then "-" else "+") ++ paddedDigits 2 (n / 60) ++ ":" ++ paddedDigits 2 (n % 60)

namespace DateTime

/-- The ISO text with a chosen character between date and time. -/
def iso (t : DateTime) (between : String) : String :=
  t.date.iso ++ between ++ t.time.iso ++ (t.offset.map offsetText).getD ""

/-- Microseconds on the clock since the first of January of year one. -/
def clock (t : DateTime) : Int :=
  ((((t.date.ordinal * 24 + t.time.hour) * 60 + t.time.minute) * 60 + t.time.second) * 1000000 +
    t.time.micro : Nat)

/-- Equal instants when both have an offset, equal fields when neither has. -/
def same (a b : DateTime) : Bool :=
  match a.offset, b.offset with
  | some x, some y => a.clock - x * 60000000 == b.clock - y * 60000000
  | none, none => a.clock == b.clock
  | _, _ => false

end DateTime

end Bindery
