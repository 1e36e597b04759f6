import Bindery.Fault
import Bindery.Number.Binary64
import Bindery.Text.Blank
import Bindery.Text.Digits

/-!
# Reading numbers

Whole numbers in a base and decimal fractions, from texts that are nothing but a number
(`integer`, `float`): ASCII blanks around it, a sign, and single underscores between digits are
accepted. The decimal digits of any script count as the ASCII ones and the other blank characters
as spaces (`asciiForm`). Readers that find a number inside a longer text decide its extent first
and then read it here.
-/

namespace Bindery.Number

/-- The value of a digit: a decimal digit, or a letter from ten on. -/
def digit? (c : Char) : Option Nat :=
  if c.isDigit then some (c.toNat - '0'.toNat)
  else if c.isLower then some (c.toNat - 'a'.toNat + 10)
  else if c.isUpper then some (c.toNat - 'A'.toNat + 10)
  else none

/-- A digit below the base. -/
def digitIn? (base : Nat) (c : Char) : Option Nat := (digit? c).filter (· < base)

/-- The number that digits write in a base, which are all digits and at least one. -/
def natural? (base : Nat) (s : List Char) : Option Nat :=
  if s.isEmpty then none
  else (s.mapM (digitIn? base)).map fun ds => ds.foldl (fun n d => n * base + d) 0

/-- Splits off a sign; negative when it is a minus. -/
def signed : List Char → Bool × List Char
  | '-' :: rest => (true, rest)
  | '+' :: rest => (false, rest)
  | s => (false, s)

/-- A decimal digit of any script. -/
def isDigit (c : Char) : Bool := (Text.digitValue? c).isSome

/-- What a text says about a number, in ASCII: up to the first character that is neither ASCII,
blank nor a decimal digit, for which a question mark stands. -/
def asciiForm : Text → List Char
  | [] => []
  | .surrogate _ :: _ => ['?']
  | .char c :: rest =>
    if c.toNat < 127 then c :: asciiForm rest
    else if Text.isBlank c then ' ' :: asciiForm rest
    else
      match Text.digitValue? c with
      | some d => Char.ofNat ('0'.toNat + d) :: asciiForm rest
      | none => ['?']

/-- The blanks that may stand around a number. -/
def isAsciiBlank (c : Char) : Bool := c == ' ' || (9 ≤ c.toNat && c.toNat ≤ 13)

/-- The letters that may mark the base after a leading zero. -/
def baseMark? (base : Nat) : Option Char :=
  if base = 2 then some 'b' else if base = 8 then some 'o' else if base = 16 then some 'x' else none

/-- The digits without a mark of their base in front, and an underscore behind the mark. -/
def withoutMark (base : Nat) : List Char → List Char
  | '0' :: c :: rest =>
    if baseMark? base = some c.toLower then
      match rest with
      | '_' :: rest => rest
      | rest => rest
    else '0' :: c :: rest
  | s => s

/-- The digits among underscores, when these stand alone between two digits. -/
def ungrouped? (s : List Char) : Option (List Char) :=
  let groups := Text.splitWhere (· == '_') s
  if groups.any List.isEmpty then none else some groups.flatten

/-- The most decimal digits a whole number may be written with. -/
def longestInteger : Nat := 4300

/-- The whole number that a text writes in a base. The count of decimal digits is looked at
before what stands behind them. -/
def integer (base : Nat) (written : Text) : Except Unconvertible Int :=
  let (negative, body) := signed ((asciiForm written).dropWhile isAsciiBlank)
  let body := withoutMark base body
  let isPart (c : Char) := c == '_' || (digitIn? base c).isSome
  match ungrouped? (body.takeWhile isPart) with
  | none => .error (.integer base written)
  | some digits =>
    if base = 10 && longestInteger < digits.length then .error (.integerLength digits.length)
    else if !(body.dropWhile isPart).all isAsciiBlank then .error (.integer base written)
    else
      match natural? base digits with
      | none => .error (.integer base written)
      | some n => .ok (if negative then -n else n)

/-- A decimal fraction by its parts. -/
def ofParts (negative : Bool) (whole fraction : List Char) (exponent : Int) : Binary64 :=
  let digits := (natural? 10 (whole ++ fraction)).getD 0
  Binary64.ofDecimal negative digits (exponent - fraction.length)

/-- Splits at the end of the leading digits. -/
def leadingDigits (s : List Char) : List Char × List Char :=
  (s.takeWhile Char.isDigit, s.dropWhile Char.isDigit)

/-- The text without the underscores that stand alone between two digits. -/
def ungrouped : List Char → List Char
  | a :: '_' :: b :: rest =>
    if a.isDigit && b.isDigit then a :: ungrouped (b :: rest) else a :: '_' :: ungrouped (b :: rest)
  | a :: rest => a :: ungrouped rest
  | [] => []

/-- The text without ASCII blanks at either end. -/
def bare (s : List Char) : List Char :=
  ((s.dropWhile isAsciiBlank).reverse.dropWhile isAsciiBlank).reverse

/-- The exponent after the letter `e`, zero when there is none and nothing else either. -/
def exponent? : List Char → Option Int
  | [] => some 0
  | c :: rest =>
    if c = 'e' ∨ c = 'E' then
      let (negative, digits) := signed rest
      (natural? 10 digits).map fun n => if negative then -(n : Int) else n
    else none

/-- The digits before and after the point, and what follows. -/
def fractionParts (s : List Char) : List Char × List Char × List Char :=
  let (whole, rest) := leadingDigits s
  match rest with
  | '.' :: rest =>
    let (fraction, rest) := leadingDigits rest
    (whole, fraction, rest)
  | _ => (whole, [], rest)

/-- The number that a text writes as a decimal fraction, an infinity or not-a-number. -/
def float? (s : Text) : Option Binary64 :=
  let (negative, body) := signed (bare (ungrouped (asciiForm s)))
  let word := String.ofList (body.map Char.toLower)
  if word = "inf" ∨ word = "infinity" then some (.infinite negative)
  else if word = "nan" then some .nan
  else
    let (whole, fraction, rest) := fractionParts body
    if whole.isEmpty && fraction.isEmpty then none
    else (exponent? rest).map (ofParts negative whole fraction)

/-- The number of a text that writes one. -/
def float (written : Text) : Except Unconvertible Binary64 :=
  match float? written with
  | some x => .ok x
  | none => .error (.number written)

end Bindery.Number
