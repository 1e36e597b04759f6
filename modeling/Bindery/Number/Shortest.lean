import Bindery.Number.Binary64

/-!
# The shortest decimal that reads back

`shortest m q` gives the decimal with the fewest significant digits among those that lie in
the interval of reals rounding to `m · 2 ^ q`, and of these the nearest one, of two as near the
one with an even last digit. For each count of digits only the two neighbours of the value on
that decimal grid have to be tried: if any point of the grid lies in the interval, one of them
does.

`Layout` holds what a format decides about the text of such a number; `Layout.write` spells
it out.
-/

namespace Bindery

/-- The decimal `digits · 10 ^ exponent`. -/
structure Decimal where
  digits : Nat
  exponent : Int
  deriving DecidableEq, Repr, Inhabited

namespace Decimal

/-- The reals that round to a number, between two bounds over one denominator. -/
structure Interval where
  low : Nat
  value : Nat
  high : Nat
  den : Nat
  closed : Bool

/-- The interval around `m · 2 ^ q`. Below a power of two the numbers are twice as dense, so
the lower half-gap is half as wide there; the ends belong to an even significand. -/
def Interval.around (m : Nat) (q : Int) : Interval :=
  let low := if m = Number.twoTo 52 ∧ Binary64.minExponent < q then 4 * m - 1 else 4 * m - 2
  let e := q - 2
  let up := Number.twoTo e.toNat
  { low := low * up
    value := 4 * m * up
    high := (4 * m + 2) * up
    den := Number.twoTo (-e).toNat
    closed := m % 2 = 0 }

/-- Whether `num / den'` lies in the interval. -/
def Interval.holds (i : Interval) (num den' : Nat) : Bool :=
  let x := num * i.den
  if i.closed then i.low * den' ≤ x && x ≤ i.high * den'
  else i.low * den' < x && x < i.high * den'

/-- The power of ten of the leading digit of `num / den`, which is not zero. -/
def leadingPower (num den : Nat) : Int :=
  if den ≤ num then (Binary64.decimalLength (num / den) : Int) - 1
  else
    let t := Binary64.decimalLength (den / num)
    if den ≤ num * Number.tenTo (t - 1) then -((t : Int) - 1) else -(t : Int)

/-- The multiple of `10 ^ k` that lies in the interval nearest to its value, if one does; of two
as near the one with an even last digit. -/
def onGrid (i : Interval) (k : Int) : Option Nat :=
  let unitNum := Number.tenTo k.toNat
  let unitDen := Number.tenTo (-k).toNat
  let below := i.value * unitDen / (i.den * unitNum)
  let inside (c : Nat) := i.holds (c * unitNum) unitDen
  let (twice, middle) := (2 * (i.value * unitDen), (2 * below + 1) * (i.den * unitNum))
  let lowerNear := twice < middle || (twice = middle && below % 2 = 0)
  match inside below, inside (below + 1) with
  | true, true => some (if lowerNear then below else below + 1)
  | true, false => some below
  | false, true => some (below + 1)
  | false, false => none

/-- Tries `count` digit counts in order, each on the grid one power of ten finer. -/
def search (i : Interval) : Nat → Int → Decimal
  | 0, k => ⟨i.value * Number.tenTo (-k).toNat / (i.den * Number.tenTo k.toNat), k⟩
  | count + 1, k =>
    match onGrid i k with
    | some c => ⟨c, k⟩
    | none => search i count (k - 1)

/-- Moves the zeros at the end of the digits into the exponent. -/
def trim (fuel : Nat) (d : Decimal) : Decimal :=
  match fuel with
  | 0 => d
  | fuel + 1 =>
    if d.digits ≠ 0 ∧ d.digits % 10 = 0 then trim fuel ⟨d.digits / 10, d.exponent + 1⟩ else d

/-- The shortest decimal that reads back as `m · 2 ^ q`; seventeen digits always suffice. -/
def shortest (m : Nat) (q : Int) : Decimal :=
  let i := Interval.around m q
  trim 20 (search i 17 (leadingPower i.value i.den))

/-- What a format decides about the text of a number: the exponents of the leading digit
that are written positionally, what ends a positional whole number, and whether a
significand before an exponent always shows a fraction. -/
structure Layout where
  positionalFrom : Int
  positionalBelow : Int
  wholeEnding : String
  loneDigitEnding : String
  infinity : String
  notANumber : String

def zeros (n : Nat) : String := String.ofList (List.replicate n '0')

/-- The exponent with a sign and at least two digits. -/
def exponentText (e : Int) : String :=
  let digits := toString e.natAbs
  (if e < 0 then "-" else "+") ++ (if e.natAbs < 10 then "0" ++ digits else digits)

/-- The digits of a positive decimal, positionally or with an exponent. -/
def Layout.writeDigits (l : Layout) (d : Decimal) : String :=
  let digits := toString d.digits
  let count : Int := digits.length
  let leading := count + d.exponent - 1
  if l.positionalFrom ≤ leading ∧ leading < l.positionalBelow then
    if 0 ≤ d.exponent then digits ++ zeros d.exponent.toNat ++ l.wholeEnding
    else
      let point := count + d.exponent
      if point ≤ 0 then "0." ++ zeros (-point).toNat ++ digits
      else
        String.ofList (digits.toList.take point.toNat) ++ "." ++
          String.ofList (digits.toList.drop point.toNat)
  else
    let fraction := digits.toList.drop 1
    let significand :=
      if fraction.isEmpty then digits ++ l.loneDigitEnding
      else String.ofList (digits.toList.take 1) ++ "." ++ String.ofList fraction
    significand ++ "e" ++ exponentText leading

/-- The text of a number; a zero keeps its sign. -/
def Layout.write (l : Layout) : Binary64 → String
  | .finite negative m q =>
    let magnitude := if m = 0 then "0" ++ l.wholeEnding else l.writeDigits (shortest m q)
    if negative then "-" ++ magnitude else magnitude
  | .infinite negative => if negative then "-" ++ l.infinity else l.infinity
  | .nan => l.notANumber

end Decimal

end Bindery
