import Bindery.Number.Power

/-!
# Binary floating point as exact numbers

A `Binary64` is a double-precision number in the form the standard describes it: a sign,
a whole significand and a power of two, or an infinity, or not-a-number. Values enter
through `ofRatio`, which rounds an exact quotient to the nearest representable number
(a half goes to the even significand), so every number here is built from natural-number
arithmetic alone. Sums and products go the same way: form the exact result, round once.
-/

namespace Bindery

/-- A double-precision number. `finite n m q` is `± m · 2 ^ q`, negative when `n` holds;
values built by `Binary64.ofRatio` are normalised, so equal ones have equal fields. -/
inductive Binary64 where
  | finite (negative : Bool) (significand : Nat) (exponent : Int)
  | infinite (negative : Bool)
  | nan
  deriving DecidableEq, Repr, Inhabited

namespace Binary64

/-- The least power of two a finite number is a multiple of. -/
def minExponent : Int := -1074

/-- The greatest exponent of a full 53-bit significand. -/
def maxExponent : Int := 971

def zero (negative : Bool) : Binary64 := .finite negative 0 minExponent

/-- The quotient rounded to the nearest whole number, a half to the even one. -/
def roundQuotient (num den : Nat) : Nat :=
  let whole := num / den
  let twice := 2 * (num % den)
  if twice < den then whole
  else if den < twice then whole + 1
  else if whole % 2 = 0 then whole else whole + 1

/-- `num / den` divided by `2 ^ e`, as a numerator and a denominator. -/
def scaleDown (num den : Nat) (e : Int) : Nat × Nat :=
  if e < 0 then (num * Number.twoTo (-e).toNat, den) else (num, den * Number.twoTo e.toNat)

/-- The exponent at which the quotient `num / den` has a significand of 53 bits, not below
`minExponent`. The two logarithms bound the quotient within a factor of two, so one
comparison settles the exponent. -/
def exponentOf (num den : Nat) : Int :=
  let e : Int := (num.log2 : Int) - (den.log2 : Int) - 53
  let start := max e minExponent
  let (n, d) := scaleDown num den start
  if n / d < Number.twoTo 53 then start else start + 1

/-- A significand of `2 ^ 53` moves to the next exponent; one past the last exponent is an
infinity. -/
def ofSignificand (negative : Bool) (m : Nat) (q : Int) : Binary64 :=
  let (m, q) := if m = Number.twoTo 53 then (Number.twoTo 52, q + 1) else (m, q)
  if maxExponent < q then .infinite negative else .finite negative m q

/-- The nearest number to `± num / den`. -/
def ofRatio (negative : Bool) (num den : Nat) : Binary64 :=
  if num = 0 then zero negative
  else
    let q := exponentOf num den
    let (n, d) := scaleDown num den q
    ofSignificand negative (roundQuotient n d) q

/-- The number of decimal digits of a natural number, at least one. -/
def decimalLength (n : Nat) : Nat := (Nat.toDigits 10 n).length

/-- The nearest number to `± digits · 10 ^ exponent`. Far outside the representable range the
answer is known from the magnitude alone, and no large power is computed. -/
def ofDecimal (negative : Bool) (digits : Nat) (exponent : Int) : Binary64 :=
  if digits = 0 then zero negative
  else
    let magnitude : Int := (decimalLength digits : Int) + exponent
    if 400 < magnitude then .infinite negative
    else if magnitude < -400 then zero negative
    else if exponent < 0 then ofRatio negative digits (Number.tenTo (-exponent).toNat)
    else ofRatio negative (digits * Number.tenTo exponent.toNat) 1

def ofInt (n : Int) : Binary64 := ofRatio (n < 0) n.natAbs 1

def negate : Binary64 → Binary64
  | .finite n m q => .finite (!n) m q
  | .infinite n => .infinite (!n)
  | .nan => .nan

def isZero : Binary64 → Bool
  | .finite _ m _ => m == 0
  | _ => false

/-- The numerator and denominator of `m · 2 ^ q`. -/
def ratio (m : Nat) (q : Int) : Nat × Nat :=
  if q < 0 then (m, Number.twoTo (-q).toNat) else (m * Number.twoTo q.toNat, 1)

/-- The product, rounded once. -/
def mul : Binary64 → Binary64 → Binary64
  | .finite a m q, .finite b n r =>
    let (num, den) := ratio (m * n) (q + r)
    ofRatio (a != b) num den
  | .nan, _ => .nan
  | _, .nan => .nan
  | .infinite a, .infinite b => .infinite (a != b)
  | .infinite a, .finite b n _ => if n = 0 then .nan else .infinite (a != b)
  | .finite a m _, .infinite b => if m = 0 then .nan else .infinite (a != b)

/-- The sum, rounded once; an exact zero is negative only when both terms are. -/
def add : Binary64 → Binary64 → Binary64
  | .finite a m q, .finite b n r =>
    let e := min q r
    let signed (negative : Bool) (s : Nat) (x : Int) : Int :=
      let whole : Int := (s * Number.twoTo (x - e).toNat : Nat)
      if negative then -whole else whole
    let sum := signed a m q + signed b n r
    if sum = 0 then zero (a && b)
    else
      let (num, den) := ratio sum.natAbs e
      ofRatio (sum < 0) num den
  | .nan, _ => .nan
  | _, .nan => .nan
  | .infinite a, .infinite b => if a = b then .infinite a else .nan
  | .infinite a, .finite _ _ _ => .infinite a
  | .finite _ _ _, .infinite b => .infinite b

/-- Numeric equality: both zeros are equal, and not-a-number equals nothing. -/
def same : Binary64 → Binary64 → Bool
  | .finite a m q, .finite b n r => (m == 0 && n == 0) || (a == b && m == n && q == r)
  | .infinite a, .infinite b => a == b
  | _, _ => false

/-- Equality with a whole number, exact at every size. -/
def sameInt : Binary64 → Int → Bool
  | .finite negative m q, k =>
    let (num, den) := ratio m q
    num == k.natAbs * den && (num == 0 || negative == decide (k < 0))
  | _, _ => false

end Binary64

end Bindery
