import Bindery.Number.Shortest

/-!
# Numbers with a chosen count of digits

A number can be written with a count of digits after the point, with one digit before the point
and an exponent, or in whichever of the two ways suits its size. It is rounded once, to the
nearest decimal that has the digits, a half to the even one.
-/

namespace Bindery.Decimal

/-- The ways of writing a number with a chosen count of digits. -/
inductive Form where
  /-- The count is that of the digits after the point. -/
  | places
  /-- The count is that of the digits after the point, in front of an exponent. -/
  | exponent
  /-- The count is that of all digits; zeros at the end of a fraction are left out. -/
  | general
  deriving DecidableEq, Repr

/-- The digits of a number, at least `width` of them. -/
def paddedNumber (width n : Nat) : List Char :=
  let digits := Nat.toDigits 10 n
  List.replicate (width - digits.length) '0' ++ digits

/-- A whole part and a fraction; the point stands before a fraction, or always. -/
def joinedAtPoint (keepsPoint : Bool) (whole fraction : List Char) : List Char :=
  if fraction.isEmpty && !keepsPoint then whole else whole ++ '.' :: fraction

/-- The nearest decimal to `num / den` with `count` digits. -/
def significant (num den count : Nat) : Decimal :=
  if num = 0 then ⟨0, 1 - (count : Int)⟩
  else
    let k := leadingPower num den - ((count : Int) - 1)
    let n := Binary64.roundQuotient (num * Number.tenTo (-k).toNat) (den * Number.tenTo k.toNat)
    if n < Number.tenTo count then ⟨n, k⟩ else ⟨n / 10, k + 1⟩

/-- The text without zeros at its end. -/
def withoutZeros (s : List Char) : List Char := (s.reverse.dropWhile (· == '0')).reverse

/-- A fraction as it is written, zeros at its end left out where there is no point to be kept. -/
def shownFraction (keepsPoint : Bool) (fraction : List Char) : List Char :=
  if keepsPoint then fraction else withoutZeros fraction

/-- `num / den` with a count of digits after the point. -/
def withPlaces (keepsPoint : Bool) (count num den : Nat) : List Char :=
  let digits := paddedNumber (count + 1)
    (Binary64.roundQuotient (num * Number.tenTo count) den)
  let whole := digits.length - count
  joinedAtPoint keepsPoint (digits.take whole) (digits.drop whole)

/-- `num / den` with a count of digits after the point and an exponent. -/
def withExponent (keepsPoint : Bool) (count num den : Nat) : List Char :=
  let d := significant num den (count + 1)
  let digits := paddedNumber (count + 1) d.digits
  joinedAtPoint keepsPoint (digits.take 1) (digits.drop 1) ++
    'e' :: (exponentText (d.exponent + count)).toList

/-- `num / den` with a count of digits, with an exponent where the leading digit stands more than
four places behind the point or the digits do not reach up to the point. -/
def withCount (keepsPoint : Bool) (count num den : Nat) : List Char :=
  let d := significant num den count
  let digits := paddedNumber count d.digits
  let power := d.exponent + count - 1
  if power < -4 ∨ (count : Int) ≤ power then
    joinedAtPoint keepsPoint (digits.take 1) (shownFraction keepsPoint (digits.drop 1)) ++
      'e' :: (exponentText power).toList
  else if power < 0 then
    joinedAtPoint keepsPoint ['0']
      (shownFraction keepsPoint (List.replicate (-power - 1).toNat '0' ++ digits))
  else
    joinedAtPoint keepsPoint (digits.take (power.toNat + 1))
      (shownFraction keepsPoint (digits.drop (power.toNat + 1)))

/-- A number without its sign in a form. -/
def Form.write (form : Form) (keepsPoint : Bool) (count : Nat) : Binary64 → List Char
  | .finite _ m q =>
    let (num, den) := Binary64.ratio m q
    match form with
    | .places => withPlaces keepsPoint count num den
    | .exponent => withExponent keepsPoint count num den
    | .general => withCount keepsPoint (max 1 count) num den
  | .infinite _ => "inf".toList
  | .nan => "nan".toList

end Bindery.Decimal
