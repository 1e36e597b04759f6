import Bindery.Number.Fixed
import Bindery.Value.Text

/-!
# Message patterns

A message may be a pattern with places for arguments. A place is a percent sign, how wide and
exact the argument is to be written, and a letter that says as what: `%s` as it is shown, `%r` as
a literal, `%5d` as a whole number at least five characters wide. Two percent signs are one that
is meant. A pattern is first cut into pieces (`Piece.ofPattern?`), and then the places are filled
one after another (`fill`). Arguments come in a row, or as a table whose entries places call by
their keys, `%(name)s`. A place without a fitting argument and an argument without a place spoil
the message.
-/

namespace Bindery.Log

/-- A width or a count of digits: none, a number, or the next argument. -/
inductive Extent where
  | none
  | fixed (n : Nat)
  | given
  deriving DecidableEq, Repr

/-- A place for an argument. -/
structure Place where
  /-- The key of the argument in a table. -/
  key : Option Text
  /-- The characters that change how the argument is written, in any order. -/
  flags : List Char
  width : Extent
  exactness : Extent
  letter : Char
  deriving DecidableEq, Repr

inductive Piece where
  | plain (c : CodePoint)
  | place (p : Place)
  deriving DecidableEq, Repr

/-! ## The pieces of a pattern -/

/-- A key up to the parenthesis that closes it, and what follows; `depth` more are open inside. -/
def keyAndRest? (depth : Nat) : Text → Option (Text × Text)
  | [] => none
  | .char ')' :: rest =>
    match depth with
    | 0 => some ([], rest)
    | depth + 1 => (keyAndRest? depth rest).map fun (key, rest) => (.char ')' :: key, rest)
  | .char '(' :: rest =>
    (keyAndRest? (depth + 1) rest).map fun (key, rest) => (.char '(' :: key, rest)
  | c :: rest => (keyAndRest? depth rest).map fun (key, rest) => (c :: key, rest)

/-- The greatest extent. -/
def greatestExtent : Nat := 0x7FFFFFFF

/-- The ASCII digits at the start of a text. -/
def leadingDigits (s : Text) : List Char :=
  Text.characters (s.takeWhile (·.is Char.isDigit))

/-- The number of digits, zero for none. -/
def numberOf (digits : List Char) : Nat := (Number.natural? 10 digits).getD 0

/-- An extent and what follows it; nothing where a number is too great. -/
def extent? : Text → Option (Extent × Text)
  | .char '*' :: rest => some (.given, rest)
  | s =>
    let digits := leadingDigits s
    if digits.isEmpty then some (.none, s)
    else if greatestExtent < numberOf digits then none
    else some (.fixed (numberOf digits), s.drop digits.length)

/-- An extent behind a point, and what follows; a point alone means zero. -/
def exactness? : Text → Option (Extent × Text)
  | .char '.' :: rest =>
    match extent? rest with
    | some (.none, rest) => some (.fixed 0, rest)
    | found => found
  | s => some (.none, s)

def isFlag (c : Char) : Bool := "-+ #0".toList.contains c

/-- The letters for the size of a number, which have no meaning. -/
def isSizeLetter (c : Char) : Bool := c == 'h' || c == 'l' || c == 'L'

/-- A place behind its percent sign, and what follows it. -/
def place? (s : Text) : Option (Place × Text) := do
  let (key, s) ← match s with
    | .char '(' :: rest => (keyAndRest? 0 rest).map fun (key, rest) => (some key, rest)
    | s => some (none, s)
  let flags := Text.characters (s.takeWhile (·.is isFlag))
  let (width, s) ← extent? (s.drop flags.length)
  let (exactness, s) ← exactness? s
  let s := match s with
    | c :: rest => if c.is isSizeLetter then rest else c :: rest
    | [] => []
  match s with
  | .char letter :: rest => some (⟨key, flags, width, exactness, letter⟩, rest)
  | _ => none

/-- The pieces of a pattern; two percent signs are one. `fuel` bounds how many there are. -/
def piecesOf? : Nat → Text → Option (List Piece)
  | _, [] => some []
  | 0, _ :: _ => none
  | fuel + 1, .char '%' :: .char '%' :: rest => (piecesOf? fuel rest).map (.plain '%' :: ·)
  | fuel + 1, .char '%' :: rest => do
    let (p, rest) ← place? rest
    return .place p :: (← piecesOf? fuel rest)
  | fuel + 1, c :: rest => (piecesOf? fuel rest).map (.plain c :: ·)

def Piece.ofPattern? (pattern : Text) : Option (List Piece) :=
  piecesOf? pattern.length pattern

/-! ## Arguments -/

/-- The arguments that are left: a row of values, or a table with the value that a place takes
next. -/
inductive Arguments where
  | row (values : List Value)
  | table (entries : Table) (next : Option Value)

namespace Arguments

/-- Arguments as they are given: a single table with entries is gone through by its keys, and
counts as a value once. -/
def ofValues : List Value → Arguments
  | [.table mark (e :: entries)] =>
    .table (e :: entries) (some (.table mark (e :: entries)))
  | values => .row values

/-- The next argument, and those after it. -/
def next? : Arguments → Option (Value × Arguments)
  | .row (v :: rest) => some (v, .row rest)
  | .table entries (some v) => some (v, .table entries none)
  | _ => none

/-- The arguments with the one of a key the next. -/
def at? (key : Text) : Arguments → Option Arguments
  | .table entries _ => (entries.get? key).map fun v => .table entries (some v)
  | .row _ => none

/-- Whether no argument of a row is left over. -/
def isDone : Arguments → Bool
  | .row values => values.isEmpty
  | .table _ _ => true

/-- An extent as a number, taken from the arguments where it is given there. -/
def extent? (e : Extent) (args : Arguments) : Option (Option Int × Arguments) :=
  match e with
  | .none => some (none, args)
  | .fixed n => some (some n, args)
  | .given => do
    let (v, args) ← args.next?
    let n ← v.scalar?.bind Scalar.int?
    if greatestExtent < n.natAbs then none else some (some n, args)

end Arguments

/-! ## Filling places -/

/-- How wide an argument is to be written, and how exactly. -/
structure Layout where
  plus : Bool
  blank : Bool
  alternate : Bool
  zeros : Bool
  left : Bool
  width : Nat
  exactness : Option Nat

/-- The layout of a place; a width below zero puts the argument on the left. -/
def Layout.ofPlace (p : Place) (width exactness : Option Int) : Layout where
  plus := p.flags.contains '+'
  blank := p.flags.contains ' '
  alternate := p.flags.contains '#'
  zeros := p.flags.contains '0'
  left := p.flags.contains '-' || width.any (· < 0)
  width := (width.map Int.natAbs).getD 0
  exactness := exactness.map Int.toNat

namespace Layout

/-- The characters that fill up a text to the width. -/
def filler (l : Layout) (c : Char) (length : Nat) : Text := List.replicate (l.width - length) c

/-- A text among spaces. -/
def text (l : Layout) (s : Text) : Text :=
  if l.left then s ++ l.filler ' ' s.length else l.filler ' ' s.length ++ s

/-- A text cut to its length. -/
def cutText (l : Layout) (s : Text) : Text :=
  l.text ((l.exactness.map fun n => s.take n).getD s)

/-- A number by its sign, the mark of its base and its digits; zeros go before the digits. -/
def number (l : Layout) (negative : Bool) (mark digits : List Char) : Text :=
  let sign : List Char :=
    if negative then ['-'] else if l.plus then ['+'] else if l.blank then [' '] else []
  let length := sign.length + mark.length + digits.length
  if l.zeros && !l.left then
    Text.ofChars (sign ++ mark) ++ l.filler '0' length ++ Text.ofChars digits
  else l.text (Text.ofChars (sign ++ mark ++ digits))

/-- The digits of a whole number in a base, at least as many as are asked for. -/
def digits (l : Layout) (base : Nat) (n : Nat) : List Char :=
  let digits := Nat.toDigits base n
  List.replicate (l.exactness.getD 0 - digits.length) '0' ++ digits

/-- The digits as they are, or in capitals. -/
def cased (capital : Bool) (digits : List Char) : List Char :=
  if capital then digits.map Char.toUpper else digits

/-- A whole number in a base, behind the mark of the base if it is to be shown. -/
def whole (l : Layout) (base : Nat) (mark : Char) (capital : Bool) (n : Int) : Text :=
  let mark := if l.alternate && base != 10 then ['0', mark] else []
  l.number (n < 0) (cased capital mark) (cased capital (l.digits base n.natAbs))

/-- The digits after the point when no count is given. -/
def usualExactness : Nat := 6

/-- A number with a fraction. -/
def fractional (l : Layout) (form : Decimal.Form) (capital : Bool) (x : Binary64) : Text :=
  let negative := match x with
    | .finite n _ _ | .infinite n => n
    | .nan => false
  let digits := form.write l.alternate (l.exactness.getD usualExactness) x
  l.number negative [] (cased capital digits)

end Layout

/-- The whole number that a value is or, without its fraction, comes to. -/
def wholeOf (v : Value) : Option Int :=
  match v.scalar? with
  | some (.float (.finite negative m q)) =>
    let (num, den) := Binary64.ratio m q
    let n : Int := (num / den : Nat)
    some (if negative then -n else n)
  | some s => s.int?
  | none => none

/-- A value as a floating-point number; one past all of them is none. -/
def fractionalOf (v : Value) : Option Binary64 :=
  match v.scalar? with
  | some (.float x) => some x
  | some s =>
    match s.int?.map Binary64.ofInt with
    | some (.infinite _) => none
    | found => found
  | none => none

/-- The code point that a value is or has the number of. -/
def codePointOf (v : Value) : Option CodePoint :=
  match v with
  | .text [c] => some c
  | .text _ => none
  | v =>
    match v.scalar?.bind Scalar.int? with
    | some n => if 0 ≤ n && n < 0x110000 then some (.ofNat n.toNat) else none
    | none => none

/-- A value in a layout, as what a letter asks for. -/
def written? (l : Layout) (letter : Char) (v : Value) : Option Text :=
  let cut (s : Except Fault Text) := s.toOption.map l.cutText
  let fractional (form : Decimal.Form) (capital : Bool) :=
    (fractionalOf v).map (l.fractional form capital)
  let exactWhole := v.scalar?.bind Scalar.int?
  match letter with
  | 's' => cut v.shown
  | 'r' => cut v.literal
  | 'a' => cut (Text.asciiOnly <$> v.literal)
  | 'd' | 'i' | 'u' =>
    (wholeOf v).bind fun n =>
      if leastTextless ≤ n.natAbs then none else some (l.whole 10 ' ' false n)
  | 'o' => exactWhole.map (l.whole 8 'o' false)
  | 'x' => exactWhole.map (l.whole 16 'x' false)
  | 'X' => exactWhole.map (l.whole 16 'x' true)
  | 'c' => (codePointOf v).map fun c => l.text [c]
  | 'f' => fractional .places false
  | 'F' => fractional .places true
  | 'e' => fractional .exponent false
  | 'E' => fractional .exponent true
  | 'g' => fractional .general false
  | 'G' => fractional .general true
  | _ => none

/-- A place filled with its argument, and the arguments after it. -/
def filled? (p : Place) (args : Arguments) : Option (Text × Arguments) := do
  let args ← match p.key with
    | some key => args.at? key
    | none => some args
  let (width, args) ← args.extent? p.width
  let (exactness, args) ← args.extent? p.exactness
  let (v, args) ← args.next?
  return (← written? (.ofPlace p width exactness) p.letter v, args)

/-- The pieces with all places filled. -/
def fill : List Piece → Arguments → Option Text
  | [], args => if args.isDone then some [] else none
  | .plain c :: rest, args => (fill rest args).map (c :: ·)
  | .place p :: rest, args => do
    let (text, args) ← filled? p args
    return text ++ (← fill rest args)

/-- The text of a message with arguments; without any it is taken as it stands. -/
def message? (pattern : Text) (args : List Value) : Option Text :=
  if args.isEmpty then some pattern
  else do
    let pieces ← Piece.ofPattern? pattern
    fill pieces (.ofValues args)

end Bindery.Log
