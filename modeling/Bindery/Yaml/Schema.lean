import Bindery.Calendar
import Bindery.Number.Read
import Bindery.ReadProblem
import Bindery.Text.Case
import Bindery.Value.Basic

/-!
# The types of YAML scalars

A plain scalar has the type whose form its text has (`resolve`): YAML 1.1, with `yes` and `on`
for truth values, octal numbers behind a zero, and numbers in base sixty. A scalar of a type
is then read as a value of it (`convert`), which may fail when the type was written out.
-/

namespace Bindery.Yaml

/-- The types that values have. -/
inductive TypeTag where
  | null | bool | int | float | binary | timestamp | omap | pairs | set | str | seq | map
  /-- The key that merges other mappings into its own. -/
  | merge
  /-- The key whose value stands for its whole mapping. -/
  | value
  /-- A type without values here. -/
  | unknown
  deriving DecidableEq, Repr, Inhabited

/-- What the short form of a standard type stands for. -/
def standardTag : String := "tag:yaml.org,2002:"

/-- The names of the standard types. -/
def typeNames : List (String × TypeTag) := [
  ("null", .null), ("bool", .bool), ("int", .int), ("float", .float), ("binary", .binary),
  ("timestamp", .timestamp), ("omap", .omap), ("pairs", .pairs), ("set", .set), ("str", .str),
  ("seq", .seq), ("map", .map), ("merge", .merge), ("value", .value)]

/-- The type that a full tag names. -/
def typeOfTag (tag : String) : TypeTag :=
  match typeNames.find? fun k => standardTag ++ k.1 == tag with
  | some k => k.2
  | none => .unknown

/-! ## Forms of texts -/

def allOf (p : Char → Bool) (s : List Char) : Bool := !s.isEmpty && s.all p

def isDigitOrLow (c : Char) : Bool := c.isDigit || c == '_'

def isSign (c : Char) : Bool := c == '-' || c == '+'

/-- The text without a sign at its start. -/
def unsigned : List Char → List Char
  | c :: rest => if isSign c then rest else c :: rest
  | [] => []

/-- The text without one line feed at its end. -/
def withoutLineEnd (s : List Char) : List Char :=
  if s.getLast? = some '\n' then s.dropLast else s

/-- A part of a number in base sixty: one digit, or two of which the first is below six. -/
def isSixtieth : List Char → Bool
  | [a] => a.isDigit
  | [a, b] => '0' ≤ a && a ≤ '5' && b.isDigit
  | _ => false

/-- Parts in base sixty, each behind a colon, at least one. -/
def isSixtieths (s : List Char) : Bool :=
  match Text.splitWhere (· == ':') s with
  | [] :: part :: parts => (part :: parts).all isSixtieth
  | _ => false

def isHexOrLow (c : Char) : Bool :=
  c.isDigit || ('a' ≤ c && c ≤ 'f') || ('A' ≤ c && c ≤ 'F') || c == '_'

/-- The form of a whole number. -/
def isInt (s : List Char) : Bool :=
  match unsigned s with
  | '0' :: 'b' :: rest => allOf (fun c => c == '0' || c == '1' || c == '_') rest
  | '0' :: 'x' :: rest => allOf isHexOrLow rest
  | ['0'] => true
  | '0' :: rest => rest.all fun c => ('0' ≤ c && c ≤ '7') || c == '_'
  | c :: rest =>
    c.isDigit && (rest.all isDigitOrLow ||
      isSixtieths (rest.dropWhile isDigitOrLow))
  | [] => false

/-- An exponent with its sign, or nothing. -/
def isExponentOrEmpty : List Char → Bool
  | [] => true
  | e :: sign :: rest => (e == 'e' || e == 'E') && isSign sign && allOf Char.isDigit rest
  | _ => false

/-- The form of a number with a fraction. -/
def isFloat (s : List Char) : Bool :=
  let body := unsigned s
  match body with
  | '.' :: rest =>
    ["inf", "Inf", "INF"].contains (String.ofList rest) ||
      (body.length = s.length && (["nan", "NaN", "NAN"].contains (String.ofList rest) ||
        (rest.head?.any Char.isDigit && isExponentOrEmpty (rest.dropWhile isDigitOrLow))))
  | c :: rest =>
    c.isDigit &&
      (match rest.dropWhile isDigitOrLow with
       | '.' :: rest => isExponentOrEmpty (rest.dropWhile isDigitOrLow)
       | ':' :: rest =>
         let parts := rest.takeWhile (· != '.')
         isSixtieths (':' :: parts) &&
           (match rest.dropWhile (· != '.') with
            | '.' :: fraction => fraction.all isDigitOrLow
            | _ => false)
       | _ => false)
  | [] => false

/-! ## Moments -/

/-- What a moment's text gives: numbers not checked against the calendar. -/
structure Moment where
  year : Nat
  month : Nat
  day : Nat
  clock : Option (Nat × Nat × Nat × Nat)
  offset : Option Int
  deriving Repr

/-- One or two digits at the start. -/
def oneOrTwoDigits? : List Char → Option (Nat × List Char)
  | a :: b :: rest =>
    if a.isDigit && b.isDigit then some ((a.toNat - 48) * 10 + (b.toNat - 48), rest)
    else if a.isDigit then some (a.toNat - 48, b :: rest)
    else none
  | [a] => if a.isDigit then some (a.toNat - 48, []) else none
  | [] => none

/-- Exactly `n` digits at the start. -/
def digits? (n : Nat) (s : List Char) : Option (Nat × List Char) :=
  let ds := s.take n
  if ds.length = n && ds.all Char.isDigit then
    (Number.natural? 10 ds).map fun k => (k, s.drop n)
  else none

def char? (c : Char) : List Char → Option (List Char)
  | [] => none
  | d :: rest => if c = d then some rest else none

/-- The fraction of a second at the start, in microseconds. -/
def fraction : List Char → Nat × List Char
  | '.' :: rest =>
    let ds := (rest.takeWhile Char.isDigit).take 6
    (((Number.natural? 10 ds).getD 0) * Number.tenTo (6 - ds.length), rest.dropWhile Char.isDigit)
  | s => (0, s)

def isBlankChar (c : Char) : Bool := c == ' ' || c == '\t'

/-- The offset that ends a moment, if there is one. -/
def offset? (s : List Char) : Option (Option Int) :=
  match s.dropWhile isBlankChar with
  | [] => if s.isEmpty then some none else none
  | ['Z'] => some (some 0)
  | c :: rest =>
    if !isSign c then none
    else do
      let (hours, rest) ← oneOrTwoDigits? rest
      let (minutes, rest) ← match rest with
        | [] => some (0, [])
        | _ => do digits? 2 (← char? ':' rest)
      let n : Int := (hours * 60 + minutes : Nat)
      if rest.isEmpty then some (some (if c = '-' then -n else n)) else none

/-- What stands between a date and a time of day. -/
def betweenDateAndTime? : List Char → Option (List Char)
  | c :: rest =>
    if c = 'T' || c = 't' then some rest
    else if isBlankChar c then some (rest.dropWhile isBlankChar)
    else none
  | [] => none

/-- The date, or date with a time of day, that a text writes. -/
def moment? (s : List Char) : Option Moment := do
  let (year, rest) ← digits? 4 (withoutLineEnd s)
  let (month, rest) ← oneOrTwoDigits? (← char? '-' rest)
  let (day, rest) ← oneOrTwoDigits? (← char? '-' rest)
  match rest with
  | [] => some ⟨year, month, day, none, none⟩
  | rest =>
    let (hour, rest) ← oneOrTwoDigits? (← betweenDateAndTime? rest)
    let (minute, rest) ← digits? 2 (← char? ':' rest)
    let (second, rest) ← digits? 2 (← char? ':' rest)
    let (micro, rest) := fraction rest
    some ⟨year, month, day, some (hour, minute, second, micro), ← offset? rest⟩

/-- The form of a moment: a date alone has two digits for month and day. -/
def isTimestamp (s : List Char) : Bool :=
  match moment? s with
  | some m => m.clock.isSome || (withoutLineEnd s).length = 10
  | none => false

/-! ## The type of a plain scalar -/

def boolWords : List String :=
  ["yes", "Yes", "YES", "no", "No", "NO", "true", "True", "TRUE", "false", "False", "FALSE", "on",
    "On", "ON", "off", "Off", "OFF"]

def nullWords : List String := ["~", "null", "Null", "NULL"]

/-- The type that the form of a text gives it. -/
def typeOfForm (s : List Char) : TypeTag :=
  let body := withoutLineEnd s
  let word := String.ofList body
  if s.isEmpty then .null
  else if boolWords.contains word then .bool
  else if isFloat body then .float
  else if isInt body then .int
  else if word == "<<" then .merge
  else if nullWords.contains word then .null
  else if isTimestamp s then .timestamp
  else if word == "=" then .value
  else if ["!", "&", "*"].contains word then .unknown
  else .str

/-- The type of a plain scalar, by its form; a text with a surrogate has none. -/
def resolve (text : Text) : TypeTag := (text.chars?.map typeOfForm).getD .str

/-! ## Values of scalars -/

def unconvertible {α : Type} (reason : Unconvertible) : Except ReadProblem α :=
  .error (.fault (.unconvertible reason))

/-- What a reader of numbers makes of a text. -/
def number {α : Type} (read : Except Unconvertible α) : Except ReadProblem α :=
  match read with
  | .ok a => .ok a
  | .error reason => unconvertible reason

/-- A truth value, in any case. -/
def boolOf (text : Text) : Except ReadProblem Scalar :=
  let word := Text.asciiSmall text
  if ["yes", "true", "on"].any fun w => word == w then .ok (.bool true)
  else if ["no", "false", "off"].any fun w => word == w then .ok (.bool false)
  else .error (.fault .unknownWord)

/-- A text without underscores. -/
def ungrouped (text : Text) : Text := text.filter fun c => c != '_'

/-- The digits of a number with its sign taken off; one that is empty breaks off. -/
def signedDigits : Text → Except ReadProblem (Bool × Text)
  | [] => .error (.fault .outOfText)
  | .char '-' :: rest => .ok (true, rest)
  | .char '+' :: rest => .ok (false, rest)
  | s => .ok (false, s)

def intOf (text : Text) : Except ReadProblem Scalar := do
  let (negative, s) ← signedDigits (ungrouped text)
  let n ← (match s with
    | [] => .error (.fault .outOfText)
    | [.char '0'] => .ok 0
    | .char '0' :: .char 'b' :: rest => number (Number.integer 2 rest)
    | .char '0' :: .char 'x' :: rest => number (Number.integer 16 rest)
    | .char '0' :: _ => number (Number.integer 8 s)
    | _ =>
      if s.contains ':' then do
        let parts ← (Text.pieces ':' s).mapM fun part => number (Number.integer 10 part)
        return parts.foldl (fun n part => n * 60 + part) 0
      else number (Number.integer 10 s) : Except ReadProblem Int)
  return .int (if negative then -n else n)

/-- A number in base sixty of its parts, the last one first. `unit` is what the next part counts;
one that is past all floating-point numbers breaks off. -/
def addSixtieths : List Binary64 → (unit : Nat) → Binary64 → Except ReadProblem Binary64
  | [], _, sum => .ok sum
  | part :: rest, unit, sum =>
    match Binary64.ofInt unit with
    | .infinite _ => .error (.fault .outOfRange)
    | scale => addSixtieths rest (unit * 60) (sum.add (part.mul scale))

/-- The mark of the one value that is written `.nan`. -/
def nanMark : Nat := 0

/-- A floating-point number; `own` is the mark of one that is not a number, unless it is written
with the word for that. -/
def floatOf (own : Nat) (text : Text) : Except ReadProblem Value := do
  let (negative, s) ← signedDigits (Text.smalls (ungrouped text))
  if s == ".nan" then return .marked nanMark (.float .nan)
  let x ← (
    if s == ".inf" then .ok (.infinite false)
    else if s.contains ':' then do
      let parts ← (Text.pieces ':' s).mapM fun part => number (Number.float part)
      addSixtieths parts.reverse 1 (.zero false)
    else number (Number.float s) : Except ReadProblem Binary64)
  return .ofScalar own (.float (if negative then x.negate else x))

def dateProblem : Date.Problem → Unconvertible
  | .year n => .year n
  | .month => .month
  | .day => .day

def timeProblem : Time.Problem → Unconvertible
  | .hour => .hour
  | .minute => .minute
  | .second => .second

def checkedDate (m : Moment) : Except ReadProblem Date :=
  match Date.check m.year m.month m.day with
  | .ok d => .ok d
  | .error p => unconvertible (dateProblem p)

def timestampOf (text : Text) : Except ReadProblem Scalar :=
  match text.chars?.bind moment? with
  | none => .error (.fault .noOperation)
  | some m =>
    match m.clock with
    | none => return .date (← checkedDate m)
    | some (hour, minute, second, micro) => do
      if m.offset.any fun o => 1440 ≤ o.natAbs then unconvertible (.offset (m.offset.getD 0))
      let date ← checkedDate m
      match Time.check hour minute second micro with
      | .ok time => return .dateTime ⟨date, time, m.offset⟩
      | .error p => unconvertible (timeProblem p)

/-! ## Binary data -/

/-- The value of a base-sixty-four digit. -/
def sixBits? (c : Char) : Option Nat :=
  if c.isUpper then some (c.toNat - 65)
  else if c.isLower then some (c.toNat - 71)
  else if c.isDigit then some (c.toNat + 4)
  else if c = '+' then some 62
  else if c = '/' then some 63
  else none

/-- Reads base sixty-four: other characters are skipped, and padding that completes a group of
four ends the data. `count` is the number of digits in the open group, `bits` their value, and
`pads` the padding seen in it. -/
def base64 : List Char → (count bits pads : Nat) → Option (List UInt8)
  | [], count, _, _ => if count = 0 then some [] else none
  | c :: rest, count, bits, pads =>
    if c = '=' then
      if 2 ≤ count && 4 ≤ count + pads + 1 then some []
      else base64 rest count bits (if 2 ≤ count then pads + 1 else pads)
    else
      match sixBits? c with
      | none => base64 rest count bits pads
      | some n =>
        match count with
        | 0 => base64 rest 1 n 0
        | 1 => ((base64 rest 2 (n % 16) 0)).map ((bits * 4 + n / 16).toUInt8 :: ·)
        | 2 => ((base64 rest 3 (n % 4) 0)).map ((bits * 16 + n / 4).toUInt8 :: ·)
        | _ => ((base64 rest 0 0 0)).map ((bits * 64 + n).toUInt8 :: ·)

/-- The ASCII characters that a text consists of, if it does. -/
def ascii? (text : Text) : Option (List Char) :=
  text.chars?.filter fun s => s.all fun c => c.toNat < 128

def binaryOf (text : Text) : Except ReadProblem Scalar :=
  match (ascii? text).bind fun s => base64 s 0 0 0 with
  | some bytes => .ok (.bytes bytes)
  | none => .error .malformed

/-- The value of a scalar of a type, with its own mark where it is told apart; a type that has no
scalars makes it malformed. -/
def convert (own : Nat) (type : TypeTag) (text : Text) : Except ReadProblem Value :=
  match type with
  | .null => .ok .null
  | .bool => .scalar <$> boolOf text
  | .int => .scalar <$> intOf text
  | .float => floatOf own text
  | .binary => .scalar <$> binaryOf text
  | .timestamp => Value.ofScalar own <$> timestampOf text
  | .str => .ok (.text text)
  | _ => .error .malformed

end Bindery.Yaml
