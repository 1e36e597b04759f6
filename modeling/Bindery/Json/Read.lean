import Bindery.Fault
import Bindery.Number.Read
import Bindery.Stack
import Bindery.Value.Basic

/-!
# Reading JSON

A text is one value between blanks. Besides the standard's values the words for not-a-number
and the infinities are accepted, and of several entries under one key the last one counts. An
escape in a string may write a surrogate; two that are a pair write one character. A text that is
no value is refused with what was expected and where (`JsonError`).
-/

namespace Bindery

/-- What a text lacks to be JSON. -/
inductive JsonProblem where
  | value
  | comma
  | colon
  | propertyName
  | extraData
  | unterminated
  | control
  | escape
  | unicodeEscape
  | byteOrderMark
  deriving DecidableEq, Repr

def JsonProblem.wording : JsonProblem → String
  | .value => "Expecting value"
  | .comma => "Expecting ',' delimiter"
  | .colon => "Expecting ':' delimiter"
  | .propertyName => "Expecting property name enclosed in double quotes"
  | .extraData => "Extra data"
  | .unterminated => "Unterminated string starting at"
  | .control => "Invalid control character at"
  | .escape => "Invalid \\escape"
  | .unicodeEscape => "Invalid \\uXXXX escape"
  | .byteOrderMark => "Unexpected UTF-8 BOM (decode using utf-8-sig)"

/-- A problem at a place: lines and columns count from one, characters from zero. -/
structure JsonError where
  problem : JsonProblem
  line : Nat
  column : Nat
  index : Nat
  deriving DecidableEq, Repr

def JsonError.message (e : JsonError) : String :=
  e.problem.wording ++ ": line " ++ toString e.line ++ " column " ++ toString e.column ++
    " (char " ++ toString e.index ++ ")"

namespace Json

/-- Why reading stopped: a problem where that many characters were left, or something else that
cannot be read, a number or one list too many around another. -/
inductive Stop where
  | problem (p : JsonProblem) (left : Nat)
  | fault (f : Fault)

abbrev Result (α : Type) := Except Stop α

def isBlank (c : Char) : Bool := c == ' ' || c == '\t' || c == '\n' || c == '\r'

def skipBlanks (s : List Char) : List Char := s.dropWhile isBlank

/-- Stops at a place, given by the text from there on. -/
def stop {α : Type} (p : JsonProblem) (s : List Char) : Result α := .error (.problem p s.length)

def escapeLetter? : Char → Option Char
  | '"' => some '"'
  | '\\' => some '\\'
  | '/' => some '/'
  | 'b' => some '\x08'
  | 'f' => some '\x0c'
  | 'n' => some '\n'
  | 'r' => some '\r'
  | 't' => some '\t'
  | _ => none

def isHexDigit (c : Char) : Bool := c.isDigit || ('a' ≤ c && c ≤ 'f') || ('A' ≤ c && c ≤ 'F')

/-- The number that four hexadecimal digits at the start write, when something follows them. -/
def fourHex? (s : List Char) : Option Nat :=
  let digits := s.take 4
  if digits.length = 4 && digits.all isHexDigit && 4 < s.length then Number.natural? 16 digits
  else none

/-- The surrogates that open a pair. -/
def opensPair (n : Nat) : Bool := 0xD800 ≤ n && n < 0xDC00

/-- The surrogates that close a pair. -/
def closesPair (n : Nat) : Bool := 0xDC00 ≤ n && n < 0xE000

/-- The character of two surrogates that are a pair. -/
def paired (high low : Nat) : CodePoint :=
  .ofNat (0x10000 + (high - 0xD800) * 0x400 + (low - 0xDC00))

/-- The code point that an escape by number writes, and the rest behind it; `s` is what follows
the `u`, and `at'` the text from the `u` on. -/
def codePoint (at' s : List Char) : Result (CodePoint × List Char) :=
  match fourHex? s with
  | none => stop .unicodeEscape at'
  | some n =>
    let rest := s.drop 4
    let single := (CodePoint.ofNat n, rest)
    match opensPair n, rest with
    | true, '\\' :: 'u' :: more =>
      if more.length ≤ 4 then .ok single
      else
        match fourHex? more with
        | none => stop .unicodeEscape ('u' :: more)
        | some low =>
          if closesPair low then .ok (paired n low, more.drop 4) else .ok single
    | _, _ => .ok single

/-- Whether a character of a string stands for itself. -/
def isOrdinary (c : Char) : Bool := c != '"' && c != '\\' && 32 ≤ c.toNat

/-- The code point that an escape writes, and the rest behind it; `s` is what follows the
backslash. `opening` is the text from the string's opening quote on. -/
def escaped (opening s : List Char) : Result (CodePoint × List Char) :=
  match s with
  | [] => stop .unterminated opening
  | 'u' :: more => codePoint s more
  | letter :: more =>
    match escapeLetter? letter with
    | none => stop .escape ('\\' :: s)
    | some x => .ok (x, more)

/-- The text of a string up to its closing quote. `opening` is the text from the opening
quote on; `fuel` bounds the escapes. -/
def content (opening : List Char) : Nat → List Char → Result (Text × List Char)
  | 0, _ => stop .unterminated opening
  | fuel + 1, s => do
    let plain := s.takeWhile isOrdinary
    match s.dropWhile isOrdinary with
    | [] => stop .unterminated opening
    | '"' :: rest => return (Text.ofChars plain, rest)
    | '\\' :: rest =>
      let (x, rest) ← escaped opening rest
      let (more, rest) ← content opening fuel rest
      return (Text.ofChars plain ++ x :: more, rest)
    | rest => stop .control rest

/-- The string whose opening quote is the first character. -/
def string (s : List Char) : Result (Text × List Char) := content s (s.length + 1) (s.drop 1)

/-- The digits before the point: no zero in front of others. -/
def wholePart? (s : List Char) : Option (List Char × List Char) :=
  match s with
  | '0' :: rest => some (['0'], rest)
  | c :: _ => if c.isDigit then some (s.takeWhile Char.isDigit, s.dropWhile Char.isDigit) else none
  | [] => none

/-- The digits behind a point, if there are any. -/
def fractionPart? : List Char → Option (List Char × List Char)
  | '.' :: rest =>
    let ds := rest.takeWhile Char.isDigit
    if ds.isEmpty then none else some (ds, rest.dropWhile Char.isDigit)
  | _ => none

/-- The exponent, if there is one. -/
def exponentPart? : List Char → Option (Int × List Char)
  | c :: rest =>
    if c = 'e' ∨ c = 'E' then
      let (negative, body) := Number.signed rest
      (Number.natural? 10 (body.takeWhile Char.isDigit)).map fun n =>
        (if negative then -(n : Int) else n, body.dropWhile Char.isDigit)
    else none
  | [] => none

/-- The number at the start. -/
def number (s : List Char) : Result (Scalar × List Char) :=
  let (negative, body) := match s with
    | '-' :: rest => (true, rest)
    | _ => (false, s)
  match wholePart? body with
  | none => stop .value s
  | some (whole, rest) =>
    let fraction := fractionPart? rest
    let rest := (fraction.map (·.2)).getD rest
    let exponent := exponentPart? rest
    if fraction.isSome || exponent.isSome then
      .ok (.float (Number.ofParts negative whole ((fraction.map (·.1)).getD [])
        ((exponent.map (·.1)).getD 0)), (exponent.map (·.2)).getD rest)
    else if Number.longestInteger < whole.length then
      .error (.fault (.unconvertible (.integerLength whole.length)))
    else
      let n : Int := ((Number.natural? 10 whole).getD 0 : Nat)
      .ok (.int (if negative then -n else n), rest)

/-- The words that stand for values. -/
def words : List (String × Scalar) := [
  ("null", .null), ("true", .bool true), ("false", .bool false), ("NaN", .float .nan),
  ("Infinity", .float (.infinite false)), ("-Infinity", .float (.infinite true))]

def word? (s : List Char) : Option (Scalar × List Char) :=
  words.findSome? fun w =>
    if w.1.toList.isPrefixOf s then some (w.2, s.drop w.1.length) else none

/-- How many lists and objects may stand inside one another. -/
def deepest [Stack] : Nat := Stack.json

mutual

/-- The value at the start, inside of so many others; `fuel` bounds the calls. -/
def value [Stack] (depth : Nat) : Nat → List Char → Result (Value × List Char)
  | 0, s => stop .value s
  | fuel + 1, s =>
    match s with
    | [] => stop .value []
    | '"' :: _ => (string s).map fun (t, rest) => (.text t, rest)
    | '\x7b' :: rest =>
      if deepest ≤ depth then .error (.fault .tooDeep)
      else
        match skipBlanks rest with
        | '\x7d' :: rest => .ok (.table none [], rest)
        | rest =>
          (entries (depth + 1) fuel rest).map fun (es, rest) =>
            (.table none (Assoc.ofPairs es), rest)
    | '[' :: rest =>
      if deepest ≤ depth then .error (.fault .tooDeep)
      else
        match skipBlanks rest with
        | ']' :: rest => .ok (.list none [], rest)
        | rest => (items (depth + 1) fuel rest).map fun (vs, rest) => (.list none vs, rest)
    | _ =>
      match word? s with
      | some (w, rest) => .ok (.scalar w, rest)
      | none => (number s).map fun (n, rest) => (.scalar n, rest)

/-- Items up to the end of their list, at least one. -/
def items [Stack] (depth : Nat) : Nat → List Char → Result (List Value × List Char)
  | 0, s => stop .value s
  | fuel + 1, s => do
    let (v, rest) ← value depth fuel s
    match skipBlanks rest with
    | ']' :: rest => return ([v], rest)
    | ',' :: rest =>
      let (vs, rest) ← items depth fuel (skipBlanks rest)
      return (v :: vs, rest)
    | rest => stop .comma rest

/-- Entries up to the end of their object, at least one. -/
def entries [Stack] (depth : Nat) : Nat → List Char → Result (Table × List Char)
  | 0, s => stop .value s
  | fuel + 1, s =>
    match s with
    | '"' :: _ => do
      let (k, rest) ← string s
      match skipBlanks rest with
      | ':' :: rest =>
        let (v, rest) ← value depth fuel (skipBlanks rest)
        match skipBlanks rest with
        | '\x7d' :: rest => return ([(.text k, v)], rest)
        | ',' :: rest =>
          let (es, rest) ← entries depth fuel (skipBlanks rest)
          return ((.text k, v) :: es, rest)
        | rest => stop .comma rest
      | rest => stop .colon rest
    | _ => stop .propertyName s

end

/-- Enough calls to read a text: an opening bracket takes two, an item or entry no more than its
characters. -/
def enoughCalls (s : List Char) : Nat := 2 * s.length + 2

/-- The place where so many characters of a text are left. -/
def errorAt (text : List Char) (problem : JsonProblem) (left : Nat) : JsonError :=
  let before := text.take (text.length - left)
  { problem
    line := before.count '\n' + 1
    column := (before.reverse.takeWhile (· != '\n')).length + 1
    index := before.length }

/-- The one value of a text. -/
def whole [Stack] (s : List Char) : Result Value := do
  if s.head? = some '\uFEFF' then stop .byteOrderMark s
  else
    let (v, rest) ← value 0 (enoughCalls s) (skipBlanks s)
    match skipBlanks rest with
    | [] => return v
    | rest => stop .extraData rest

/-- The value that a text writes, or why it writes none. -/
def read [Stack] (s : String) : Except (JsonError ⊕ Fault) Value :=
  match whole s.toList with
  | .ok v => .ok v
  | .error (.problem p left) => .error (.inl (errorAt s.toList p left))
  | .error (.fault f) => .error (.inr f)

end Json

end Bindery
