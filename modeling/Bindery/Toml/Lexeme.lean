import Bindery.Calendar.Read
import Bindery.ReadProblem

/-!
# The words of TOML

Strings in their four forms, keys, numbers, and the blanks and comments between them. Every
reader takes one word off the start of a text and leaves the rest; line ends are single line
feeds.
-/

namespace Bindery.Toml

def malformed {α : Type} : Except ReadProblem α := .error .malformed

def isBlank (c : Char) : Bool := c == ' ' || c == '\t'

def isBlankOrLineEnd (c : Char) : Bool := isBlank c || c == '\n'

def skipBlanks (s : List Char) : List Char := s.dropWhile isBlank

/-- Control characters, of which only the tab may stand in strings and comments. -/
def isControl (c : Char) : Bool := (c.toNat < 32 && c != '\t') || c.toNat == 127

/-- The comment at the start, if there is one, up to the line end. -/
def skipComment : List Char → Except ReadProblem (List Char)
  | '#' :: rest =>
    if (rest.takeWhile (· != '\n')).any isControl then malformed
    else .ok (rest.dropWhile (· != '\n'))
  | s => .ok s

/-- Blanks, line ends and comments at the start; `fuel` bounds the comments. -/
def skipLines : Nat → List Char → Except ReadProblem (List Char)
  | 0, s => .ok s
  | fuel + 1, s =>
    match s.dropWhile isBlankOrLineEnd with
    | '#' :: rest => do skipLines fuel (← skipComment ('#' :: rest))
    | rest => .ok rest

/-! ## Strings -/

/-- The character of a hexadecimal code, if it is a code point other than a surrogate. -/
def codePoint? (digits : List Char) : Option Char := do
  let n ← (digits.mapM fun c => if c.isDigit || c.isAlpha then Number.digitIn? 16 c else none)
  let code := n.foldl (fun n d => n * 16 + d) 0
  if code.isValidChar then some (Char.ofNat code) else none

/-- The character of an escape letter. -/
def escapeLetter? : Char → Option Char
  | 'b' => some '\x08'
  | 't' => some '\t'
  | 'n' => some '\n'
  | 'f' => some '\x0c'
  | 'r' => some '\r'
  | '"' => some '"'
  | '\\' => some '\\'
  | _ => none

/-- Puts a character in front of what a reader took. -/
def cons (c : Char) : Except ReadProblem (List Char × List Char) →
    Except ReadProblem (List Char × List Char)
  | .ok (cs, rest) => .ok (c :: cs, rest)
  | .error e => .error e

/-- A string in double quotes, behind its opening quote. -/
def basicChars : List Char → Except ReadProblem (List Char × List Char)
  | [] => malformed
  | '"' :: rest => .ok ([], rest)
  | '\\' :: 'u' :: a :: b :: c :: d :: rest =>
    match codePoint? [a, b, c, d] with
    | some x => cons x (basicChars rest)
    | none => malformed
  | '\\' :: 'U' :: a :: b :: c :: d :: e :: f :: g :: h :: rest =>
    match codePoint? [a, b, c, d, e, f, g, h] with
    | some x => cons x (basicChars rest)
    | none => malformed
  | '\\' :: letter :: rest =>
    match escapeLetter? letter with
    | some x => cons x (basicChars rest)
    | none => malformed
  | c :: rest => if isControl c || c == '\\' then malformed else cons c (basicChars rest)

/-- What a string in triple double quotes does with the next character: takes it, or skips
blanks behind a backslash that ends a line. -/
inductive Skipping where
  | no
  | toLineEnd
  | toText
  deriving DecidableEq

/-- A string in triple double quotes, behind them. -/
def longBasicChars : Skipping → List Char → Except ReadProblem (List Char × List Char)
  | _, [] => malformed
  | mode, c :: rest =>
    if mode = .toText && isBlankOrLineEnd c then longBasicChars .toText rest
    else if mode = .toLineEnd then
      if c = '\n' then longBasicChars .toText rest
      else if isBlank c then longBasicChars .toLineEnd rest
      else malformed
    else
      match c, rest with
      | '"', '"' :: '"' :: rest => .ok ([], rest)
      | '\\', 'u' :: a :: b :: c :: d :: rest =>
        match codePoint? [a, b, c, d] with
        | some x => cons x (longBasicChars .no rest)
        | none => malformed
      | '\\', 'U' :: a :: b :: c :: d :: e :: f :: g :: h :: rest =>
        match codePoint? [a, b, c, d, e, f, g, h] with
        | some x => cons x (longBasicChars .no rest)
        | none => malformed
      | '\\', letter :: rest =>
        if letter = '\n' then longBasicChars .toText rest
        else if isBlank letter then longBasicChars .toLineEnd rest
        else
          match escapeLetter? letter with
          | some x => cons x (longBasicChars .no rest)
          | none => malformed
      | c, rest =>
        if (isControl c && c != '\n') || c == '\\' then malformed
        else cons c (longBasicChars .no rest)

/-- A string in single quotes, behind its opening quote. -/
def literalChars : List Char → Except ReadProblem (List Char × List Char)
  | [] => malformed
  | '\'' :: rest => .ok ([], rest)
  | c :: rest => if isControl c then malformed else cons c (literalChars rest)

/-- A string in triple single quotes, behind them. -/
def longLiteralChars : List Char → Except ReadProblem (List Char × List Char)
  | [] => malformed
  | '\'' :: '\'' :: '\'' :: rest => .ok ([], rest)
  | c :: rest => if isControl c && c != '\n' then malformed else cons c (longLiteralChars rest)

/-- Up to two quotes behind a triple quote belong to the string. -/
def extraQuotes (quote : Char) : Except ReadProblem (List Char × List Char) →
    Except ReadProblem (List Char × List Char)
  | .error e => .error e
  | .ok (cs, rest) =>
    let extra := (rest.takeWhile (· == quote)).take 2
    .ok (cs ++ extra, rest.drop extra.length)

/-- The text without a line end at its start. -/
def skipLineEnd : List Char → List Char
  | '\n' :: rest => rest
  | s => s

/-- The string at the start, if the text starts with a quote. -/
def string? : List Char → Option (Except ReadProblem (List Char × List Char))
  | '"' :: '"' :: '"' :: rest => some (extraQuotes '"' (longBasicChars .no (skipLineEnd rest)))
  | '"' :: rest => some (basicChars rest)
  | '\'' :: '\'' :: '\'' :: rest => some (extraQuotes '\'' (longLiteralChars (skipLineEnd rest)))
  | '\'' :: rest => some (literalChars rest)
  | _ => none

/-! ## Keys -/

/-- The characters of a key without quotes. -/
def isBareKey (c : Char) : Bool := c.isAlphanum || c == '-' || c == '_'

/-- One part of a key. -/
def keyPart (s : List Char) : Except ReadProblem (Text × List Char) :=
  let bare := s.takeWhile isBareKey
  if !bare.isEmpty then .ok (Text.ofChars bare, s.dropWhile isBareKey)
  else
    match s with
    | '"' :: rest => (basicChars rest).map fun (cs, rest) => (Text.ofChars cs, rest)
    | '\'' :: rest => (literalChars rest).map fun (cs, rest) => (Text.ofChars cs, rest)
    | _ => malformed

/-- The parts of a key after the first; `fuel` bounds their number. -/
def keyParts : Nat → List Char → Except ReadProblem (List Text × List Char)
  | 0, _ => malformed
  | fuel + 1, s =>
    match s with
    | '.' :: rest => do
      let (part, rest) ← keyPart (skipBlanks rest)
      let (parts, rest) ← keyParts fuel (skipBlanks rest)
      return (part :: parts, rest)
    | _ => .ok ([], s)

/-- A dotted key and the blanks behind it. -/
def key (s : List Char) : Except ReadProblem (List Text × List Char) := do
  let (first, rest) ← keyPart s
  let (parts, rest) ← keyParts (s.length + 1) (skipBlanks rest)
  return (first :: parts, rest)

/-! ## Numbers -/

/-- Digits at the start, single underscores between them left out. -/
def digitRun (p : Char → Bool) : List Char → List Char × List Char
  | '_' :: c :: rest =>
    if p c then
      let (ds, rest) := digitRun p rest
      (c :: ds, rest)
    else ([], '_' :: c :: rest)
  | c :: rest =>
    if p c then
      let (ds, rest) := digitRun p rest
      (c :: ds, rest)
    else ([], c :: rest)
  | [] => ([], [])

/-- Digits at the start, of which the first is no underscore. -/
def digits? (p : Char → Bool) (s : List Char) : Option (List Char × List Char) :=
  match s with
  | c :: _ => if p c then some (digitRun p s) else none
  | [] => none

/-- A whole number with a mark of its base. -/
def markedNumber? : List Char → Option (Scalar × List Char)
  | '0' :: mark :: rest =>
    let base := if mark = 'x' then 16 else if mark = 'o' then 8 else if mark = 'b' then 2 else 0
    let isDigit (c : Char) := (c.isDigit || c.isAlpha) && (Number.digitIn? base c).isSome
    (digits? isDigit rest).bind fun (ds, rest) =>
      (Number.natural? base ds).map fun n => (.int n, rest)
  | _ => none

/-- The digits before the point: no zero in front of others. -/
def wholePart? : List Char → Option (List Char × List Char)
  | '0' :: rest => some (['0'], rest)
  | s => digits? Char.isDigit s

/-- The digits behind a point at the start. -/
def fractionPart? : List Char → Option (List Char × List Char)
  | '.' :: rest => digits? Char.isDigit rest
  | _ => none

/-- The exponent at the start. -/
def exponentPart? : List Char → Option (Int × List Char)
  | c :: rest =>
    if c = 'e' ∨ c = 'E' then
      let (negative, body) := Number.signed rest
      (digits? Char.isDigit body).bind fun (ds, rest) =>
        (Number.natural? 10 ds).map fun n => (if negative then -(n : Int) else n, rest)
    else none
  | [] => none

/-- A decimal number: a float when it has a fraction or an exponent. -/
def decimalNumber? (s : List Char) : Option (Except ReadProblem (Scalar × List Char)) :=
  let (negative, body) := Number.signed s
  (wholePart? body).map fun (whole, rest) =>
    match fractionPart? rest with
    | some (fraction, rest) =>
      let (exponent, rest) := (exponentPart? rest).getD (0, rest)
      .ok (.float (Number.ofParts negative whole fraction exponent), rest)
    | none =>
      match exponentPart? rest with
      | some (exponent, rest) => .ok (.float (Number.ofParts negative whole [] exponent), rest)
      | none =>
        if Number.longestInteger < whole.length then
          .error (.fault (.unconvertible (.integerLength whole.length)))
        else
          let n : Int := ((Number.natural? 10 whole).getD 0 : Nat)
          .ok (.int (if negative then -n else n), rest)

/-- The words for infinity and not-a-number. -/
def specialNumber? (s : List Char) : Option (Scalar × List Char) :=
  let (negative, body) := Number.signed s
  match body with
  | 'i' :: 'n' :: 'f' :: rest => some (.float (.infinite negative), rest)
  | 'n' :: 'a' :: 'n' :: rest => some (.float .nan, rest)
  | _ => none

/-- The truth value, moment or number at the start. -/
def plainScalar (s : List Char) : Except ReadProblem (Scalar × List Char) :=
  match s with
  | 't' :: 'r' :: 'u' :: 'e' :: rest => .ok (.bool true, rest)
  | 'f' :: 'a' :: 'l' :: 's' :: 'e' :: rest => .ok (.bool false, rest)
  | _ =>
    match Calendar.moment? s with
    | some (some moment, rest) => .ok (moment, rest)
    | some (none, _) => malformed
    | none =>
      match (markedNumber? s).map Except.ok <|> decimalNumber? s <|>
          (specialNumber? s).map Except.ok with
      | some taken => taken
      | none => malformed

end Bindery.Toml
