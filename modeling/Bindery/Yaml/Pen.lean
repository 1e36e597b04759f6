import Bindery.Yaml.Style

/-!
# Writing on lines

A pen knows the text so far and its column, and whether it stands after a blank or after
nothing but marks on its line; from these follows whether the next node needs a space or a new
line. Long texts are broken at a space once their line is full.
-/

namespace Bindery.Yaml

structure Pen where
  text : String := ""
  column : Nat := 0
  afterBlank : Bool := true
  /-- Nothing but indentation and marks stand on the line. -/
  isFresh : Bool := true

namespace Pen

/-- The column after which a line is full. -/
def fullWidth : Nat := 80

def put (p : Pen) (s : String) : Pen :=
  { p with text := p.text ++ s, column := p.column + s.length }

def putChars (p : Pen) (s : List Char) : Pen := p.put (String.ofList s)

def newLine (p : Pen) : Pen :=
  { text := p.text.push '\n', column := 0, afterBlank := true, isFresh := true }

/-- Goes to a column of a line with nothing but marks on it, a new line if need be. -/
def indent (p : Pen) (n : Nat) : Pen :=
  let p := if !p.isFresh || n < p.column || (p.column = n && !p.afterBlank) then p.newLine else p
  if p.column < n then
    { p.put (String.ofList (List.replicate (n - p.column) ' ')) with afterBlank := true }
  else p

/-- Notes that text stands on the line. -/
def stale (p : Pen) : Pen := { p with afterBlank := false, isFresh := false }

/-- Writes a mark that keeps the line as fresh as it is, after a space if need be. -/
def mark (p : Pen) (s : String) : Pen :=
  { (p.put (if p.afterBlank then s else " " ++ s)) with afterBlank := false }

/-- Writes a mark after a space if need be. -/
def word (p : Pen) (s : String) : Pen := (p.mark s).stale

/-- Writes something right after what stands there. -/
def close (p : Pen) (s : String) : Pen := (p.put s).stale

def isFull (p : Pen) : Bool := fullWidth < p.column

/-! ## Plain and singly quoted text -/

/-- The longest runs of spaces, of line ends, and of other characters. -/
def runs (s : List Char) : List (List Char) :=
  s.splitBy fun a b => ((a == ' ') == (b == ' ')) && ((a == '\n') == (b == '\n'))

/-- Writes the runs of a plain text; a single space gives way to a new line. -/
def plainRuns (folds : Bool) (n : Nat) (p : Pen) : List (List Char) → Pen
  | [] => p
  | run :: rest =>
    let p := if run = [' '] && folds && p.isFull then (p.indent n).stale else p.putChars run
    plainRuns folds n p rest

def plain (p : Pen) (folds : Bool) (n : Nat) (s : List Char) : Pen :=
  let p := if p.afterBlank then p else p.put " "
  plainRuns folds n p.stale (runs s)

/-- A quote is written twice. -/
def doubledQuotes (s : List Char) : List Char :=
  s.flatMap fun c => if c = '\'' then ['\'', '\''] else [c]

def newLines : Nat → Pen → Pen
  | 0, p => p
  | k + 1, p => newLines k p.newLine

/-- Writes the runs of a quoted text. A line end is written as an empty line; a single space
between other characters gives way to a new line. -/
def singleRuns (folds : Bool) (n : Nat) (isFirst : Bool) (p : Pen) : List (List Char) → Pen
  | [] => p
  | run :: rest =>
    let p :=
      if run.head? = some '\n' then (newLines (run.length + 1) p).indent n
      else if run = [' '] && folds && !isFirst && !rest.isEmpty && p.isFull then p.indent n
      else p.putChars (doubledQuotes run)
    singleRuns folds n false p rest

def single (p : Pen) (folds : Bool) (n : Nat) (s : List Char) : Pen :=
  (singleRuns folds n true (p.word "'") (runs s)).close "'"

/-! ## Doubly quoted text -/

/-- The letters of short escapes. -/
def escapeLetter? (c : CodePoint) : Option Char :=
  ([('\x00', '0'), ('\x07', 'a'), ('\x08', 'b'), ('\t', 't'), ('\n', 'n'), ('\x0b', 'v'),
    ('\x0c', 'f'), ('\r', 'r'), ('\x1b', 'e'), ('"', '"'), ('\\', '\\'), ('\x85', 'N'),
    ('\xa0', '_'), ('\u2028', 'L'), ('\u2029', 'P')].find? fun e => c == e.1).map (·.2)

/-- A number in capital hexadecimal digits. -/
def capitalHex (width n : Nat) : List Char := (Text.hex width n).map Char.toUpper

/-- The escape of a code point by its number. -/
def numberEscape (n : Nat) : List Char :=
  if n ≤ 0xFF then '\\' :: 'x' :: capitalHex 2 n
  else if n ≤ 0xFFFF then '\\' :: 'u' :: capitalHex 4 n
  else '\\' :: 'U' :: capitalHex 8 n

/-- The character that needs no escape, if a code point is one. -/
def unescaped? (c : CodePoint) : Option Char :=
  if (escapeLetter? c).isSome then none
  else c.char?.filter fun c => ' ' ≤ c && c ≤ '~'

/-- The escape of a code point. -/
def escaped (c : CodePoint) : List Char :=
  match escapeLetter? c with
  | some letter => ['\\', letter]
  | none => numberEscape c.toNat

/-- Breaks the line inside double quotes. A space at the start of the next line is escaped. -/
def breakQuoted (n : Nat) (next : Option CodePoint) (p : Pen) : Pen :=
  let p := ((p.put "\\").indent n).stale
  if next = some (.char ' ') then p.put "\\" else p

/-- Writes the code points between double quotes; `waiting` are ordinary ones not written yet,
the last one first. A full line is broken before a space and next to an escape, but neither
before the first nor before the last one. -/
def doubleChars (folds : Bool) (n : Nat) (isFirst : Bool) (waiting : List Char) (p : Pen) :
    Text → Pen
  | [] => p.putChars waiting.reverse
  | c :: rest =>
    let mayBreak := folds && !isFirst && !rest.isEmpty
    match unescaped? c with
    | none =>
      let p := (p.putChars waiting.reverse).putChars (escaped c)
      let p := if mayBreak && fullWidth + 1 < p.column then breakQuoted n rest.head? p else p
      doubleChars folds n false [] p rest
    | some x =>
      if mayBreak && (x = ' ' || waiting.isEmpty) && fullWidth < p.column + waiting.length then
        doubleChars folds n false [x] (breakQuoted n (some c) (p.putChars waiting.reverse)) rest
      else doubleChars folds n false (x :: waiting) p rest

def double (p : Pen) (folds : Bool) (n : Nat) (s : Text) : Pen :=
  (doubleChars folds n true [] (p.word "\"") s).close "\""

/-! ## Blocks of lines -/

/-- Writes the lines of a text that ends with a line end, each at a column. -/
def blockLines (n : Nat) (p : Pen) : List (List Char) → Pen
  | [] => p
  | [[]] => p
  | line :: rest => blockLines n ((p.indent n).putChars line).newLine rest

/-- Writes a text that ends with a line end as a block. -/
def block (p : Pen) (n : Nat) (s : List Char) : Pen :=
  blockLines n (p.word "|").newLine (Text.splitWhere (· == '\n') s)

end Pen

end Bindery.Yaml
