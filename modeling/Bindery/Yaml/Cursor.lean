import Bindery.Number.Read
import Bindery.ReadProblem

/-!
# A place in a YAML text

The text that is left, with the number of characters, the line and the column before it, and
the readers that take characters off it. A NUL stands for the end, since no text holds one.
-/

namespace Bindery.Yaml

/-- Characters that end a line. -/
def isBreak (c : Char) : Bool :=
  c == '\r' || c == '\n' || c == '\x85' || c == '\u2028' || c == '\u2029'

/-- Line ends and the end of the text. -/
def isLineEnd (c : Char) : Bool := isBreak c || c == '\x00'

/-- Spaces, line ends and the end of the text. -/
def isSpaceOrEnd (c : Char) : Bool := c == ' ' || isLineEnd c

/-- Blanks, line ends and the end of the text. -/
def isBlankOrEnd (c : Char) : Bool := c == '\t' || isSpaceOrEnd c

def isBlank (c : Char) : Bool := c == ' ' || c == '\t'

/-- The mark that may open a text; it takes no column. -/
def byteOrderMark : Char := '\uFEFF'

structure Cursor where
  rest : List Char
  index : Nat := 0
  line : Nat := 0
  column : Nat := 0

namespace Cursor

/-- The next character. -/
def peek (c : Cursor) : Char := c.rest.headD '\x00'

/-- The character after the next `n`. -/
def peekAt (c : Cursor) (n : Nat) : Char := (c.rest.drop n).headD '\x00'

/-- One character further. A `\r\n` ends its line at the second character. -/
def next (c : Cursor) : Cursor :=
  match c.rest with
  | [] => c
  | ch :: rest =>
    if isBreak ch && !(ch == '\r' && rest.head? == some '\n') then
      { rest, index := c.index + 1, line := c.line + 1, column := 0 }
    else
      { rest, index := c.index + 1, line := c.line
        column := if ch == byteOrderMark then c.column else c.column + 1 }

/-- Further by a number of characters. -/
def forward : Nat → Cursor → Cursor
  | 0, c => c
  | n + 1, c => forward n c.next

/-- The characters up to the first that does not satisfy `p`, and the place there. -/
def span (p : Char → Bool) (c : Cursor) : List Char × Cursor :=
  let taken := c.rest.takeWhile p
  (taken, c.forward taken.length)

def skip (p : Char → Bool) (c : Cursor) : Cursor := (c.span p).2

/-- The line end here, as it counts in a scalar, and the place behind it. -/
def lineBreak? (c : Cursor) : Option (Char × Cursor) :=
  match c.rest with
  | '\r' :: '\n' :: _ => some ('\n', c.forward 2)
  | ch :: _ =>
    if ch == '\u2028' || ch == '\u2029' then some (ch, c.next)
    else if isBreak ch then some ('\n', c.next)
    else none
  | [] => none

/-- Whether a document marker stands here: three equal characters and a blank or the end. -/
def isMarker (c : Cursor) (mark : Char) : Bool :=
  c.peek == mark && c.peekAt 1 == mark && c.peekAt 2 == mark && isBlankOrEnd (c.peekAt 3)

/-- Whether one of the two document markers stands here. -/
def isAnyMarker (c : Cursor) : Bool := c.isMarker '-' || c.isMarker '.'

end Cursor

/-- A reader at a place in the text. -/
abbrev Scan := StateT Cursor (Except ReadProblem)

namespace Scan

def fail {α : Type} : Scan α := throw .malformed

def peek : Scan Char := return (← get).peek

def peekAt (n : Nat) : Scan Char := return (← get).peekAt n

def forward (n : Nat) : Scan Unit := modify (Cursor.forward n)

def skip (p : Char → Bool) : Scan Unit := modify (Cursor.skip p)

/-- Takes the characters up to the first that does not satisfy `p`. -/
def take (p : Char → Bool) : Scan (List Char) := modifyGet (Cursor.span p)

/-- Takes the line end here, if there is one. -/
def lineBreak : Scan (Option Char) :=
  modifyGet fun c =>
    match c.lineBreak? with
    | some (ch, c') => (some ch, c')
    | none => (none, c)

/-- Refuses a next character that does not satisfy `p`. -/
def expect (p : Char → Bool) : Scan Unit := do
  if p (← peek) then return else fail

/-- An upper bound for the steps a reader can take. -/
def bound : Scan Nat := return (← get).rest.length + 1

end Scan

end Bindery.Yaml
