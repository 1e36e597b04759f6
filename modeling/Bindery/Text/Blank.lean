import Bindery.Text.Basic

/-!
# Blank space and lines

Which characters count as blank, what trimming removes, and how a text falls into lines. A
text read from a file has one spelling of the line end (`unifyLineEnds`); a message is cut at
every character that ends a line anywhere (`firstLine`).
-/

namespace Bindery.Text

/-- Blank characters: the ASCII blanks, the four information separators, and the space and
line characters of Unicode. -/
def isBlank (c : Char) : Bool :=
  let n := c.toNat
  (9 ≤ n && n ≤ 13) || (28 ≤ n && n ≤ 32) || n == 0x85 || n == 0xA0 || n == 0x1680 ||
    (0x2000 ≤ n && n ≤ 0x200A) || n == 0x2028 || n == 0x2029 || n == 0x202F || n == 0x205F ||
    n == 0x3000

/-- Characters that end a line in a message. -/
def endsLine (c : Char) : Bool :=
  let n := c.toNat
  (10 ≤ n && n ≤ 13) || (28 ≤ n && n ≤ 30) || n == 0x85 || n == 0x2028 || n == 0x2029

/-- The text without blanks at its start. -/
def trimStart (s : Text) : Text := s.dropWhile (·.is isBlank)

/-- The text without blanks at its end. -/
def trimEnd (s : Text) : Text := (s.reverse.dropWhile (·.is isBlank)).reverse

/-- The text without blanks at either end. -/
def trim (s : Text) : Text := trimEnd (trimStart s)

/-- Whether nothing but blanks is there. -/
def isAllBlank (s : Text) : Bool := s.all (·.is isBlank)

/-- A text that is there and not empty. -/
def filled? (s : Option Text) : Option Text := s.filter fun t => !t.isEmpty

/-- The text up to the first line end. -/
def firstLine (s : Text) : Text := s.takeWhile fun c => !c.is endsLine

/-- Writes every line end, `\r\n` and a lone `\r` too, as `\n`. -/
def unifyLineEnds : List Char → List Char
  | [] => []
  | '\r' :: '\n' :: rest => '\n' :: unifyLineEnds rest
  | '\r' :: rest => '\n' :: unifyLineEnds rest
  | c :: rest => c :: unifyLineEnds rest

/-- The pieces between the members that satisfy `p`: always at least one. -/
def splitWhere {α : Type} (p : α → Bool) : List α → List (List α)
  | [] => [[]]
  | c :: rest =>
    if p c then [] :: splitWhere p rest
    else
      match splitWhere p rest with
      | [] => [[c]]
      | piece :: pieces => (c :: piece) :: pieces

/-- The pieces of a text between the occurrences of a character. -/
def pieces (sep : Char) (s : Text) : List Text := splitWhere (· == sep) s

theorem splitWhere_ne_nil {α : Type} (p : α → Bool) (s : List α) : splitWhere p s ≠ [] := by
  cases s with
  | nil => simp [splitWhere]
  | cons c rest =>
    simp only [splitWhere]
    split
    · simp
    · split <;> simp

end Bindery.Text
