import Bindery.Yaml.Schema

/-!
# How a scalar can be written

A text without line ends, odd characters or marks can stand plain if its form gives it the type
it has. One with line ends or marks goes between single quotes, unless blanks stand next to a
line end. Everything else goes between double quotes, with escapes. Bytes are written as a
block of lines.
-/

namespace Bindery.Yaml

inductive Style where
  | plain | single | double | block
  deriving DecidableEq, Repr

/-- Characters that end a line in YAML. -/
def endsLine (c : Char) : Bool :=
  c == '\n' || c == '\x85' || c == '\u2028' || c == '\u2029'

/-- Characters that need no escape: those of ASCII that are visible, the space and the line
end. -/
def isOrdinary (c : Char) : Bool := c == '\n' || (' ' ≤ c && c ≤ '~')

/-- Whether two characters follow each other somewhere in a text. -/
def hasPair (a b : Char) : List Char → Bool
  | c :: d :: rest => (c == a && d == b) || hasPair a b (d :: rest)
  | _ => false

def startsWith (front s : List Char) : Bool := front.isPrefixOf s

def endsWith (c : Char) (s : List Char) : Bool := s.getLast? == some c

/-- Whether a text of ordinary characters starts with something that plain text must not. -/
def startsMarked : List Char → Bool
  | [] => false
  | c :: rest =>
    "#,[]\x7b\x7d&*!|>'\"%@`".toList.contains c ||
      ("?:-".toList.contains c && (rest.isEmpty || startsWith [' '] rest)) ||
      startsWith "---".toList (c :: rest) || startsWith "...".toList (c :: rest)

/-- Whether a text could be taken for an entry or for text with a comment. -/
def holdsMark (s : List Char) : Bool :=
  hasPair ':' ' ' s || hasPair ' ' '#' s || endsWith ':' s

/-- Whether a text has blanks or line ends at its ends. -/
def hasBlankEnds (s : List Char) : Bool :=
  startsWith [' '] s || endsWith ' ' s || startsWith ['\n'] s || endsWith '\n' s

/-- Whether a text can stand between single quotes. -/
def canBeSingle (s : List Char) : Bool :=
  s.all isOrdinary && !hasPair ' ' '\n' s && !hasPair '\n' ' ' s

/-- Whether a text can stand plain. -/
def canBePlain (s : List Char) : Bool :=
  s.all isOrdinary && !s.contains '\n' && !hasBlankEnds s && !startsMarked s && !holdsMark s

/-- Whether a text can be a block of lines. -/
def canBeBlock (s : List Char) : Bool :=
  !s.isEmpty && s.all isOrdinary && !hasPair ' ' '\n' s && !endsWith ' ' s

/-- Whether a text has more than one line. -/
def isMultiline (text : Text) : Bool := text.any (·.is endsLine)

/-- The style of a scalar; one that is a key in front of its value stays on one line. -/
def styleOf (type : TypeTag) (asKey : Bool) (text : Text) : Style :=
  let s := text.characters
  if text.any (·.isSurrogate) then .double
  else if resolve text = type && !s.isEmpty && canBePlain s then .plain
  else if type = .binary then (if !asKey && canBeBlock s then .block else .double)
  else if canBeSingle s && !(asKey && isMultiline text) then .single
  else .double

end Bindery.Yaml
