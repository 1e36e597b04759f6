import Bindery.Text.Utf8
import Bindery.Yaml.Cursor

/-!
# The words of YAML

Directives, anchors, tags, and the four forms of scalars, each read at its first character.
Scalars are read with their lines folded as their form asks.
-/

namespace Bindery.Yaml

open Scan

/-- Characters of anchors, directives and tag handles. -/
def isWordChar (c : Char) : Bool := c.isAlphanum || c == '-' || c == '_'

def isHexDigit (c : Char) : Bool := c.isDigit || ('a' ≤ c && c ≤ 'f') || ('A' ≤ c && c ≤ 'F')

/-- The characters that a tag's text may hold. -/
def isTagChar (c : Char) : Bool :=
  c.isAlphanum || "-;/?:@&=+$,_.!~*'()[]%".toList.contains c

/-- The number of exactly `n` hexadecimal digits. -/
def hexNumber (n : Nat) : Scan Nat := do
  let digits := (← get).rest.take n
  if digits.length = n && digits.all isHexDigit then
    forward n
    return (Number.natural? 16 digits).getD 0
  else fail

/-! ## Tags and anchors -/

/-- The bytes of a run of percent escapes. -/
def percentBytes : Nat → Scan (List UInt8)
  | 0 => return []
  | fuel + 1 => do
    if (← peek) == '%' then
      forward 1
      let b ← hexNumber 2
      return b.toUInt8 :: (← percentBytes fuel)
    else return []

/-- The text of a tag, percent escapes resolved. -/
def tagText : Nat → Scan (List Char)
  | 0 => return []
  | fuel + 1 => do
    let plain ← take fun c => isTagChar c && c != '%'
    if (← peek) == '%' then
      match String.fromUTF8? (ByteArray.mk (← percentBytes (← bound)).toArray) with
      | some s => return plain ++ s.toList ++ (← tagText fuel)
      | none => fail
    else return plain

/-- The text of a tag, which is not empty. -/
def tagSuffix : Scan String := do
  let first ← peek
  if !isTagChar first then fail
  else return String.ofList (← tagText (← bound))

/-- A tag handle: an exclamation mark, or a word between two. A space ends a handle early. -/
def tagHandle : Scan String := do
  expect (· == '!')
  forward 1
  if (← peek) == ' ' then return "!"
  else
    let word ← take isWordChar
    expect (· == '!')
    forward 1
    return String.ofList ('!' :: word ++ ['!'])

/-- Whether another exclamation mark stands in the word here, behind its first character. -/
def hasSecondMark : Scan Bool := do
  let word := (← get).rest.drop 1 |>.takeWhile fun c => !isSpaceOrEnd c
  return word.contains '!'

/-- A tag: its handle, unless it is written out in full, and its text. -/
def tag : Scan (Option String × String) := do
  let second ← peekAt 1
  let twoMarks ← hasSecondMark
  let found : Option String × String ← (
    if second == '<' then do
      forward 2
      let suffix ← tagSuffix
      expect (· == '>')
      forward 1
      return (none, suffix)
    else if isBlankOrEnd second then do
      forward 1
      return (none, "!")
    else if twoMarks then do
      let handle ← tagHandle
      return (some handle, ← tagSuffix)
    else do
      forward 1
      return (some "!", ← tagSuffix) : Scan (Option String × String))
  expect isSpaceOrEnd
  return found

/-- The name of an anchor or alias, behind its mark. -/
def anchorName : Scan String := do
  forward 1
  let name ← take isWordChar
  if name.isEmpty then fail
  expect fun c => isBlankOrEnd c || "?:,]\x7d%@`".toList.contains c
  return String.ofList name

/-! ## Directives -/

/-- A directive: a version, a tag handle with what it stands for, or one to be ignored. -/
inductive Directive where
  | version (major : Nat)
  | handle (name stands : String)
  | other
  deriving DecidableEq, Repr

/-- The rest of a line that may hold nothing but a comment. -/
def commentLine : Scan Unit := do
  skip (· == ' ')
  if (← peek) == '#' then skip fun c => !isLineEnd c
  expect isLineEnd
  let _ ← lineBreak

def versionNumber : Scan Nat := do
  let digits ← take Char.isDigit
  if Number.longestInteger < digits.length then
    throw (.fault (.unconvertible (.integerLength digits.length)))
  match Number.natural? 10 digits with
  | some n => return n
  | none => fail

def directive : Scan Directive := do
  forward 1
  let name ← take isWordChar
  if name.isEmpty then fail
  expect isSpaceOrEnd
  let found : Directive ← (
    if name == "YAML".toList then do
      skip (· == ' ')
      let major ← versionNumber
      expect (· == '.')
      forward 1
      let _ ← versionNumber
      expect isSpaceOrEnd
      return .version major
    else if name == "TAG".toList then do
      skip (· == ' ')
      let handle ← tagHandle
      expect (· == ' ')
      skip (· == ' ')
      let stands ← tagSuffix
      expect isSpaceOrEnd
      return .handle handle stands
    else do
      skip fun c => !isLineEnd c
      return .other : Scan Directive)
  commentLine
  return found

/-! ## Quoted scalars -/

/-- The character of an escape letter. -/
def escapeLetter? : Char → Option Char
  | '0' => some '\x00'
  | 'a' => some '\x07'
  | 'b' => some '\x08'
  | 't' | '\t' => some '\t'
  | 'n' => some '\n'
  | 'v' => some '\x0b'
  | 'f' => some '\x0c'
  | 'r' => some '\r'
  | 'e' => some '\x1b'
  | ' ' => some ' '
  | '"' => some '"'
  | '\\' => some '\\'
  | '/' => some '/'
  | 'N' => some '\x85'
  | '_' => some '\xa0'
  | 'L' => some '\u2028'
  | 'P' => some '\u2029'
  | _ => none

/-- The number of hexadecimal digits behind an escape letter. -/
def escapeWidth? : Char → Option Nat
  | 'x' => some 2
  | 'u' => some 4
  | 'U' => some 8
  | _ => none

/-- The code point of a number, which may be a surrogate. One past the last is no code point, one
past the machine's whole numbers does not even count as a number. -/
def codePoint (n : Nat) : Scan CodePoint :=
  if 0x7FFFFFFF < n then throw (.fault .outOfRange)
  else if 0x10FFFF < n then throw (.fault (.unconvertible .codePoint))
  else return .ofNat n

/-- The line ends after a first one in a quoted scalar, with the blanks around them. A document
marker at the start of a line is refused. -/
def quotedBreaks : Nat → Scan (List Char)
  | 0 => return []
  | fuel + 1 => do
    if (← get).isAnyMarker then fail
    skip isBlank
    match ← lineBreak with
    | some c => return c :: (← quotedBreaks fuel)
    | none => return []

/-- The folded form of a line end and the line ends after it: one line end alone is a space. -/
def folded (first : Char) (more : List Char) : List Char :=
  if first != '\n' then first :: more
  else if more.isEmpty then [' ']
  else more

/-- Blanks inside a quoted scalar: kept within a line, folded at its end. -/
def quotedBlanks : Scan (List Char) := do
  let blanks ← take isBlank
  if (← peek) == '\x00' then fail
  match ← lineBreak with
  | some c => return folded c (← quotedBreaks (← bound))
  | none => return blanks

/-- The escape behind a backslash. -/
def escape : Scan Text := do
  let letter ← peek
  match escapeLetter? letter, escapeWidth? letter with
  | some c, _ =>
    forward 1
    return [c]
  | none, some width =>
    forward 1
    return [← codePoint (← hexNumber width)]
  | none, none =>
    match ← lineBreak with
    | some _ => return Text.ofChars (← quotedBreaks (← bound))
    | none => fail

/-- The text of a quoted scalar up to the next blank or its end. -/
def quotedText (double : Bool) : Nat → Scan Text
  | 0 => return []
  | fuel + 1 => do
    let plain := Text.ofChars (← take fun c =>
      !(isBlankOrEnd c || c == '\'' || c == '"' || c == '\\'))
    let c ← peek
    if !double && c == '\'' && (← peekAt 1) == '\'' then
      forward 2
      return plain ++ .char '\'' :: (← quotedText double fuel)
    else if (double && c == '\'') || (!double && (c == '"' || c == '\\')) then
      forward 1
      return plain ++ .char c :: (← quotedText double fuel)
    else if double && c == '\\' then
      forward 1
      let e ← escape
      return plain ++ e ++ (← quotedText double fuel)
    else return plain

/-- The rest of a quoted scalar, up to its closing quote. -/
def quotedRest (quote : Char) : Nat → Scan Text
  | 0 => fail
  | fuel + 1 => do
    if (← peek) == quote then
      forward 1
      return []
    else
      let blanks := Text.ofChars (← quotedBlanks)
      let text ← quotedText (quote == '"') (← bound)
      return blanks ++ text ++ (← quotedRest quote fuel)

/-- A scalar in quotes. -/
def quoted (quote : Char) : Scan Text := do
  forward 1
  let text ← quotedText (quote == '"') (← bound)
  return text ++ (← quotedRest quote (← bound))

/-! ## Block scalars -/

/-- What happens to the line ends at the end of a block scalar. -/
inductive Chomping where
  | strip
  | clip
  | keep
  deriving DecidableEq

def chomping? (c : Char) : Option Chomping :=
  if c == '+' then some .keep else if c == '-' then some .strip else none

/-- An indentation indicator, which is not zero. -/
def indentation : Scan (Option Nat) := do
  let c ← peek
  if c.isDigit then
    if c == '0' then fail
    forward 1
    return some (c.toNat - '0'.toNat)
  else return none

def chomping : Scan (Option Chomping) := do
  match chomping? (← peek) with
  | some c =>
    forward 1
    return some c
  | none => return none

/-- The indicators behind the mark of a block scalar, in either order. -/
def blockIndicators : Scan (Chomping × Option Nat) := do
  match ← chomping with
  | some c =>
    let n ← indentation
    expect isSpaceOrEnd
    return (c, n)
  | none =>
    let n ← indentation
    let c ← if n.isSome then chomping else pure none
    expect isSpaceOrEnd
    return (c.getD .clip, n)

/-- The empty lines before a block scalar's text, and the greatest column they reach. -/
def leadingLines : Nat → Nat → Scan (List Char × Nat)
  | 0, deepest => return ([], deepest)
  | fuel + 1, deepest => do
    match ← lineBreak with
    | some c =>
      let (breaks, deepest) ← leadingLines fuel deepest
      return (c :: breaks, deepest)
    | none =>
      if (← peek) == ' ' then
        forward 1
        leadingLines fuel (max deepest (← get).column)
      else return ([], deepest)

/-- Skips spaces up to a column. -/
def skipIndent (indent : Nat) : Nat → Scan Unit
  | 0 => return
  | fuel + 1 => do
    if (← get).column < indent && (← peek) == ' ' then
      forward 1
      skipIndent indent fuel

/-- Empty lines at an indentation, and the indentation of the line after them. -/
def blockBreaks (indent : Nat) : Nat → Scan (List Char)
  | 0 => return []
  | fuel + 1 => do
    skipIndent indent (← bound)
    match ← lineBreak with
    | some c => return c :: (← blockBreaks indent fuel)
    | none => return []

/-- Whether a line of a block scalar begins here. -/
def atBlockLine (indent : Nat) : Scan Bool := do
  let c ← get
  return c.column == indent && c.peek != '\x00'

/-- The lines of a block scalar, with the line end of the last and the empty lines after it.
Between two lines that begin with text a line end is folded, when the scalar is. -/
def blockLines (fold : Bool) (indent : Nat) : Nat → Scan (List Char × List Char × List Char)
  | 0 => return ([], [], [])
  | fuel + 1 => do
    let startsWithText := !isBlank (← peek)
    let line ← take fun c => !isLineEnd c
    let lineEnd := (← lineBreak).toList
    let breaks ← blockBreaks indent (← bound)
    if ← atBlockLine indent then
      let joint :=
        if fold && lineEnd == ['\n'] && startsWithText && !isBlank (← peek) then
          (if breaks.isEmpty then [' '] else [])
        else lineEnd
      let (more, last, after) ← blockLines fold indent fuel
      return (line ++ joint ++ breaks ++ more, last, after)
    else return (line, lineEnd, breaks)

/-- A block scalar below a parent's indentation. -/
def blockScalar (parent : Int) : Scan Text := do
  let fold := (← peek) == '>'
  forward 1
  let (chomp, increment) ← blockIndicators
  commentLine
  let least := max 1 (parent + 1).toNat
  let (breaks, indent) ← (
    match increment with
    | some n => do
      let indent := least + n - 1
      return (← blockBreaks indent (← bound), indent)
    | none => do
      let (breaks, deepest) ← leadingLines (← bound) 0
      return (breaks, max least deepest) : Scan (List Char × Nat))
  let (text, last, after) ← (
    if ← atBlockLine indent then do
      let (text, last, after) ← blockLines fold indent (← bound)
      return (breaks ++ text, last, after)
    else return ([], [], breaks) : Scan (List Char × List Char × List Char))
  return Text.ofChars (text ++
    match chomp with
    | .strip => []
    | .clip => last
    | .keep => last ++ after)

/-! ## Plain scalars -/

/-- Whether a plain scalar ends at the next character. -/
def plainEnds (inFlow : Bool) (c : Cursor) : Bool :=
  let ch := c.peek
  isBlankOrEnd ch ||
    (ch == ':' && (isBlankOrEnd (c.peekAt 1) ||
      (inFlow && ",[]\x7b\x7d".toList.contains (c.peekAt 1)))) ||
    (inFlow && ",?[]\x7b\x7d".toList.contains ch)

/-- The characters of a plain scalar up to the next blank or its end. -/
def plainWord (inFlow : Bool) : Nat → Scan (List Char)
  | 0 => return []
  | fuel + 1 => do
    let c ← get
    if plainEnds inFlow c then return []
    else
      forward 1
      return c.peek :: (← plainWord inFlow fuel)

/-- Line ends after a first one in a plain scalar; nothing at all when a document marker stands
at the start of a line. -/
def plainBreaks : Nat → Scan (Option (List Char))
  | 0 => return some []
  | fuel + 1 => do
    skip (· == ' ')
    match ← lineBreak with
    | some c =>
      if (← get).isAnyMarker then return none
      else return (← plainBreaks fuel).map (c :: ·)
    | none => return some []

/-- Blanks inside a plain scalar, and whether a line ended there. -/
def plainBlanks : Scan (List Char × Bool) := do
  let blanks ← take (· == ' ')
  match ← lineBreak with
  | some c =>
    if (← get).isAnyMarker then return ([], true)
    match ← plainBreaks (← bound) with
    | some more => return (folded c more, true)
    | none => return ([], true)
  | none => return (blanks, false)

/-- The rest of a plain scalar behind `blanks`, and whether it ended at a line end. -/
def plainRest (inFlow : Bool) (indent : Int) (blanks : List Char) : Nat → Scan (List Char × Bool)
  | 0 => return ([], false)
  | fuel + 1 => do
    if (← peek) == '#' then return ([], false)
    let word ← plainWord inFlow (← bound)
    if word.isEmpty then return ([], false)
    else
      let (more, lineEnded) ← plainBlanks
      if more.isEmpty || (← peek) == '#' || (!inFlow && ((← get).column : Int) < indent) then
        return (blanks ++ word, lineEnded)
      else
        let (rest, ended) ← plainRest inFlow indent more fuel
        return (blanks ++ word ++ rest, if rest.isEmpty then lineEnded else ended)

/-- A plain scalar below a parent's indentation, and whether it ended at a line end. -/
def plain (inFlow : Bool) (parent : Int) : Scan (Text × Bool) := do
  let (text, lineEnded) ← plainRest inFlow (parent + 1) [] (← bound)
  return (Text.ofChars text, lineEnded)

end Bindery.Yaml
