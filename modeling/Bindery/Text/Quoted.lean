import Bindery.Text.Basic
import Bindery.Text.Hidden

/-!
# Texts in quotes

A text shown inside a message or inside a list stands in single quotes, or in double quotes
when it holds single ones only. A backslash, the chosen quote and every character without a
visible form are escaped.
-/

namespace Bindery.Text

/-- The lowercase hexadecimal digits of a number, padded with zeros to a width. -/
def hex (width n : Nat) : List Char :=
  let digits := Nat.toDigits 16 n
  List.replicate (width - digits.length) '0' ++ digits

/-- The escape of a code point by its number, as short as its size allows. -/
def codePointEscape (n : Nat) : List Char :=
  if n < 0x100 then '\\' :: 'x' :: hex 2 n
  else if n < 0x10000 then '\\' :: 'u' :: hex 4 n
  else '\\' :: 'U' :: hex 8 n

/-- The characters that show `c` between two quotes. -/
def shown (quote : Char) (c : CodePoint) : Text :=
  if c = quote || c = '\\' then ['\\', c]
  else if c = '\n' then "\\n"
  else if c = '\r' then "\\r"
  else if c = '\t' then "\\t"
  else if c.is isVisible then [c]
  else ofChars (codePointEscape c.toNat)

/-- Single quotes, unless the text holds single quotes and no double ones. -/
def quoteFor (s : Text) : Char := if s.contains '\'' && !s.contains '"' then '"' else '\''

/-- The text in quotes. -/
def quoted (s : Text) : Text :=
  let quote := quoteFor s
  .char quote :: s.flatMap (shown quote) ++ [.char quote]

/-- A text with everything outside ASCII escaped. -/
def asciiOnly (s : Text) : Text :=
  s.flatMap fun c => if c.toNat < 128 then [c] else ofChars (codePointEscape c.toNat)

/-- How a byte is shown between two quotes: visible ASCII as itself, all else escaped. -/
def shownByte (quote : Char) (b : UInt8) : List Char :=
  let n := b.toNat
  if n = quote.toNat || n = 92 then ['\\', Char.ofNat n]
  else if n = 10 then ['\\', 'n']
  else if n = 13 then ['\\', 'r']
  else if n = 9 then ['\\', 't']
  else if 32 ≤ n && n < 127 then [Char.ofNat n]
  else '\\' :: 'x' :: hex 2 n

/-- A run of bytes in quotes behind a `b`. -/
def quotedBytes (bytes : List UInt8) : Text :=
  let quote := quoteFor (bytes.map fun b => CodePoint.ofNat b.toNat)
  ofChars ('b' :: quote :: bytes.flatMap (shownByte quote) ++ [quote])

end Bindery.Text
