import Bindery.Text.Quoted

/-!
# What stops a computation on wrongly typed or wrongly written values

A `Fault` is the cause: a value of the wrong kind, an attribute that is not there, a text that
is no number, a byte that is no text. Every fault has a label, under which reports show it,
and those that are about a written value (`Unconvertible`, `Undecodable`) have a sentence.
-/

namespace Bindery

/-- Why a written value stands for nothing, or a value has no text. -/
inductive Unconvertible where
  | integer (base : Nat) (written : Text)
  | integerLength (digits : Nat)
  | integerSize
  | number (written : Text)
  | year (n : Nat)
  | month
  | day
  | hour
  | minute
  | second
  | offset (minutes : Int)
  | codePoint
  | pathWithNul
  | notANumber
  | pairLength (index length : Nat)
  deriving DecidableEq, Repr

/-- A span of whole days and a rest of seconds below a day. -/
def spanText (minutes : Int) : String :=
  let days := minutes / 1440
  let seconds := (minutes % 1440) * 60
  let parts := (if days = 0 then [] else ["days=" ++ toString days]) ++
    (if seconds = 0 then [] else ["seconds=" ++ toString seconds])
  "datetime.timedelta(" ++ String.intercalate ", " parts ++ ")"

namespace Unconvertible

/-- How much of a text in quotes a sentence about a whole number shows. -/
def longestQuotation : Nat := 200

/-- The sentence that tells what is wrong. -/
def message : Unconvertible → Text
  | .integer base written =>
    "invalid literal for int() with base " ++ toString base ++ ": " ++
      (Text.quoted written).take longestQuotation
  | .integerLength digits =>
    "Exceeds the limit (4300 digits) for integer string conversion: value has " ++
      toString digits ++ " digits; use sys.set_int_max_str_digits() to increase the limit"
  | .integerSize =>
    "Exceeds the limit (4300 digits) for integer string conversion; " ++
      "use sys.set_int_max_str_digits() to increase the limit"
  | .number written => "could not convert string to float: " ++ Text.quoted written
  | .year n => "year " ++ toString n ++ " is out of range"
  | .month => "month must be in 1..12"
  | .day => "day is out of range for month"
  | .hour => "hour must be in 0..23"
  | .minute => "minute must be in 0..59"
  | .second => "second must be in 0..59"
  | .offset minutes =>
    "offset must be a timedelta strictly between -timedelta(hours=24) and " ++
      "timedelta(hours=24), not " ++ spanText minutes ++ "."
  | .codePoint => "chr() arg not in range(0x110000)"
  | .pathWithNul => "embedded null byte"
  | .notANumber => "cannot convert float NaN to integer"
  | .pairLength index length =>
    "dictionary update sequence element #" ++ toString index ++ " has length " ++
      toString length ++ "; 2 is required"

end Unconvertible

/-- How a run of bytes fails to be UTF-8. -/
inductive EncodingProblem where
  | startByte
  | continuationByte
  | truncated
  deriving DecidableEq, Repr

/-- Where a run of bytes stops being UTF-8: the first offending byte with its position, and
how many bytes the offence spans. -/
structure Undecodable where
  byte : UInt8
  position : Nat
  length : Nat
  problem : EncodingProblem
  deriving DecidableEq, Repr

namespace EncodingProblem

def message : EncodingProblem → String
  | .startByte => "invalid start byte"
  | .continuationByte => "invalid continuation byte"
  | .truncated => "unexpected end of data"

end EncodingProblem

namespace Undecodable

/-- One byte is named, a longer offence by its first and last position. -/
def message (u : Undecodable) : Text :=
  let what : String :=
    if u.length = 1 then
      "byte 0x" ++ String.ofList (Text.hex 2 u.byte.toNat) ++ " in position " ++
        toString u.position
    else
      "bytes in position " ++ toString u.position ++ "-" ++
        toString (u.position + u.length - 1)
  "'utf-8' codec can't decode " ++ what ++ ": " ++ u.problem.message

end Undecodable

/-- Where a text cannot be encoded: the first code point that is no character, its position, and
how many of them stand there one after another. -/
structure Unencodable where
  codePoint : Nat
  position : Nat
  length : Nat
  deriving DecidableEq, Repr

namespace Unencodable

/-- One code point is named, several by the first and the last position. -/
def message (u : Unencodable) : Text :=
  let what : String :=
    if u.length = 1 then
      "character '" ++ String.ofList (Text.codePointEscape u.codePoint) ++ "' in position " ++
        toString u.position
    else
      "characters in position " ++ toString u.position ++ "-" ++
        toString (u.position + u.length - 1)
  "'utf-8' codec can't encode " ++ what ++ ": surrogates not allowed"

end Unencodable

/-- What stopped a computation. -/
inductive Fault where
  /-- An operation met a value of a kind it is not defined on. -/
  | wrongKind
  /-- A value lacks an operation asked of it. -/
  | noOperation
  /-- A word is not in a fixed list of words. -/
  | unknownWord
  /-- A text is too short. -/
  | outOfText
  /-- A number does not fit. -/
  | outOfRange
  /-- A value has no written form. -/
  | unwritable
  /-- A table lacks an attribute that is to be written out. -/
  | undefined (member : Text)
  | unconvertible (reason : Unconvertible)
  | undecodable (reason : Undecodable)
  /-- A value is nested too deeply to be gone through, as one that holds itself is. -/
  | tooDeep
  /-- A path starts at the home of somebody unknown. -/
  | homeless
  /-- A path starts at the home of somebody whose name has no encoding. -/
  | unencodable (reason : Unencodable)
  deriving DecidableEq, Repr

namespace Fault

/-- The label under which a fault is reported. -/
def label : Fault → String
  | .wrongKind => "TypeError"
  | .noOperation => "AttributeError"
  | .unknownWord => "KeyError"
  | .outOfText => "IndexError"
  | .outOfRange => "OverflowError"
  | .unwritable => "RepresenterError"
  | .undefined _ => "UndefinedError"
  | .unconvertible _ => "ValueError"
  | .undecodable _ => "UnicodeDecodeError"
  | .tooDeep => "RecursionError"
  | .homeless => "RuntimeError"
  | .unencodable _ => "UnicodeEncodeError"

/-- The sentence for an attribute that is not there. -/
def undefinedMessage (member : Text) : Text :=
  "'dict object' has no attribute " ++ Text.quoted member

/-- The text a report of a failed build gives for a fault: the sentence for an attribute that
is not there, else the label in angle brackets. -/
def cause : Fault → Text
  | .undefined member => undefinedMessage member
  | f => "<" ++ f.label ++ ">"

/-- The sentence of a fault about a written value or its text. -/
def sentence? : Fault → Option Text
  | .unconvertible reason => some reason.message
  | .undecodable reason => some reason.message
  | .unencodable reason => some reason.message
  | _ => none

end Fault

end Bindery
