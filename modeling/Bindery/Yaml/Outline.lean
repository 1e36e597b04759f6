import Bindery.Sequence
import Bindery.Stack
import Bindery.Value.Text
import Bindery.Yaml.Schema

/-!
# What a YAML text is to say

An outline is a value as typed nodes, in which a part stands where it is met first; wherever it is
met again, only its mark does. A draft has an anchor in front of each part that is met again, and
the name of the anchor in the other places. Anchors are numbered in the order in which parts are
met again.
-/

namespace Bindery.Yaml

inductive Outline where
  /-- A part that was met before. -/
  | again (mark : Nat)
  | scalar (mark : Mark) (type : TypeTag) (text : Text)
  | sequence (mark : Mark) (items : List Outline)
  | mapping (mark : Mark) (type : TypeTag) (entries : List (Outline × Outline))
  deriving Inhabited

/-- Shortest digits; a point always stands before an exponent, and the words for infinity and
not-a-number start with a point. -/
def writtenFloat : Decimal.Layout :=
  { positionalFrom := -4, positionalBelow := 16, wholeEnding := ".0", loneDigitEnding := ".0"
    infinity := ".inf", notANumber := ".nan" }

/-- The digits of base 64. -/
def sixBitsDigit (n : Nat) : Char :=
  ("ABCDEFGHIJKLMNOPQRSTUVWXYZabcdefghijklmnopqrstuvwxyz0123456789+/".toList[n]?).getD '='

/-- Bytes in base 64, filled up with equals signs. -/
def base64Text : List UInt8 → List Char
  | [] => []
  | [a] =>
    let n := a.toNat * 16
    [sixBitsDigit (n / 64), sixBitsDigit (n % 64), '=', '=']
  | [a, b] =>
    let n := (a.toNat * 256 + b.toNat) * 4
    [sixBitsDigit (n / 4096), sixBitsDigit (n / 64 % 64), sixBitsDigit (n % 64), '=']
  | a :: b :: c :: rest =>
    let n := (a.toNat * 256 + b.toNat) * 256 + c.toNat
    sixBitsDigit (n / 262144) :: sixBitsDigit (n / 4096 % 64) :: sixBitsDigit (n / 64 % 64) ::
      sixBitsDigit (n % 64) :: base64Text rest

/-- How many characters of base 64 stand on a line. -/
def base64Width : Nat := 76

/-- Cuts a text into lines of a width, the last one ended as well. -/
def inLines (width : Nat) : Nat → List Char → List Char
  | _, [] => ['\n']
  | 0, c :: rest => '\n' :: c :: inLines width (width - 1) rest
  | left + 1, c :: rest => c :: inLines width left rest

/-- Bytes as lines of base 64. -/
def binaryText (bs : List UInt8) : String :=
  if bs.isEmpty then "" else String.ofList (inLines base64Width base64Width (base64Text bs))

namespace Outline

/-- The type and text of a scalar. A time of day alone has none. -/
def scalarForm : Scalar → Except Fault (TypeTag × Text)
  | .null => .ok (.null, "null")
  | .bool b => .ok (.bool, if b then "true" else "false")
  | .int n => return (.int, ← integerText n)
  | .float x => .ok (.float, writtenFloat.write x)
  | .text s => .ok (.str, s)
  | .bytes bs => .ok (.binary, binaryText bs)
  | .date d => .ok (.timestamp, d.iso)
  | .dateTime t => .ok (.timestamp, t.iso " ")
  | .time _ => .error .unwritable

/-- The mark that counts for a scalar: numbers are written out everywhere. -/
def scalarMark (mark : Nat) : Scalar → Mark
  | .float _ => none
  | _ => some mark

/-- Outlines with the marks of the parts met so far. -/
abbrev Survey := StateT (List Nat) (Except Fault)

/-- The outline of a part: its mark alone where it was met before. -/
def meet (mark : Mark) (outline : Survey Outline) : Survey Outline := do
  match mark with
  | none => outline
  | some n =>
    if (← get).contains n then return .again n
    modify (n :: ·)
    outline

/-- The greatest weight of the collections around a value. -/
def heaviest [Stack] : Nat := Stack.yamlWritten

/-- What a collection adds to the weight around its parts. -/
def collectionWeight : Nat := 3

/-- Refuses a value with too much around it. -/
def checkWeight [Stack] (weight : Nat) : Survey Unit :=
  if heaviest < weight then throw .tooDeep else return

mutual

/-- The outline of a value, part by part in the order of writing, with a weight of collections
around it. -/
def survey [Stack] (weight : Nat) (v : Value) : Survey Outline := do
  checkWeight weight
  match v with
  | .scalar s =>
    let (type, text) ← scalarForm s
    return .scalar none type text
  | .marked n s => meet (scalarMark n s) do
    let (type, text) ← scalarForm s
    return .scalar (scalarMark n s) type text
  | .list mark items => meet mark do
    return .sequence mark (← surveyItems (weight + collectionWeight) items)
  | .table mark entries => meet mark do
    return .mapping mark .map (← surveyEntries (weight + collectionWeight) entries)
  | .set mark members => meet mark do
    return .mapping mark .set (← surveyMembers (weight + collectionWeight) members)
  | .pair mark a b => meet mark do
    let first ← survey (weight + collectionWeight) a
    return .sequence mark [first, ← survey (weight + collectionWeight) b]

def surveyItems [Stack] (weight : Nat) : List Value → Survey (List Outline)
  | [] => return []
  | v :: rest => do
    let item ← survey weight v
    return item :: (← surveyItems weight rest)

def surveyEntries [Stack] (weight : Nat) : List (Value × Value) → Survey (List (Outline × Outline))
  | [] => return []
  | (k, v) :: rest => do
    let key ← survey weight k
    let value ← survey weight v
    return (key, value) :: (← surveyEntries weight rest)

/-- The members of a set, each with nothing as its value. -/
def surveyMembers [Stack] (weight : Nat) : List Value → Survey (List (Outline × Outline))
  | [] => return []
  | k :: rest => do
    let key ← survey weight k
    return (key, .scalar none .null "null") :: (← surveyMembers weight rest)

end

/-- The outline of a value. -/
def ofValue [Stack] (v : Value) : Except Fault Outline := (survey 0 v).run' []

mutual

/-- The marks of the parts that are met again, each as often as it is, in order. -/
def repeated : Outline → List Nat
  | .again n => [n]
  | .scalar _ _ _ => []
  | .sequence _ items => repeatedInItems items
  | .mapping _ _ entries => repeatedInEntries entries

def repeatedInItems : List Outline → List Nat
  | [] => []
  | o :: rest => o.repeated ++ repeatedInItems rest

def repeatedInEntries : List (Outline × Outline) → List Nat
  | [] => []
  | (k, v) :: rest => k.repeated ++ v.repeated ++ repeatedInEntries rest

end

end Outline

/-- Typed nodes, each behind an anchor if others name it, or the name of an anchor. -/
inductive Draft where
  | alias (anchor : Nat)
  | scalar (anchor : Option Nat) (type : TypeTag) (text : Text)
  | sequence (anchor : Option Nat) (items : List Draft)
  | mapping (anchor : Option Nat) (type : TypeTag) (entries : List (Draft × Draft))
  deriving Inhabited

namespace Draft

/-- The anchor of a part, numbered by its place among those that are met again. -/
def anchorOf (repeated : List Nat) (mark : Mark) : Option Nat :=
  mark.bind fun n => (repeated.idxOf? n).map (· + 1)

mutual

/-- The draft of an outline; `repeated` are the marks of the parts that are met again. -/
def ofOutline (repeated : List Nat) : Outline → Draft
  | .again n => .alias ((anchorOf repeated (some n)).getD 0)
  | .scalar mark type text => .scalar (anchorOf repeated mark) type text
  | .sequence mark items => .sequence (anchorOf repeated mark) (ofItems repeated items)
  | .mapping mark type entries =>
    .mapping (anchorOf repeated mark) type (ofEntries repeated entries)

def ofItems (repeated : List Nat) : List Outline → List Draft
  | [] => []
  | o :: rest => ofOutline repeated o :: ofItems repeated rest

def ofEntries (repeated : List Nat) : List (Outline × Outline) → List (Draft × Draft)
  | [] => []
  | (k, v) :: rest => (ofOutline repeated k, ofOutline repeated v) :: ofEntries repeated rest

end

/-- The draft of a value. -/
def ofValue [Stack] (v : Value) : Except Fault Draft := do
  let outline ← Outline.ofValue v
  return ofOutline (Sequence.distinct outline.repeated) outline

end Draft

end Bindery.Yaml
