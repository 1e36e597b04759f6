import Bindery.Yaml.Outline
import Bindery.Yaml.Pen

/-!
# Writing YAML

A document is written in block style: a mapping as lines of keys and values, a sequence as
lines behind dashes, at the column of its key where it is a value. A key that is long or has
several lines stands behind a question mark. Empty collections are a pair of brackets.
-/

namespace Bindery.Yaml

/-- The short form of a type's tag. -/
def shortTag (type : TypeTag) : String :=
  "!!" ++ ((typeNames.find? fun e => e.2 == type).map (·.1)).getD ""

/-- The name of an anchor: its number with three digits or more. -/
def anchorText (number : Nat) : String := "id" ++ paddedDigits 3 number

namespace Draft

/-- The mark of an anchor. -/
def anchorMark (anchor : Nat) : String := "&" ++ anchorText anchor

/-- How many characters an anchor takes. -/
def anchorWidth (anchor : Option Nat) : Nat := (anchor.map fun n => (anchorText n).length).getD 0

/-- Keys below this width stand in front of their values. -/
def simpleWidth : Nat := 128

/-- Whether a key stands in front of its value: it has one line that is not empty, and its
text with tag and anchor is not too wide. -/
def isSimpleKey : Draft → Bool
  | .alias n => decide ((anchorText n).length < simpleWidth)
  | .scalar anchor type text =>
    decide (anchorWidth anchor + (shortTag type).length + text.length < simpleWidth) &&
      !text.isEmpty && !isMultiline text
  | .sequence _ items => items.isEmpty
  | .mapping _ _ entries => entries.isEmpty

/-- Writes an anchor, where there is one. -/
def putAnchor (anchor : Option Nat) (p : Pen) : Pen :=
  match anchor with
  | some n => p.word (anchorMark n)
  | none => p

/-- The tag that a scalar needs: none where its style gives it its type. -/
def tagOf (type : TypeTag) (style : Style) : Option String :=
  if style = .plain || type = .str then none else some (shortTag type)

/-- Writes a scalar, continued at a column where it takes several lines. -/
def putScalar (type : TypeTag) (text : Text) (asKey : Bool) (n : Nat) (p : Pen) : Pen :=
  let style := styleOf type asKey text
  let p := match tagOf type style with
    | some tag => p.word tag
    | none => p
  match style with
  | .plain => p.plain (!asKey) n text.characters
  | .single => p.single (!asKey) n text.characters
  | .double => p.double (!asKey) n text
  | .block => p.block n text.characters

/-- The column of what a node at a column holds; the whole document stands at none. -/
def inner : Option Nat → Nat
  | none => 0
  | some n => n + 2

/-- The column of a sequence: that of its key where it is a value on the key's line. -/
def sequenceColumn (outer : Option Nat) (isValue : Bool) (p : Pen) : Nat :=
  match outer with
  | some n => if isValue && !p.isFresh then n else n + 2
  | none => 0

mutual

/-- Writes a node. `isValue` says that it belongs to a mapping, `asKey` that it stands in front
of its value. -/
def put (outer : Option Nat) (isValue asKey : Bool) : Draft → Pen → Pen
  | .alias n, p => p.word ("*" ++ anchorText n)
  | .scalar anchor type text, p =>
    putScalar type text asKey ((outer.getD 0) + 2) (putAnchor anchor p)
  | .sequence anchor items, p =>
    let p := putAnchor anchor p
    if items.isEmpty then ((p.mark "[").close "]")
    else putItems (sequenceColumn outer isValue p) items p
  | .mapping anchor type entries, p =>
    let p := putAnchor anchor p
    let p := if type = .map then p else p.word (shortTag type)
    if entries.isEmpty then ((p.mark "\x7b").close "\x7d")
    else putEntries (inner outer) entries p

def putItems (n : Nat) : List Draft → Pen → Pen
  | [], p => p
  | item :: rest, p => putItems n rest (put (some n) false false item ((p.indent n).mark "-"))

def putEntries (n : Nat) : List (Draft × Draft) → Pen → Pen
  | [], p => p
  | (key, value) :: rest, p =>
    let p := p.indent n
    let p :=
      if key.isSimpleKey then (put (some n) true true key p).close ":"
      else ((put (some n) true false key (p.mark "?")).indent n).mark ":"
    putEntries n rest (put (some n) true false value p)

end

end Draft

/-- The text of a table. -/
def write [Stack] (t : Table) : Except Fault String := do
  let draft ← Draft.ofValue (.table none t)
  return ((draft.put none false false {}).indent 0).text

end Bindery.Yaml
