import Bindery.Stack
import Bindery.Text.Case
import Bindery.Toml.Lexeme
import Bindery.Toml.Problem
import Bindery.Value.Text

/-!
# Writing TOML

A table is written as its plain entries, one a line, and then its subtables, each under a
header with the keys that lead to it and after a blank line. A header is left out where a table
holds nothing but subtables. A list of tables becomes a run of headers in double brackets when
one of its tables is too long for a line (`fits`); every other list is written with one item a
line. What stands around a value weighs, and a value with too much around it is not written.
-/

namespace Bindery.Toml

/-- The escape letters of a basic string. -/
def letterOf? : Char → Option Char
  | '\x08' => some 'b'
  | '\n' => some 'n'
  | '\x0c' => some 'f'
  | '\r' => some 'r'
  | '"' => some '"'
  | '\\' => some '\\'
  | _ => none

/-- A character of a basic string. -/
def escaped (c : Char) : List Char :=
  match letterOf? c with
  | some letter => ['\\', letter]
  | none => if isControl c then '\\' :: 'u' :: Text.hex 4 c.toNat else [c]

/-- A text as a basic string. -/
def stringText (s : Text) : Text := "\"" ++ s.flatMap (Text.formOf escaped) ++ "\""

/-- A text as a key, without quotes if it can do without. -/
def textKey (s : Text) : Text :=
  if !s.isEmpty && s.all (·.is isBareKey) then s else stringText s

/-- A written form, or why there is none: TOML has no form for it, or a fault stops the writing. -/
abbrev Written := ExceptT Problem (Except Fault)

/-- Whether a value is a text of one character that needs no quotes in a key. -/
def isBareLetter : Value → Bool
  | .text [c] => c.is isBareKey
  | _ => false

/-- A key as it stands in front of an equals sign or in a header. A pair of letters is taken as it
is shown. -/
def keyText : Value → Written Text
  | .text s => return textKey s
  | .scalar (.bytes _) => throw (.unquotableKey .bytes)
  | .pair mark a b =>
    if isBareLetter a && isBareLetter b then liftM (Value.pair mark a b).literal
    else throw (.unquotableKey .pair)
  | k => do throw (.key (← liftM k.shown) k.kind)

/-- A value without parts. -/
def scalarText : Scalar → Written Text
  | .null => throw (.kind .null)
  | .bytes _ => throw (.kind .bytes)
  | .bool b => return if b then "true" else "false"
  | .text s => return stringText s
  | s => liftM s.shown

/-- The spaces in front of an item on a level. -/
def indentation (level : Nat) : Text := List.replicate (4 * level) (.char ' ')

/-- The items of a list on a level, each on a line of its own. -/
def listText (level : Nat) (items : List Text) : Text :=
  if items.isEmpty then "[]"
  else
    let lines : Text := items.flatMap fun item => indentation (level + 1) ++ item ++ ",\n"
    "[\n" ++ lines ++ indentation level ++ "]"

/-- The entries of a table between braces. -/
def tableText (entries : List Text) : Text :=
  if entries.isEmpty then "\x7b\x7d" else "\x7b " ++ Text.joined ", " entries ++ " \x7d"

/-- The greatest weight of what stands around a value. -/
def heaviest [Stack] : Nat := Stack.tomlWritten

/-- What a list or a table between braces adds to the weight around its parts; a table under a
header adds one. -/
def inlineWeight : Nat := 4

/-- Refuses a value with too much around it. -/
def checkWeight [Stack] (weight : Nat) : Written Unit :=
  if heaviest < weight then liftM (Except.error (α := Unit) Fault.tooDeep) else return

mutual

/-- A value after an equals sign or in a list; lists in a table start from the margin. -/
def valueText [Stack] (weight level : Nat) (v : Value) : Written Text := do
  checkWeight weight
  match v with
  | .scalar s | .marked _ s => scalarText s
  | .list _ items => return listText level (← itemTexts (weight + inlineWeight) (level + 1) items)
  | .pair _ a b =>
    let first ← valueText (weight + inlineWeight) (level + 1) a
    return listText level [first, ← valueText (weight + inlineWeight) (level + 1) b]
  | .table _ entries => return tableText (← entryTexts (weight + inlineWeight) entries)
  | .set _ _ => throw (.kind .set)

def itemTexts [Stack] (weight level : Nat) : List Value → Written (List Text)
  | [] => return []
  | v :: rest => do
    let text ← valueText weight level v
    return text :: (← itemTexts weight level rest)

def entryTexts [Stack] (weight : Nat) : List (Value × Value) → Written (List Text)
  | [] => return []
  | (k, v) :: rest => do
    let key ← keyText k
    let text ← valueText weight 0 v
    return (key ++ " = " ++ text) :: (← entryTexts weight rest)

end

/-- The longest line that a table in a list may take. -/
def longestLine : Nat := 100

/-- Whether a table between braces fits on one line of a list. -/
def fits (text : Text) : Bool :=
  text.length + 5 ≤ longestLine && !text.contains '\n'

/-- Whether all of a list are tables. -/
def allTables (items : List Value) : Bool := items.all fun v => v.table?.isSome

/-- Whether each of a list of tables fits on a line; the first that does not decides. -/
def allFit [Stack] (weight : Nat) : List Value → Written Bool
  | [] => return true
  | v :: rest => do
    if fits (← valueText weight 0 v) then allFit weight rest else return false

/-- Whether there are tables in a list and nothing else, of which one does not fit on a line. -/
def areHeaded [Stack] (weight : Nat) (items : List Value) : Written Bool := do
  if !items.isEmpty && allTables items then
    return !(← allFit (weight + inlineWeight) items)
  else return false

/-- Whether a value is written under headers of its own. -/
def isHeaded [Stack] (weight : Nat) : Value → Written Bool
  | .table _ _ => return true
  | .list _ items => areHeaded weight items
  | .pair _ a b => areHeaded weight [a, b]
  | _ => return false

/-- The key of a table below another one. -/
def pathText (header key : Text) : Text := if header.isEmpty then key else header ++ "." ++ key

/-- The line of a header. -/
def headerLine (header : Text) (inList : Bool) : Text :=
  if inList then "[[" ++ header ++ "]]\n" else "[" ++ header ++ "]\n"

/-- The lines of the entries that have no header. -/
def plainLines [Stack] (weight : Nat) : Table → Written Text
  | [] => return ""
  | (k, v) :: rest => do
    if ← isHeaded weight v then plainLines weight rest
    else
      let key ← keyText k
      let text ← valueText weight 0 v
      return key ++ " = " ++ text ++ "\n" ++ (← plainLines weight rest)

/-- Whether each entry has a header, so that a fault of any is found first. -/
def headed [Stack] (weight : Nat) : Table → Written (List Bool)
  | [] => return []
  | (_, v) :: rest => do
    let here ← isHeaded weight v
    return here :: (← headed weight rest)

/-- What stands before the subtables of a table: its header and its plain entries, nothing for
the whole document or for a table of subtables only. -/
def opening [Stack] (weight : Nat) (header : Text) (inList : Bool) (t : Table) :
    Written (List Text) := do
  let flags ← headed weight t
  let bare := inList || (!header.isEmpty && (flags.any (!·) || flags.isEmpty))
  let front := if bare then headerLine header inList else ""
  let text := front ++ (← plainLines weight t)
  return if text.isEmpty then [] else [text]

mutual

/-- A table under its header. -/
def tableBlocks [Stack] (weight : Nat) (header : Text) (inList : Bool) (v : Value) :
    Written Text := do
  checkWeight weight
  match v with
  | .table _ entries =>
    let front ← opening weight header inList entries
    return Text.joined "\n" (front ++ (← subtables weight header entries))
  | _ => return ""

/-- The subtables of a table, one after another. -/
def subtables [Stack] (weight : Nat) (header : Text) : List (Value × Value) → Written (List Text)
  | [] => return []
  | (k, .table mark t) :: rest => do
    let block ← tableBlocks (weight + 1) (pathText header (← keyText k)) false (.table mark t)
    return block :: (← subtables weight header rest)
  | (k, .list _ items) :: rest => do
    if ← areHeaded weight items then
      let blocks ← listBlocks (weight + 1) (pathText header (← keyText k)) items
      return blocks ++ (← subtables weight header rest)
    else subtables weight header rest
  | (k, .pair _ a b) :: rest => do
    if ← areHeaded weight [a, b] then
      let header' := pathText header (← keyText k)
      let first ← tableBlocks (weight + 1) header' true a
      let blocks := [first, ← tableBlocks (weight + 1) header' true b]
      return blocks ++ (← subtables weight header rest)
    else subtables weight header rest
  | _ :: rest => subtables weight header rest

/-- The tables of a list, each under its header. -/
def listBlocks [Stack] (weight : Nat) (header : Text) : List Value → Written (List Text)
  | [] => return []
  | v :: rest => do
    let block ← tableBlocks weight header true v
    return block :: (← listBlocks weight header rest)

end

/-- The text of a document. -/
def write [Stack] (t : Table) : Written Text := tableBlocks 0 "" false (.table none t)

end Bindery.Toml
