import Bindery.Text.Basic
import Bindery.Text.CaseContext
import Bindery.Text.CaseRuns

/-!
# Capital and small letters

The capital and the small form of a character as a text, since a form may have several
characters (`ß` becomes `SS`). ASCII is decided by core's own functions; all other characters
by the tables. One capital, the sigma, has a small form of its own at the end of a word.
-/

namespace Bindery.Text

/-- The form a table gives a character: an expansion, a run's neighbour, or itself. -/
def mapped (runs : List CaseRun) (expansions : List (Nat × List Nat)) (c : Char) : List Char :=
  match expansions.lookup c.toNat with
  | some form => form.map Char.ofNat
  | none =>
    match runs.find? (·.covers c.toNat) with
    | some run => [Char.ofNat (c.toNat + run.shift).toNat]
    | none => [c]

/-- The capital form of a character. -/
def capital (c : Char) : List Char :=
  if c.toNat < 128 then [c.toUpper] else mapped capitalRuns capitalExpansions c

/-- The small form of a character that stands alone. -/
def small (c : Char) : List Char :=
  if c.toNat < 128 then [c.toLower] else mapped smallRuns smallExpansions c

/-- A code point in a form that characters have. -/
def formOf (form : Char → List Char) : CodePoint → Text
  | .char c => ofChars (form c)
  | .surrogate n => [.surrogate n]

/-- The text in capitals. -/
def capitals (s : Text) : Text := s.flatMap (formOf capital)

/-- Whether the first character that is not looked through has a case. -/
def startsCased (s : Text) : Bool :=
  (s.dropWhile (·.is isCaseIgnorable)).head?.any (·.is isCased)

/-- The small form of a sigma between two texts, the first one backwards: it ends a word when a
letter stands in front and none behind. -/
def smallSigma (before after : Text) : Char :=
  if startsCased before && !startsCased after then 'ς' else 'σ'

/-- The small letters of a text that stands behind another, which is given backwards. -/
def smallsAfter (before : Text) : Text → Text
  | [] => []
  | c :: rest =>
    (if c = 'Σ' then [.char (smallSigma before rest)] else formOf small c) ++
      smallsAfter (c :: before) rest

/-- The text in small letters. -/
def smalls (s : Text) : Text := smallsAfter [] s

/-- The text with its ASCII letters small. Enough to recognise a fixed ASCII word in any case
when no other character has a small form among the word's letters. -/
def asciiSmall (s : Text) : Text := s.flatMap (formOf fun c => [c.toLower])

end Bindery.Text
