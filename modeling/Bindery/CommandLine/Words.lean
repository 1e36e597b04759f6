import Bindery.Text.Blank

/-!
# Splitting a command into words

Words are held apart by blanks. Inside single quotes every character stands for itself, inside
double quotes a backslash protects a quote or another backslash, and outside it protects any
character. Quotes make a word even if nothing is between them.
-/

namespace Bindery.CommandLine

/-- Why a text is no command. -/
inductive WordsProblem where
  | openQuote
  | loneEscape
  deriving DecidableEq, Repr

def WordsProblem.message : WordsProblem → String
  | .openQuote => "No closing quotation"
  | .loneEscape => "No escaped character"

/-- The blanks between words. -/
def isWordBlank (c : Char) : Bool := c == ' ' || c == '\t' || c == '\r' || c == '\n'

/-- Where a reader of words is: in no quotes, in quotes of a kind, or behind a backslash. -/
inductive Quoting where
  | bare
  | within (quote : Char)
  | behind (quote : Option Char)
  deriving DecidableEq, Repr

/-- A word that has been begun, backwards. -/
def begun (word : Option Text) : Text := word.getD []

def finishedWord (word : Option Text) : List Text := (word.map List.reverse).toList

/-- Reads on from a place; `word` is the word begun there, if one is. -/
def wordsFrom : Quoting → Option Text → Text → Except WordsProblem (List Text)
  | .bare, word, [] => .ok (finishedWord word)
  | .within _, _, [] => .error .openQuote
  | .behind _, _, [] => .error .loneEscape
  | .bare, word, c :: rest =>
    if c.is isWordBlank then (wordsFrom .bare none rest).map (finishedWord word ++ ·)
    else if c == '\\' then wordsFrom (.behind none) word rest
    else if c == '\'' then wordsFrom (.within '\'') (some (begun word)) rest
    else if c == '"' then wordsFrom (.within '"') (some (begun word)) rest
    else wordsFrom .bare (some (c :: begun word)) rest
  | .within quote, word, c :: rest =>
    if c == quote then wordsFrom .bare word rest
    else if c == '\\' && quote == '"' then wordsFrom (.behind (some quote)) word rest
    else wordsFrom (.within quote) (some (c :: begun word)) rest
  | .behind none, word, c :: rest => wordsFrom .bare (some (c :: begun word)) rest
  | .behind (some quote), word, c :: rest =>
    if c == '\\' || c == quote then wordsFrom (.within quote) (some (c :: begun word)) rest
    else wordsFrom (.within quote) (some (c :: .char '\\' :: begun word)) rest

/-- The words of a command. -/
def words (s : Text) : Except WordsProblem (List Text) := wordsFrom .bare none s

end Bindery.CommandLine
