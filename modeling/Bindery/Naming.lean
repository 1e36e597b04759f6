import Bindery.Text.Blank
import Bindery.Text.Case

/-!
# Names in generated code

Interface names are words held apart by underscores, hyphens and blanks. A type name is its
words with their first letters capital, run together; a member name is the same with a small
first letter.
-/

namespace Bindery.Naming

/-- The characters between words. -/
def isSeparator (c : Char) : Bool := c == '_' || c == '-' || Text.isBlank c

/-- The words of a name, none of them empty. -/
def words (name : Text) : List Text :=
  (Text.splitWhere (·.is isSeparator) name).filter fun word => !word.isEmpty

/-- A word with its first letter capital. -/
def capitalized : Text → Text
  | [] => []
  | c :: rest => Text.formOf Text.capital c ++ rest

/-- A text with its first letter small. -/
def uncapitalized : Text → Text
  | [] => []
  | c :: rest => Text.formOf Text.small c ++ rest

/-- A type name, such as `PointValue`: the words of a name, capitalized and run together. -/
def pascal (name : Text) : Text := (words name).flatMap capitalized

/-- A member name, such as `pointValue`. -/
def camel (name : Text) : Text := uncapitalized (pascal name)

end Bindery.Naming
