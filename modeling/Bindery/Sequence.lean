import Bindery.Text.Basic

/-!
# Lists without repetition and in order
-/

namespace Bindery.Sequence

/-- The members of a list at their first places. -/
def distinct {α : Type} [DecidableEq α] (xs : List α) : List α :=
  xs.foldl (fun seen x => if x ∈ seen then seen else seen ++ [x]) []

/-- Whether a text comes no later than another, by code points. -/
def textLe (a b : Text) : Bool := !decide (b.numbers < a.numbers)

/-- Texts in order of their code points. -/
def sortedTexts (xs : List Text) : List Text := xs.mergeSort textLe

/-- Pairs in order of their first texts. -/
def sortedByKey {α : Type} (xs : List (Text × α)) : List (Text × α) :=
  xs.mergeSort fun a b => textLe a.1 b.1

end Bindery.Sequence
