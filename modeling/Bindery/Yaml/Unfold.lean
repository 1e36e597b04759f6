import Bindery.Stack
import Bindery.Yaml.Parts

/-!
# A value from numbered parts

A value is a tree, so a part that stands in several places is written out in each of them, with
its mark (`valueOf`). Parts become values in rounds, each round from what the one before has made;
a part is complete when all that it holds is. A collection that holds itself never is: it is
written out inside itself as often as there are rounds, which is deeper than anything goes that
does not stop at a mark it has met before.
-/

namespace Bindery.Yaml

/-- A part as far as it is written out. -/
structure Unfolded where
  value : Value
  isComplete : Bool
  deriving Inhabited

/-- What a part is before the first round. -/
def Unfolded.start : Unfolded := ⟨.null, false⟩

abbrev Unfoldings := Array Unfolded

def Unfoldings.at (us : Unfoldings) (n : Nat) : Unfolded := us[n]?.getD .start

/-- A part with its number, from what is written out of its own parts. -/
def Part.unfold (us : Unfoldings) (n : Nat) : Part → Unfolded
  | .scalar v => ⟨v, true⟩
  | .list items =>
    let items := items.map us.at
    ⟨.list (some (markOf n)) (items.map (·.value)), items.all (·.isComplete)⟩
  | .table entries =>
    let entries := entries.map fun (k, v) => (k, us.at v)
    ⟨.table (some (markOf n)) (entries.map fun (k, v) => (k, v.value)),
      entries.all (·.2.isComplete)⟩
  | .set members => ⟨.set (some (markOf n)) members, true⟩
  | .pair a b =>
    let a := us.at a
    let b := us.at b
    ⟨.pair (some (markOf n)) a.value b.value, a.isComplete && b.isComplete⟩

/-- Writes the parts below a number out one step further, those with higher numbers first. -/
def roundBelow (parts : Array (Option Part)) : Nat → Unfoldings → Unfoldings
  | 0, us => us
  | n + 1, us =>
    match parts[n]?.join with
    | some part =>
      roundBelow parts n
        (if (us.at n).isComplete then us else us.setIfInBounds n (part.unfold us n))
    | none => roundBelow parts n us

/-- As many rounds as the part with the number zero needs, at most `fuel`. -/
def rounds (parts : Array (Option Part)) : Nat → Unfoldings → Unfoldings
  | 0, us => us
  | fuel + 1, us =>
    if (us.at 0).isComplete then us else rounds parts fuel (roundBelow parts parts.size us)

/-- How often a part that holds itself is written out: so often that writing it is too deep. -/
def deepestUnfolding [Stack] : Nat := max 1000 (max Stack.tomlWritten Stack.yamlWritten)

/-- The value of the part with the number zero. A round completes a part, unless all that are
left hold themselves. -/
def valueOf [Stack] (parts : Array (Option Part)) : Value :=
  let start := parts.map fun _ => Unfolded.start
  ((rounds parts (parts.size + deepestUnfolding) start).at 0).value

end Bindery.Yaml
