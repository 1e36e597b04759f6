/-!
# Powers of two and ten

The scales of binary and decimal numbers.
-/

namespace Bindery.Number

/-- Two to the power `e`. -/
abbrev twoTo (e : Nat) : Nat := Nat.pow 2 e

/-- Ten to the power `e`. -/
abbrev tenTo (e : Nat) : Nat := Nat.pow 10 e

end Bindery.Number
