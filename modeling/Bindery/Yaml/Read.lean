import Bindery.Yaml.Unfold

/-!
# Reading a YAML document

A text's tokens make nodes, nodes make parts, and the parts make the value.
-/

namespace Bindery.Yaml

/-- The characters that a text may hold. -/
def isTextChar (c : Char) : Bool :=
  let n := c.toNat
  n == 9 || n == 10 || n == 13 || (0x20 ≤ n && n ≤ 0x7E) || n == 0x85 ||
    (0xA0 ≤ n && n ≤ 0xD7FF) || (0xE000 ≤ n && n ≤ 0xFFFD) || 0x10000 ≤ n

/-- The value that a text writes, null when it writes none. -/
def read [Stack] (s : String) : Except ReadProblem Value := do
  if !s.toList.all isTextChar then throw .malformed
  let nodes ← Graph.ofTokens (Token.scan s.toList)
  if nodes.isEmpty then return .null
  return valueOf (← partsOf nodes)

end Bindery.Yaml
