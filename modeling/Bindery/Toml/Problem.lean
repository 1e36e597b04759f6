import Bindery.Value.Basic

/-!
# Why a value has no form in TOML
-/

namespace Bindery.Toml

inductive Problem where
  /-- A value of a kind that TOML does not have. -/
  | kind (k : Kind)
  /-- A key that is no text. -/
  | key (shown : Text) (k : Kind)
  /-- A key of bytes or a pair, which cannot even be put between quotes. -/
  | unquotableKey (k : Kind)
  deriving DecidableEq, Repr

def Problem.message : Problem → Text
  | .kind k => "Object of type '" ++ k.name ++ "' is not TOML serializable"
  | .key shown k =>
    "Invalid mapping key '" ++ shown ++ "' of type '" ++ k.name ++ "'. A string is required."
  | .unquotableKey k => "can only concatenate str (not \"" ++ k.name ++ "\") to str"

end Bindery.Toml
