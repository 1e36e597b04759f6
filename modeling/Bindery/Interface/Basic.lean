import Bindery.Value.Basic

/-!
# Interface descriptions

The exported surface of one native component: its namespace, the name of its crate, and the
functions, records and enums as the tables that describe them.
-/

namespace Bindery

structure Interface where
  component : Text
  crateName : Text
  functions : List Table := []
  records : List Table := []
  enums : List Table := []
  deriving Inhabited

end Bindery
