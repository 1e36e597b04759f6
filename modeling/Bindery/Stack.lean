/-!
# The room on the stack

Values that hold values are gone through by functions that call themselves, and so are types within
types and directories below directories. Such calls stop when the stack is full. How far they get
depends on who makes them: it is a parameter of everything that makes them (`Stack`), with the room
that is left below a command as its usual value.
-/

namespace Bindery

/-- How much the stack has room for: one type and one directory at least. -/
class Stack where
  /-- How many types may stand inside one another. -/
  types : Nat
  types_pos : 0 < types
  /-- How many directories can be made at once. -/
  dirs : Nat
  dirs_pos : 0 < dirs
  /-- How many lists and objects of JSON may stand inside one another. -/
  json : Nat
  /-- The greatest weight of the lists and inline tables around a value of TOML that is read. -/
  tomlRead : Nat
  /-- The greatest weight of what stands around a value of TOML that is written. -/
  tomlWritten : Nat
  /-- How many collections of YAML that is read may stand inside one another. -/
  yamlRead : Nat
  /-- The greatest weight of the collections around a value of YAML that is written. -/
  yamlWritten : Nat

/-- The room below a command, when the stack has room for a thousand calls. -/
instance : Stack where
  types := 960
  types_pos := by decide
  dirs := 980
  dirs_pos := by decide
  json := 970
  tomlRead := 970
  tomlWritten := 984
  yamlRead := 484
  yamlWritten := 981

end Bindery
