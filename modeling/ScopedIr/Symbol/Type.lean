import ScopedIr.Text.Escaped

/-!
# Types and constant values

The primitive types of the source language, the types a symbol can have (a primitive or a
class of the class table, named by its index), and literal values. Each comes with its
text form; the order of each type is the derived one (constructors in declaration order,
then fields left to right), which is the order of the ordered sets of class members.
-/

namespace ScopedIr

/-- The primitive types of the source language. -/
inductive Primitive where
  | int
  | float
  | bool
  | string
  | null
  /-- Return type of functions that produce no value. -/
  | void
  deriving DecidableEq, Repr, Ord, Hashable, Inhabited

namespace Primitive

/-- The name of a primitive type, as written in listings and messages. -/
def name : Primitive → String
  | int => "int"
  | float => "float"
  | bool => "bool"
  | string => "string"
  | null => "null"
  | void => "void"

/-- All primitive types, in their order. -/
def all : List Primitive := [int, float, bool, string, null, void]

/-- The primitive type with the given name. -/
def ofName? (s : String) : Option Primitive := all.find? (·.name == s)

end Primitive

/-- What can stand where a type is expected: a primitive, or a class named by its index in
the class table. Two types are the same exactly when they are the same primitive or the same
class. -/
inductive DataType where
  | primitive (p : Primitive)
  | classRef (index : Nat)
  deriving DecidableEq, Repr, Ord, Hashable, Inhabited

namespace DataType

/-- Text form: the primitive's name, or `class#` and the class index. -/
def render : DataType → String
  | primitive p => p.name
  | classRef i => "class#" ++ toString i

/-- Whether the type is the primitive `bool`. -/
def isBool (t : DataType) : Bool := t == primitive .bool

instance : Coe Primitive DataType := ⟨primitive⟩

theorem isBool_iff (t : DataType) : t.isBool = true ↔ t = primitive .bool := by
  simp [isBool]

end DataType

/-- A literal value as written in the source. A float keeps its text and is never read as a
number. -/
inductive ConstValue where
  | int (value : Int)
  | float (text : String)
  | bool (value : Bool)
  | str (value : String)
  | null
  deriving DecidableEq, Repr, Ord, Hashable, Inhabited

namespace ConstValue

/-- The primitive type of a literal. -/
def type : ConstValue → Primitive
  | int _ => .int
  | float _ => .float
  | bool _ => .bool
  | str _ => .string
  | null => .null

/-- Text form: decimal integers, float text as written, `true`/`false`, quoted strings and
`null`. -/
def render : ConstValue → String
  | int v => toString v
  | float text => text
  | bool v => if v then "true" else "false"
  | str v => Text.quote v
  | null => "null"

end ConstValue

end ScopedIr
