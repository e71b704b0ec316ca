import ScopedIr.Symbol.Type

/-!
# Symbols

The named entities a scope can bind and an instruction can refer to: variables, constants,
function parameters, functions, classes (by their index in the class table) and unnamed
literals. Symbols compare by value; `Decl` adds the identity of the declaration that
introduced a binding, so that two equal symbols declared twice stay apart.
-/

namespace ScopedIr

/-- A named, mutable declaration. -/
structure Variable where
  name : String
  type : DataType
  deriving DecidableEq, Repr, Ord, Hashable, Inhabited

/-- A named, immutable declaration with its value. -/
structure Constant where
  name : String
  type : DataType
  value : ConstValue
  deriving DecidableEq, Repr, Ord, Hashable, Inhabited

/-- A function argument, with its zero-based position in the parameter list. -/
structure Parameter where
  name : String
  type : DataType
  position : Nat
  deriving DecidableEq, Repr, Ord, Hashable, Inhabited

/-- The variable a function body sees for a parameter. -/
def Parameter.toVariable (p : Parameter) : Variable := ⟨p.name, p.type⟩

/-- A function signature. Overloads differ in their return or parameter types. -/
structure Function where
  name : String
  returns : DataType
  params : List Parameter
  deriving DecidableEq, Repr, Ord, Hashable, Inhabited

namespace Function

/-- A function whose parameters have the given names and types, at positions `0, 1, …`. -/
def ofParams (name : String) (returns : DataType) (params : List (String × DataType)) :
    Function :=
  ⟨name, returns, (params.zipIdx).map fun (p, i) => ⟨p.1, p.2, i⟩⟩

/-- Number of parameters. -/
def arity (f : Function) : Nat := f.params.length

/-- `name(t1, t2) -> ret`, the types in their text form. -/
def signature (f : Function) : String :=
  f.name ++ "(" ++ ", ".intercalate (f.params.map (·.type.render)) ++ ") -> " ++
    f.returns.render

end Function

/-- What a scope binds for a class: its name and its index in the class table. -/
structure ClassRef where
  name : String
  index : Nat
  deriving DecidableEq, Repr, Ord, Hashable, Inhabited

/-- The kinds of symbols. -/
inductive SymbolKind where
  | literal
  | constant
  | variable
  | parameter
  | function
  | classRef
  deriving DecidableEq, Repr, Hashable, Inhabited

/-- The name of a symbol kind, as written in messages. -/
def SymbolKind.name : SymbolKind → String
  | .literal => "literal"
  | .constant => "constant"
  | .variable => "variable"
  | .parameter => "parameter"
  | .function => "function"
  | .classRef => "class"

/-- A symbol as a scope binds it. -/
inductive Symbol where
  | literal (value : ConstValue)
  | constant (c : Constant)
  | variable (v : Variable)
  | parameter (p : Parameter)
  | function (f : Function)
  | classRef (c : ClassRef)
  deriving DecidableEq, Repr, Hashable, Inhabited

namespace Symbol

/-- The kind of a symbol. -/
def kind : Symbol → SymbolKind
  | .literal _ => .literal
  | .constant _ => .constant
  | .variable _ => .variable
  | .parameter _ => .parameter
  | .function _ => .function
  | .classRef _ => .classRef

/-- The name a symbol is bound under; literals are unnamed. -/
def name : Symbol → String
  | .literal _ => ""
  | .constant c => c.name
  | .variable v => v.name
  | .parameter p => p.name
  | .function f => f.name
  | .classRef c => c.name

/-- The type of the value the symbol stands for; a function's is its return type. -/
def type : Symbol → DataType
  | .literal v => .primitive v.type
  | .constant c => c.type
  | .variable v => v.type
  | .parameter p => p.type
  | .function f => f.returns
  | .classRef c => .classRef c.index

end Symbol

/-- A binding: a symbol together with the serial number of the declaration that introduced
it. Serials are handed out by whoever creates declarations and are never reused. -/
structure Decl where
  symbol : Symbol
  serial : Nat
  deriving DecidableEq, Repr, Inhabited

namespace Decl

/-- The name the declaration binds. -/
def name (d : Decl) : String := d.symbol.name

/-- Whether two bindings come from the very same declaration. Class bindings are the same
declaration when they name the same class; all others when their serials agree. -/
def sameDeclaration (a b : Decl) : Bool :=
  match a.symbol, b.symbol with
  | .classRef x, .classRef y => x.index == y.index
  | .classRef _, _ => false
  | _, .classRef _ => false
  | _, _ => a.serial == b.serial && a.symbol.kind == b.symbol.kind

end Decl

end ScopedIr
