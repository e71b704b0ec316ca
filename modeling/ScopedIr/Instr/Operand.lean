import ScopedIr.Instr.Basic

/-!
# Operands

Every instruction lists its operands in the order of its opcode's schema, with argument
lists flattened in place and an absent optional operand left out. Passes that treat all
instructions alike read instructions through this list: the variables an instruction uses
are the names of its variable operands (duplicates kept), and its scope targets are its
scope-name operands. The text form of an instruction is its opcode followed by its operands
in parentheses.
-/

namespace ScopedIr

/-- One operand of an instruction. -/
inductive Operand where
  /-- A scope a jump-like instruction transfers control to. -/
  | scopeName (name : String)
  /-- A plain name: the scope being opened, the released variable, an object's field. -/
  | name (name : String)
  | scopeKind (kind : ScopeKind)
  | slot (s : Slot)
  | value (v : Value)
  | variable (v : Variable)
  | function (f : Function)
  | classRef (c : ClassRef)
  | type (t : DataType)
  | unaryOp (op : UnaryOp)
  | binaryOp (op : BinaryOp)
  | compareOp (op : CompareOp)
  deriving DecidableEq, Repr

namespace Operand

/-- Text form of an operand: names as they are, a literal by its value, a type by its text. -/
def render : Operand → String
  | scopeName n => n
  | name n => n
  | scopeKind k => k.name
  | slot s => s.name
  | value v => v.render
  | .variable v => v.name
  | function f => f.name
  | classRef c => c.name
  | type t => t.render
  | unaryOp op => op.symbol
  | binaryOp op => op.symbol
  | compareOp op => op.symbol

/-- The variable an operand names, if it is a variable operand, a variable slot or a
variable value. -/
def variableName? : Operand → Option String
  | .variable v => some v.name
  | slot (.variable v) => some v.name
  | value (.variable v) => some v.name
  | _ => none

/-- The scope an operand targets, if it is a scope name. -/
def target? : Operand → Option String
  | scopeName n => some n
  | _ => none

end Operand

namespace Operation

/-- The operands in schema order. -/
def operands : Operation → List Operand
  | jump t => [.scopeName t]
  | condJump c t f => [.variable c, .scopeName t] ++ (f.map Operand.scopeName).toList
  | function f => [.function f]
  | call _ r f args => .slot r :: .function f :: args.map .value
  | ret v => (v.map Operand.value).toList
  | scopeBegin n k => [.name n, .scopeKind k]
  | scopeEnd => []
  | breakLoop t => [.scopeName t]
  | continueLoop t => [.scopeName t]
  | declare s => [.slot s]
  | release n => [.name n]
  | assign t s => [.slot t, .value s]
  | unary r op v => [.slot r, .unaryOp op, .value v]
  | binary r op a b => [.slot r, .binaryOp op, .value a, .value b]
  | compare r op a b => [.slot r, .compareOp op, .value a, .value b]
  | cast r t v => [.slot r, .type t, .value v]
  | classDef c => [.classRef c]
  | newObj r c args => .slot r :: .classRef c :: args.map .value
  | getField r o f => [.slot r, .value o, .name f]
  | setField o f v => [.variable o, .name f, .value v]
  | callMethod r o m args => .slot r :: .value o :: .function m :: args.map .value
  | raw c => [.value c]
  | debugInfo => []
  | extension _ vs => vs.map .value

/-- Names of the variables the operation reads or writes, in operand order. -/
def usedVariables (op : Operation) : List String := op.operands.filterMap Operand.variableName?

/-- Scopes the operation transfers control to, in operand order. -/
def targets (op : Operation) : List String := op.operands.filterMap Operand.target?

/-- Forgetting a call's opcode keeps the operands. -/
@[simp] theorem operands_shape (op : Operation) : op.shape.operands = op.operands := by
  cases op <;> rfl

end Operation

namespace Instruction

/-- The operands of the instruction, in schema order. -/
def operands (i : Instruction) : List Operand := i.op.operands

/-- Names of the variables the instruction uses. -/
def usedVariables (i : Instruction) : List String := i.op.usedVariables

/-- Scopes the instruction transfers control to. -/
def targets (i : Instruction) : List String := i.op.targets

/-- `OPCODE(op, op, …)`. -/
def render (i : Instruction) : String :=
  i.opcode.render ++ "(" ++ ", ".intercalate (i.operands.map Operand.render) ++ ")"

/-- The text form prefixed with the numeric opcode: `0x24 OP(x, +, x, 1)`. -/
def renderCoded (i : Instruction) : String :=
  hexText2 i.opcode.code ++ " " ++ i.render

end Instruction

end ScopedIr
