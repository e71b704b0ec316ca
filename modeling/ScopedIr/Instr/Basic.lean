import ScopedIr.Symbol.Basic
import ScopedIr.Scope.Kind
import ScopedIr.Instr.Opcode

/-!
# Instructions

An instruction is an operation with its operands, one constructor per opcode, and the
metadata of where it came from. The metadata is never part of an instruction's identity:
two instructions are the same when their operations are, where a call also forgets which
call-like opcode it carries (`Operation.shape`).

Most constructors take any operands; two check them (`condJump?` wants a `bool` condition,
`callAs?` a call-like opcode) and report an `InstrError` otherwise.
-/

namespace ScopedIr

/-- Unary operators. -/
inductive UnaryOp where
  | neg | not | bitNot
  deriving DecidableEq, Repr, Hashable

/-- Binary operators. -/
inductive BinaryOp where
  | add | sub | mul | div | rem | pow | and | or | bitAnd | bitOr | bitXor | shl | shr
  deriving DecidableEq, Repr, Hashable

/-- Comparison operators. -/
inductive CompareOp where
  | eq | ne | lt | le | gt | ge
  deriving DecidableEq, Repr, Hashable

/-- The symbol of a unary operator. -/
def UnaryOp.symbol : UnaryOp → String
  | neg => "-" | not => "!" | bitNot => "~"

/-- The symbol of a binary operator. -/
def BinaryOp.symbol : BinaryOp → String
  | add => "+" | sub => "-" | mul => "*" | div => "/" | rem => "%" | pow => "**"
  | and => "&&" | or => "||" | bitAnd => "&" | bitOr => "|" | bitXor => "^"
  | shl => "<<" | shr => ">>"

/-- The symbol of a comparison operator. -/
def CompareOp.symbol : CompareOp → String
  | eq => "==" | ne => "!=" | lt => "<" | le => "<=" | gt => ">" | ge => ">="

/-- The unary operator written `s`. -/
def UnaryOp.ofSymbol? (s : String) : Option UnaryOp :=
  [neg, not, bitNot].find? (·.symbol == s)

/-- The binary operator written `s`. -/
def BinaryOp.ofSymbol? (s : String) : Option BinaryOp :=
  [add, sub, mul, div, rem, pow, and, or, bitAnd, bitOr, bitXor, shl, shr].find? (·.symbol == s)

/-- The comparison operator written `s`. -/
def CompareOp.ofSymbol? (s : String) : Option CompareOp :=
  [eq, ne, lt, le, gt, ge].find? (·.symbol == s)

/-- Where an instruction came from, and whether it carries debug information. -/
structure Metadata where
  line : Option Nat := none
  column : Option Nat := none
  filename : Option String := none
  debug : Bool := false
  deriving DecidableEq, Repr, Inhabited

/-- `file:line:column`, `file:line` or `file`, with `<unknown>` for a missing file name. -/
def Metadata.render (m : Metadata) : String :=
  let file := m.filename.getD "<unknown>"
  match m.line, m.column with
  | some line, some column => file ++ ":" ++ toString line ++ ":" ++ toString column
  | some line, none => file ++ ":" ++ toString line
  | none, _ => file

/-- A storage location an instruction writes to. -/
inductive Slot where
  | variable (v : Variable)
  | constant (c : Constant)
  deriving DecidableEq, Repr, Hashable

/-- A value an instruction reads. -/
inductive Value where
  | variable (v : Variable)
  | constant (c : Constant)
  | literal (value : ConstValue)
  deriving DecidableEq, Repr, Hashable

/-- The name of the symbol in a slot. -/
def Slot.name : Slot → String
  | .variable v => v.name
  | .constant c => c.name

/-- The type of the symbol in a slot. -/
def Slot.type : Slot → DataType
  | .variable v => v.type
  | .constant c => c.type

/-- Text form of a value: the symbol's name, or the literal's text. -/
def Value.render : Value → String
  | .variable v => v.name
  | .constant c => c.name
  | .literal value => value.render

/-- The type of a value. -/
def Value.type : Value → DataType
  | .variable v => v.type
  | .constant c => c.type
  | .literal value => .primitive value.type

/-- The opcode a call carries: `CALL` itself or an extension opcode. -/
inductive CallCode where
  | call
  | extension (code : ExtCode)
  deriving DecidableEq, Repr, Hashable

/-- The opcode of a call code. -/
def CallCode.toOpcode : CallCode → Opcode
  | .call => .control .call
  | .extension e => .extension e

/-- The call code of a call-like opcode. -/
def CallCode.ofOpcode? : Opcode → Except InstrError CallCode
  | .control .call => .ok .call
  | .extension e => .ok (.extension e)
  | op => .error (.notCallLike op.render)

/-- The operation of an instruction with its operands; one constructor per opcode, and
`call` for `CALL` and for every call-like extension opcode. -/
inductive Operation where
  /-- Unconditional jump to the named scope. -/
  | jump (target : String)
  /-- Jumps to `ifTrue` when the condition holds, else to `ifFalse` or falls through. -/
  | condJump (cond : Variable) (ifTrue : String) (ifFalse : Option String)
  | function (f : Function)
  | call (code : CallCode) (result : Slot) (callee : Function) (args : List Value)
  | ret (value : Option Value)
  | scopeBegin (name : String) (kind : ScopeKind)
  | scopeEnd
  /-- Leaves the named loop scope. -/
  | breakLoop (target : String)
  /-- Starts the next iteration of the named loop scope. -/
  | continueLoop (target : String)
  | declare (slot : Slot)
  | release (name : String)
  | assign (target : Slot) (source : Value)
  | unary (result : Slot) (op : UnaryOp) (operand : Value)
  | binary (result : Slot) (op : BinaryOp) (left right : Value)
  | compare (result : Slot) (op : CompareOp) (left right : Value)
  /-- Converts a value to a primitive or a class type. -/
  | cast (result : Slot) (target : DataType) (value : Value)
  | classDef (cls : ClassRef)
  | newObj (result : Slot) (cls : ClassRef) (args : List Value)
  | getField (result : Slot) (object : Value) (field : String)
  | setField (object : Variable) (field : String) (value : Value)
  | callMethod (result : Slot) (object : Value) (method : Function) (args : List Value)
  /-- A verbatim fragment of the target language, opaque to every pass. -/
  | raw (command : Value)
  /-- A debug checkpoint; its payload is the instruction's metadata. -/
  | debugInfo
  /-- A user-defined opcode with plain value operands. -/
  | extension (code : ExtCode) (operands : List Value)
  deriving DecidableEq, Repr, Hashable

namespace Operation

/-- The opcode of an operation. -/
def opcode : Operation → Opcode
  | jump .. => .control .jump
  | condJump .. => .control .condJump
  | function .. => .control .function
  | call code .. => code.toOpcode
  | ret .. => .control .ret
  | scopeBegin .. => .control .scopeBegin
  | scopeEnd => .control .scopeEnd
  | breakLoop .. => .control .breakLoop
  | continueLoop .. => .control .continueLoop
  | declare .. => .value .declare
  | release .. => .value .release
  | assign .. => .value .assign
  | unary .. => .value .unary
  | binary .. => .value .binary
  | compare .. => .value .compare
  | cast .. => .value .cast
  | classDef .. => .object .classDef
  | newObj .. => .object .newObj
  | getField .. => .object .getField
  | setField .. => .object .setField
  | callMethod .. => .object .callMethod
  | raw .. => .directive .raw
  | debugInfo => .directive .debugInfo
  | extension e _ => .extension e

/-- The operation with the opcode of a call forgotten: what makes two instructions the
same. -/
def shape : Operation → Operation
  | call _ result callee args => call .call result callee args
  | op => op

end Operation

/-- One instruction: an operation and the metadata of where it came from. -/
structure Instruction where
  op : Operation
  origin : Metadata := {}
  deriving Repr

namespace Instruction

/-- The opcode of the instruction. -/
def opcode (i : Instruction) : Opcode := i.op.opcode

/-- The same instruction at another position. -/
def withMeta (i : Instruction) (m : Metadata) : Instruction := { i with origin := m }

/-- Two instructions are the same when their operations are, up to the opcode of a call;
metadata never counts. -/
def equiv (a b : Instruction) : Bool := a.op.shape == b.op.shape

/-- A hash that agrees with `equiv`. -/
def hashCode (i : Instruction) : UInt64 := hash i.op.shape

/-- Equal instructions hash equally. -/
theorem hashCode_eq_of_equiv {a b : Instruction} (h : a.equiv b = true) :
    a.hashCode = b.hashCode := by
  simp only [equiv, beq_iff_eq] at h
  simp only [hashCode, h]

/-- A conditional jump; the condition must be a `bool` variable. -/
def condJump? (cond : Variable) (ifTrue : String) (ifFalse : Option String) :
    Except InstrError Instruction :=
  if cond.type.isBool then .ok ⟨.condJump cond ifTrue ifFalse, {}⟩
  else .error (.nonBooleanCondition cond.name cond.type)

/-- A call carrying a call-like opcode other than `CALL`, or `CALL` itself. -/
def callAs? (opcode : Opcode) (result : Slot) (callee : Function) (args : List Value) :
    Except InstrError Instruction := do
  let code ← CallCode.ofOpcode? opcode
  return ⟨.call code result callee args, {}⟩

end Instruction

end ScopedIr
