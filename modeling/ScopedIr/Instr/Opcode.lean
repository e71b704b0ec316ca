import ScopedIr.Symbol.Type

/-!
# Opcodes

The closed set of opcodes, grouped in bands, and the open range of extension opcodes at or
above `0x80`. Each opcode has a name, a band and a numeric code: the bands start at `0x00`
(control), `0x20` (values), `0x40` (objects) and `0x60` (meta), and an opcode's code is the
start of its band plus its place in the band. An extension opcode's code is its own number.

Instruction construction can fail in three ways, collected in `InstrError`; one of them,
`reservedOpcode`, is the refusal of an extension code below `0x80`.
-/

namespace ScopedIr

/-- `0x` and the lowercase hexadecimal digits of `n`. -/
def hexText (n : Nat) : String := "0x" ++ String.ofList (Nat.toDigits 16 n)

/-- `0x` and at least two lowercase hexadecimal digits of `n`. -/
def hexText2 (n : Nat) : String :=
  let ds := Nat.toDigits 16 n
  "0x" ++ String.ofList (List.replicate (2 - ds.length) '0' ++ ds)

/-- Control flow opcodes. -/
inductive ControlOp where
  | jump | condJump | function | call | ret | scopeBegin | scopeEnd | breakLoop | continueLoop
  deriving DecidableEq, Repr, Hashable

/-- Variable and value opcodes. -/
inductive ValueOp where
  | declare | release | assign | unary | binary | compare | cast
  deriving DecidableEq, Repr, Hashable

/-- Object opcodes. -/
inductive ObjectOp where
  | classDef | newObj | getField | setField | callMethod
  deriving DecidableEq, Repr, Hashable

/-- Escape hatches and debug markers. -/
inductive MetaOp where
  | raw | debugInfo
  deriving DecidableEq, Repr, Hashable

/-- A user-defined opcode; its code is at least `0x80`. -/
structure ExtCode where
  code : Nat
  above : 0x80 ≤ code
  deriving DecidableEq

instance : Hashable ExtCode := ⟨fun e => hash e.code⟩

instance : Repr ExtCode := ⟨fun e _ => repr e.code⟩

/-- Why an instruction could not be built. -/
inductive InstrError where
  /-- A conditional jump on a variable whose type is not `bool`. -/
  | nonBooleanCondition (name : String) (found : DataType)
  /-- A call built with an opcode other than `CALL` or an extension opcode; the opcode is
  given in its text form. -/
  | notCallLike (opcode : String)
  /-- An extension opcode below `0x80`. -/
  | reservedOpcode (code : Nat)
  deriving DecidableEq, Repr

namespace InstrError

/-- The name of the error variant. -/
def kindName : InstrError → String
  | nonBooleanCondition .. => "NonBooleanCondition"
  | notCallLike .. => "NotCallLike"
  | reservedOpcode .. => "ReservedOpcode"

/-- The message of the error. -/
def message : InstrError → String
  | nonBooleanCondition name found =>
    "condition " ++ Text.quote name ++ " must be a bool, found " ++ found.render
  | notCallLike opcode => "opcode " ++ opcode ++ " can't carry a call"
  | reservedOpcode code => "opcode " ++ hexText2 code ++ " is outside the extension range"

end InstrError

/-- The extension opcode with code `n`, refused below `0x80`. -/
def ExtCode.ofNat? (n : Nat) : Except InstrError ExtCode :=
  if h : 0x80 ≤ n then .ok ⟨n, h⟩ else .error (.reservedOpcode n)

theorem ExtCode.ofNat?_eq_error_iff (n : Nat) :
    (∃ e, ExtCode.ofNat? n = .error e) ↔ n < 0x80 := by
  unfold ExtCode.ofNat?
  by_cases h : 0x80 ≤ n
  · rw [dif_pos h]
    constructor
    · rintro ⟨e, he⟩
      cases he
    · intro hn
      omega
  · rw [dif_neg h]
    exact ⟨fun _ => by omega, fun _ => ⟨_, rfl⟩⟩

/-- The bands of the opcode table. -/
inductive OpcodeBand where
  | control | value | object | directive | extension
  deriving DecidableEq, Repr

/-- The name of a band. -/
def OpcodeBand.name : OpcodeBand → String
  | control => "control"
  | value => "value"
  | object => "object"
  | directive => "meta"
  | extension => "extension"

/-- An opcode: one of the closed bands, or an extension. -/
inductive Opcode where
  | control (op : ControlOp)
  | value (op : ValueOp)
  | object (op : ObjectOp)
  | directive (op : MetaOp)
  | extension (code : ExtCode)
  deriving DecidableEq, Repr, Hashable

namespace Opcode

/-- The band an opcode belongs to. -/
def band : Opcode → OpcodeBand
  | control _ => .control
  | value _ => .value
  | object _ => .object
  | directive _ => .directive
  | extension _ => .extension

/-- Opcodes whose instruction has the shape of a call: `CALL` and every extension. -/
def isCallLike : Opcode → Bool
  | control .call => true
  | extension _ => true
  | _ => false

/-- The opcode's name; every extension is `EXT`. -/
def name : Opcode → String
  | control .jump => "JUMP"
  | control .condJump => "COND_JUMP"
  | control .function => "FUNCTION"
  | control .call => "CALL"
  | control .ret => "RETURN"
  | control .scopeBegin => "SCOPE_BEGIN"
  | control .scopeEnd => "SCOPE_END"
  | control .breakLoop => "BREAK"
  | control .continueLoop => "CONTINUE"
  | value .declare => "DECLARE"
  | value .release => "VAR_RELEASE"
  | value .assign => "ASSIGN"
  | value .unary => "UNARY_OP"
  | value .binary => "OP"
  | value .compare => "COMPARE"
  | value .cast => "CAST"
  | object .classDef => "CLASS"
  | object .newObj => "NEW_OBJ"
  | object .getField => "GET_FIELD"
  | object .setField => "SET_FIELD"
  | object .callMethod => "CALL_METHOD"
  | directive .raw => "RAW_CMD"
  | directive .debugInfo => "DEBUG_INFO"
  | extension _ => "EXT"

/-- Every opcode of the closed bands, in table order. -/
def closed : List Opcode :=
  [.control .jump, .control .condJump, .control .function, .control .call, .control .ret,
   .control .scopeBegin, .control .scopeEnd, .control .breakLoop, .control .continueLoop,
   .value .declare, .value .release, .value .assign, .value .unary, .value .binary,
   .value .compare, .value .cast,
   .object .classDef, .object .newObj, .object .getField, .object .setField,
   .object .callMethod,
   .directive .raw, .directive .debugInfo]

/-- The opcode of the closed bands with the given name. -/
def ofName? (s : String) : Option Opcode := closed.find? (·.name == s)

/-- Place of an opcode inside its band. -/
def ControlOp.place : ControlOp → Nat
  | .jump => 0 | .condJump => 1 | .function => 2 | .call => 3 | .ret => 4
  | .scopeBegin => 5 | .scopeEnd => 6 | .breakLoop => 7 | .continueLoop => 8

/-- Place of an opcode inside its band. -/
def ValueOp.place : ValueOp → Nat
  | .declare => 0 | .release => 1 | .assign => 2 | .unary => 3 | .binary => 4
  | .compare => 5 | .cast => 6

/-- Place of an opcode inside its band. -/
def ObjectOp.place : ObjectOp → Nat
  | .classDef => 0 | .newObj => 1 | .getField => 2 | .setField => 3 | .callMethod => 4

/-- Place of an opcode inside its band. -/
def MetaOp.place : MetaOp → Nat
  | .raw => 0 | .debugInfo => 1

/-- The numeric code: the start of the band plus the place in it, or the extension's own
number. -/
def code : Opcode → Nat
  | control op => ControlOp.place op
  | value op => 0x20 + ValueOp.place op
  | object op => 0x40 + ObjectOp.place op
  | directive op => 0x60 + MetaOp.place op
  | extension e => e.code

/-- Text form: the name, or `EXT(0x…)` for an extension. -/
def render : Opcode → String
  | extension e => "EXT(" ++ hexText e.code ++ ")"
  | op => op.name

/-- Codes of the closed bands lie below the extension range, so no extension shares one. -/
theorem code_lt_of_ne_extension (op : Opcode) (h : ∀ e, op ≠ extension e) : op.code < 0x80 := by
  cases op with
  | control o => cases o <;> decide
  | value o => cases o <;> decide
  | object o => cases o <;> decide
  | directive o => cases o <;> decide
  | extension e => exact absurd rfl (h e)

end Opcode

end ScopedIr
