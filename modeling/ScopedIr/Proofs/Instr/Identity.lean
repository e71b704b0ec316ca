import ScopedIr.Instr.Operand

/-!
# Instruction identity

Two instructions are the same when their operations are, once the opcode a call carries is
forgotten; where they came from never counts. This module shows that the identity is the
operand enumeration: two instructions are the same exactly when they list equal operands and
either carry the same opcode or are both calls.

The heart of it is that an operation can be read back from its opcode and its operands
(`ofCode?`). The opcode fixes the constructor, except that an extension opcode is carried both
by calls and by extension instructions; those two still differ in their first operand, a slot
for a call and a value otherwise. Within a constructor the operands in schema order fix every
field: an absent optional operand is left out, so the length of the list tells whether it is
there, and the argument lists come last. So opcode and operands together lose nothing, and
forgetting a call's opcode is the only way two different operations become the same.
-/

namespace ScopedIr

/-- The value an operand carries, if it is a value operand. -/
def Operand.value? : Operand → Option Value
  | .value v => some v
  | _ => none

namespace Operation

/-- Whether the operation is a call, built with `CALL` or with a call-like extension opcode. -/
def isCall : Operation → Bool
  | call .. => true
  | _ => false

/-- The values of a list of value operands; `none` when another operand is among them. -/
def values? (ops : List Operand) : Option (List Value) := ops.mapM Operand.value?

/-- The operation with opcode `code` whose operands in schema order are `ops`, if there is one. -/
def ofCode? : Opcode → List Operand → Option Operation
  | .control .jump, [.scopeName t] => some (jump t)
  | .control .condJump, [.variable c, .scopeName t] => some (condJump c t none)
  | .control .condJump, [.variable c, .scopeName t, .scopeName f] => some (condJump c t (some f))
  | .control .function, [.function f] => some (function f)
  | .control .call, .slot r :: .function f :: args => (call .call r f ·) <$> values? args
  | .control .ret, [] => some (ret none)
  | .control .ret, [.value v] => some (ret (some v))
  | .control .scopeBegin, [.name n, .scopeKind k] => some (scopeBegin n k)
  | .control .scopeEnd, [] => some scopeEnd
  | .control .breakLoop, [.scopeName t] => some (breakLoop t)
  | .control .continueLoop, [.scopeName t] => some (continueLoop t)
  | .value .declare, [.slot s] => some (declare s)
  | .value .release, [.name n] => some (release n)
  | .value .assign, [.slot t, .value s] => some (assign t s)
  | .value .unary, [.slot r, .unaryOp op, .value v] => some (unary r op v)
  | .value .binary, [.slot r, .binaryOp op, .value a, .value b] => some (binary r op a b)
  | .value .compare, [.slot r, .compareOp op, .value a, .value b] => some (compare r op a b)
  | .value .cast, [.slot r, .type t, .value v] => some (cast r t v)
  | .object .classDef, [.classRef c] => some (classDef c)
  | .object .newObj, .slot r :: .classRef c :: args => (newObj r c ·) <$> values? args
  | .object .getField, [.slot r, .value o, .name f] => some (getField r o f)
  | .object .setField, [.variable o, .name f, .value v] => some (setField o f v)
  | .object .callMethod, .slot r :: .value o :: .function m :: args =>
    (callMethod r o m ·) <$> values? args
  | .directive .raw, [.value c] => some (raw c)
  | .directive .debugInfo, [] => some debugInfo
  | .extension e, .slot r :: .function f :: args => (call (.extension e) r f ·) <$> values? args
  | .extension e, ops => extension e <$> values? ops
  | _, _ => none

@[simp] theorem values?_map_value (vs : List Value) : values? (vs.map Operand.value) = some vs := by
  induction vs with
  | nil => rfl
  | cons v vs ih =>
    simp only [values?, List.map_cons, List.mapM_cons, Operand.value?] at ih ⊢
    simp [ih]

/-- Every operation is read back from its opcode and its operands. -/
theorem ofCode?_opcode_operands (op : Operation) : ofCode? op.opcode op.operands = some op := by
  cases op with
  | condJump c t f => cases f <;> rfl
  | call code r f args =>
    cases code <;> exact congrArg (Functor.map (call _ r f)) (values?_map_value args)
  | ret v => cases v <;> rfl
  | newObj r c args => exact congrArg (Functor.map (newObj r c)) (values?_map_value args)
  | callMethod r o m args => exact congrArg (Functor.map (callMethod r o m)) (values?_map_value args)
  | extension e vs =>
    -- value operands never start the way a call's operands do
    cases vs with
    | nil => rfl
    | cons v vs => exact congrArg (Functor.map (extension e)) (values?_map_value (v :: vs))
  | _ => rfl

/-- Opcode and operands lose nothing: they determine the operation. -/
theorem eq_of_opcode_eq_of_operands_eq {a b : Operation} (hc : a.opcode = b.opcode)
    (ho : a.operands = b.operands) : a = b := by
  have h := ofCode?_opcode_operands a
  rw [hc, ho, ofCode?_opcode_operands] at h
  exact (Option.some.inj h).symm

@[simp] theorem isCall_shape (op : Operation) : op.shape.isCall = op.isCall := by
  cases op <;> rfl

/-- Forgetting the opcode of a call changes nothing else. -/
theorem shape_of_isCall_eq_false {op : Operation} (h : op.isCall = false) : op.shape = op := by
  cases op <;> first | rfl | cases h

/-- A call without its opcode carries `CALL`. -/
theorem opcode_shape_of_isCall {op : Operation} (h : op.isCall = true) :
    op.shape.opcode = .control .call := by
  cases op <;> first | rfl | cases h

/-- Two operations have the same shape exactly when they have the same operands and either
the same opcode or are both calls. -/
theorem shape_eq_iff (a b : Operation) :
    a.shape = b.shape ↔ a.operands = b.operands ∧ (a.opcode = b.opcode ∨ a.isCall ∧ b.isCall) := by
  constructor
  · intro h
    have ho : a.operands = b.operands := by rw [← operands_shape a, h, operands_shape]
    refine ⟨ho, ?_⟩
    cases ha : a.isCall
    · -- neither is a call, so both are their own shapes
      have hb : b.isCall = false := by rw [← isCall_shape b, ← h, isCall_shape, ha]
      rw [shape_of_isCall_eq_false ha, shape_of_isCall_eq_false hb] at h
      exact Or.inl (congrArg opcode h)
    · have hb : b.isCall = true := by rw [← isCall_shape b, ← h, isCall_shape, ha]
      exact Or.inr ⟨rfl, hb⟩
  · rintro ⟨ho, hc | ⟨ha, hb⟩⟩
    · rw [eq_of_opcode_eq_of_operands_eq hc ho]
    · -- both shapes are calls carrying `CALL` with the same operands
      refine eq_of_opcode_eq_of_operands_eq ?_ (by rw [operands_shape, operands_shape, ho])
      rw [opcode_shape_of_isCall ha, opcode_shape_of_isCall hb]

end Operation

namespace Instruction

/-- Two instructions are the same exactly when they list the same operands and either carry
the same opcode or are both calls. -/
theorem equiv_iff (a b : Instruction) :
    a.equiv b = true ↔ a.operands = b.operands ∧ (a.opcode = b.opcode ∨ a.op.isCall ∧ b.op.isCall) := by
  rw [equiv, beq_iff_eq]
  exact Operation.shape_eq_iff a.op b.op

@[simp] theorem equiv_withMeta (a b : Instruction) (m : Metadata) :
    (a.withMeta m).equiv b = a.equiv b := rfl

@[simp] theorem hashCode_withMeta (a : Instruction) (m : Metadata) :
    (a.withMeta m).hashCode = a.hashCode := rfl

/-- Instruction identity is the operand enumeration. Two instructions are the same exactly
when their operands are equal, element by element, and either their opcodes are equal or both
are calls; where an instruction came from never counts, neither for identity nor for its hash;
opcode and operands determine the operation; and the same instructions hash equally. So two
calls that differ only in the opcode they carry are the same, two extension instructions with
different opcodes never are, and a call is never the same as an extension instruction, though
both may carry the same extension opcode. -/
theorem identity_is_operand_enumeration :
    (∀ a b : Instruction, a.equiv b = true ↔
      a.operands = b.operands ∧ (a.opcode = b.opcode ∨ a.op.isCall ∧ b.op.isCall)) ∧
    (∀ (a b : Instruction) (m : Metadata),
      (a.withMeta m).equiv b = a.equiv b ∧ (a.withMeta m).hashCode = a.hashCode) ∧
    (∀ a b : Instruction, a.opcode = b.opcode → a.operands = b.operands → a.op = b.op) ∧
    (∀ a b : Instruction, a.equiv b = true → a.hashCode = b.hashCode) ∧
    (∀ (c c' : CallCode) (r : Slot) (f : Function) (args : List Value) (m m' : Metadata),
      Instruction.equiv ⟨.call c r f args, m⟩ ⟨.call c' r f args, m'⟩ = true) ∧
    (∀ (e e' : ExtCode) (vs vs' : List Value) (m m' : Metadata), e ≠ e' →
      Instruction.equiv ⟨.extension e vs, m⟩ ⟨.extension e' vs', m'⟩ = false) ∧
    ∀ (c : CallCode) (r : Slot) (f : Function) (args : List Value) (e : ExtCode)
      (vs : List Value) (m m' : Metadata),
      Instruction.equiv ⟨.call c r f args, m⟩ ⟨.extension e vs, m'⟩ = false := by
  refine ⟨equiv_iff, fun a b m => ⟨rfl, rfl⟩,
    fun a b hc ho => Operation.eq_of_opcode_eq_of_operands_eq hc ho,
    fun a b h => hashCode_eq_of_equiv h, fun c c' r f args m m' => ?_, fun e e' vs vs' m m' he => ?_,
    fun c r f args e vs m m' => ?_⟩
  · exact (equiv_iff _ _).mpr ⟨rfl, Or.inr ⟨rfl, rfl⟩⟩
  · -- extension instructions are not calls, so only equal opcodes would make them the same
    refine Bool.eq_false_iff.mpr fun h => he ?_
    obtain ⟨-, hc | ⟨-, hb⟩⟩ := (equiv_iff _ _).mp h
    · exact Opcode.extension.inj hc
    · cases hb
  · -- equal opcodes and operands would make the call the extension instruction itself
    refine Bool.eq_false_iff.mpr fun h => ?_
    obtain ⟨ho, hc | ⟨-, hb⟩⟩ := (equiv_iff _ _).mp h
    · cases Operation.eq_of_opcode_eq_of_operands_eq hc ho
    · cases hb

/-- A call of `max` carrying the extension opcode `0x90`, stamped at `1:1`, and the plain call
stamped at `40:2` in `lib.src` with debug information are the same and hash equally; extension
instructions with the opcodes `0x90` and `0x91` are not the same. -/
theorem extension_call_hashes_as_plain_call :
    let r : Slot := .variable ⟨"r", .primitive .int⟩
    let max : Function :=
      .ofParams "max" (.primitive .int) [("a", .primitive .int), ("b", .primitive .int)]
    let args : List Value := [.literal (.int 1), .literal (.int 2)]
    let here : Metadata := { line := some 1, column := some 1 }
    let there : Metadata :=
      { line := some 40, column := some 2, filename := some "lib.src", debug := true }
    let extCall : Instruction := ⟨.call (.extension ⟨0x90, by decide⟩) r max args, here⟩
    let call : Instruction := ⟨.call .call r max args, there⟩
    extCall.equiv call = true ∧ extCall.hashCode = call.hashCode ∧
      (⟨0x90, by decide⟩ : ExtCode) ≠ ⟨0x91, by decide⟩ ∧
      Instruction.equiv ⟨.extension ⟨0x90, by decide⟩ [], {}⟩
        ⟨.extension ⟨0x91, by decide⟩ [], {}⟩ = false := by
  intro r max args here there extCall call
  have same : extCall.equiv call = true :=
    identity_is_operand_enumeration.2.2.2.2.1 _ _ r max args here there
  have differ : (⟨0x90, by decide⟩ : ExtCode) ≠ ⟨0x91, by decide⟩ := by decide
  exact ⟨same, identity_is_operand_enumeration.2.2.2.1 _ _ same, differ,
    identity_is_operand_enumeration.2.2.2.2.2.1 _ _ [] [] {} {} differ⟩

end Instruction

end ScopedIr
