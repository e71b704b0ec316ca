import ScopedIr.Builder.Basic

/-!
# Emitting instructions

Plain instructions are appended as they are. Instructions that open or close scopes, bind or
release names, or transfer control are refused by `emit`: they have their own operations,
which keep the scope tree in step or check their targets. A jump target must resolve from the
current scope, and a `BREAK` or `CONTINUE` target must resolve to a loop scope.
-/

namespace ScopedIr

/-- Whether an operation may only be appended through its own builder operation. -/
def Operation.isStructural : Operation → Bool
  | .scopeBegin .. | .scopeEnd | .declare .. | .release .. | .function .. | .classDef ..
  | .jump .. | .condJump .. | .breakLoop .. | .continueLoop .. => true
  | _ => false

namespace Builder

/-- Appends a plain instruction at the current position. -/
def emit (i : Instruction) : BuildM Unit := do
  if i.op.isStructural then throw (.structuralInstruction i.opcode.render)
  push i

/-- Appends a `DEBUG_INFO` checkpoint when the builder carries debug information. -/
def checkpoint : BuildM Unit := do
  if (← get).options.debug then push ⟨.debugInfo, {}⟩

/-- The scope a target resolves to from the current scope. -/
def target (t : String) : BuildM ScopeId := do
  let b ← get
  liftScope (b.scopes.resolveScope b.current t)

/-- Appends a jump to a scope that resolves. -/
def emitJump (t : String) : BuildM Unit := do
  discard (target t)
  push ⟨.jump t, {}⟩

/-- Appends a conditional jump: both targets must resolve, then the condition must be a
`bool` variable. -/
def emitCondJump (cond : Variable) (ifTrue : String) (ifFalse : Option String) : BuildM Unit := do
  discard (target ifTrue)
  if let some f := ifFalse then discard (target f)
  let i ← liftInstr (Instruction.condJump? cond ifTrue ifFalse)
  push i

/-- The loop scope a `BREAK` or `CONTINUE` target resolves to. -/
def loopTarget (t : String) : BuildM ScopeId := do
  let s ← target t
  if ((← get).scopes.scope s).kind != .loop then throw (.notALoop t)
  return s

/-- Appends a `BREAK` out of a loop scope. -/
def emitBreak (t : String) : BuildM Unit := do
  discard (loopTarget t)
  push ⟨.breakLoop t, {}⟩

/-- Appends a `CONTINUE` of a loop scope. -/
def emitContinue (t : String) : BuildM Unit := do
  discard (loopTarget t)
  push ⟨.continueLoop t, {}⟩

end Builder

end ScopedIr
