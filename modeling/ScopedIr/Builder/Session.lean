import ScopedIr.Builder.Declare
import ScopedIr.Builder.Emit
import ScopedIr.Builder.Library

/-!
# Builder sessions

A front end drives a builder through its public operations, one call after another. A call
may fail; the builder then stays as the failed operation left it, and the session goes on
from there. Lookups (`resolve` and its variants) only read the builder, so a session is the
sequence of the calls that may change it, and every state a session reaches is a builder
that lookups may read.
-/

namespace ScopedIr

/-- A call of a builder operation that may change the builder, with its arguments. -/
inductive Call where
  | setPosition (line column : Nat)
  | beginScope (name : String) (kind : ScopeKind)
  | endScope
  | declareVariable (name : String) (type : DataType)
  | declareConstant (name : String) (type : DataType) (value : ConstValue)
  | releaseVariable (name : String)
  | defineFunction (f : Function)
  | beginFunctionBody (f : Function)
  | defineClass (c : ClassDef)
  | setClassParent (c : ClassRef) (parent : Option ClassRef)
  | emit (i : Instruction)
  | emitJump (target : String)
  | emitCondJump (cond : Variable) (ifTrue : String) (ifFalse : Option String)
  | emitBreak (target : String)
  | emitContinue (target : String)
  | checkpoint
  | registerLibrary (l : Library)

namespace Call

/-- The operation a call runs, with its result dropped. -/
def run : Call → BuildM Unit
  | setPosition line column => Builder.setPosition line column
  | beginScope name kind => discard (Builder.beginScope name kind)
  | endScope => discard Builder.endScope
  | declareVariable name type => discard (Builder.declareVariable name type)
  | declareConstant name type value => discard (Builder.declareConstant name type value)
  | releaseVariable name => Builder.releaseVariable name
  | defineFunction f => discard (Builder.defineFunction f)
  | beginFunctionBody f => discard (Builder.beginFunctionBody f)
  | defineClass c => discard (Builder.defineClass c)
  | setClassParent c parent => Builder.setClassParent c parent
  | emit i => Builder.emit i
  | emitJump target => Builder.emitJump target
  | emitCondJump cond ifTrue ifFalse => Builder.emitCondJump cond ifTrue ifFalse
  | emitBreak target => Builder.emitBreak target
  | emitContinue target => Builder.emitContinue target
  | checkpoint => Builder.checkpoint
  | registerLibrary l => Builder.registerLibrary l

end Call

namespace Builder

/-- The builder after a call, whether the call succeeded or failed. -/
def exec (b : Builder) (c : Call) : Builder :=
  match c.run.run b with
  | .ok _ b' => b'
  | .error _ b' => b'

/-- The builder after a sequence of calls. -/
def execAll (b : Builder) : List Call → Builder
  | [] => b
  | c :: cs => execAll (b.exec c) cs

/-- Every call of the sequence satisfies `P` in the state the calls before it leave. -/
def AllCalls (P : Builder → Call → Prop) : Builder → List Call → Prop
  | _, [] => True
  | b, c :: cs => P b c ∧ AllCalls P (b.exec c) cs

@[simp] theorem execAll_nil (b : Builder) : b.execAll [] = b := rfl

@[simp] theorem execAll_cons (b : Builder) (c : Call) (cs : List Call) :
    b.execAll (c :: cs) = (b.exec c).execAll cs := rfl

@[simp] theorem allCalls_nil (P : Builder → Call → Prop) (b : Builder) : AllCalls P b [] :=
  trivial

@[simp] theorem allCalls_cons (P : Builder → Call → Prop) (b : Builder) (c : Call)
    (cs : List Call) : AllCalls P b (c :: cs) ↔ P b c ∧ AllCalls P (b.exec c) cs := Iff.rfl

theorem execAll_append (b : Builder) (cs cs' : List Call) :
    b.execAll (cs ++ cs') = (b.execAll cs).execAll cs' := by
  induction cs generalizing b with
  | nil => rfl
  | cons c cs ih => exact ih (b.exec c)

/-- A property every call keeps holds after every sequence of calls. -/
theorem execAll_induction (Q : Builder → Prop) (step : ∀ b c, Q b → Q (b.exec c)) :
    ∀ (cs : List Call) (b : Builder), Q b → Q (b.execAll cs)
  | [], _, h => h
  | c :: cs, b, h => execAll_induction Q step cs (b.exec c) (step b c h)

/-- A property every call that satisfies `P` keeps holds after every sequence of such calls. -/
theorem allCalls_induction (P : Builder → Call → Prop) (Q : Builder → Prop)
    (step : ∀ b c, P b c → Q b → Q (b.exec c)) :
    ∀ (cs : List Call) (b : Builder), AllCalls P b cs → Q b → Q (b.execAll cs)
  | [], _, _, h => h
  | c :: cs, b, ⟨hc, hcs⟩, h => allCalls_induction P Q step cs (b.exec c) hcs (step b c hc h)

end Builder

end ScopedIr
