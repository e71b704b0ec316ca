import ScopedIr.Builder.Session
import ScopedIr.Proofs.Scope.Tree

/-!
# What each builder operation does

Every builder operation is a short sequence of a few state changes: appending an instruction,
binding a symbol in the current scope, removing a binding from it, opening a child scope and
moving into it, moving back to the parent, replacing the class table, and recording a
library. This module names those changes and states, for every operation, its exact result
in terms of them: the value or error, and the builder it leaves. Later proofs read the
operations only through these equations.
-/

namespace ScopedIr

namespace Builder

/-! ### The state changes -/

/-- The builder with `i` appended, stamped with the builder's metadata, and sealed. -/
def appended (b : Builder) (i : Instruction) : Builder :=
  { b with sealed := true, instructions := b.instructions.push (i.withMeta b.metadata) }

/-- The builder with `s` bound in the current scope as a fresh declaration. -/
def bound (b : Builder) (s : Symbol) : Builder :=
  { b with scopes := b.scopes.modifyScope b.current (·.bind ⟨s, b.nextSerial⟩),
           nextSerial := b.nextSerial + 1 }

/-- The builder with the binding of `n` removed from the current scope. -/
def unbound (b : Builder) (n : String) : Builder :=
  { b with scopes := b.scopes.modifyScope b.current (·.unbind n) }

/-- The builder moved into a new child of the current scope. -/
def entered (b : Builder) (n : String) (k : ScopeKind) : Builder :=
  { b with scopes := (b.scopes.createChild b.current n k).2, current := b.scopes.size }

/-- The builder moved back to the parent of the current scope. -/
def left (b : Builder) : Builder := { b with current := b.scopes.parentOf b.current }

/-- The builder a run ends in, whether it succeeded or failed. -/
def stateOf {α : Type} : EStateM.Result BuildError Builder α → Builder
  | .ok _ b => b
  | .error _ b => b

/-- Binds parameters one after the other in the current scope, as `register` does: the first
one whose name is already bound there fails, after the earlier ones are bound. -/
def bindParams (b : Builder) : List Parameter → EStateM.Result BuildError Builder PUnit
  | [] => .ok ⟨⟩ b
  | p :: ps =>
    if b.scopes.hasSymbol b.current p.name then .error (.redefinition p.name b.currentName) b
    else bindParams (b.bound (.variable p.toVariable)) ps

/-- `bindGlobal` as a change of state: binds `s` in the global scope under a fresh serial,
unless the name is bound there already. -/
def boundGlobal (b : Builder) (s : Symbol) : Builder :=
  { b with scopes := (b.scopes.addSymbol ScopeTree.root ⟨s, b.nextSerial⟩ false).2,
           nextSerial := b.nextSerial + 1 }

/-- Registers a library class whose links hold, and binds it globally. -/
def classRegistered (b : Builder) (c : ClassDef) : Builder :=
  ({ b with classes := ⟨b.classes.classes.push c⟩ }).boundGlobal
    (.classRef ⟨c.name, b.classes.size⟩)

/-- The builder once a library passed its checks: its functions, constants and classes are
bound globally, its initialization code is appended and its natives are recorded. -/
def withLibrary (b : Builder) (l : Library) : Builder :=
  let b := l.functions.foldl (fun b f => b.boundGlobal (.function f)) b
  let b := l.constants.foldl (fun b kv => b.boundGlobal (.constant kv.1)) b
  let b := l.classes.foldl classRegistered b
  { b with instructions := b.instructions ++ l.init.toArray, natives := b.natives.record l }

end Builder

/-- The class links of a class: its parent, then its interface. -/
def ClassDef.links (c : ClassDef) : List Nat := c.parent.toList ++ c.interface.toList

/-- The first link of the classes, in order, that names no class of the table. -/
def ClassTable.firstMissing (t : ClassTable) (cs : List ClassDef) : Option Nat :=
  (cs.flatMap ClassDef.links).find? fun i => t.size ≤ i

namespace ClassTable

theorem discard_tryGet (t : ClassTable) (i : Nat) :
    discard (t.tryGet i) = if i < t.size then .ok () else .error (.unknownClass i) := by
  by_cases h : i < t.size
  · have h' : i < t.classes.size := h
    simp only [tryGet, get?, Array.getElem?_eq_getElem h', if_pos h]
    rfl
  · have h' : t.classes[i]? = none := Array.getElem?_eq_none (Nat.le_of_not_lt h)
    simp only [tryGet, get?, h', if_neg h]
    rfl

/-- Registration fails on the first link naming no class of the table; otherwise the class
gets the next index. -/
theorem register_eq (t : ClassTable) (c : ClassDef) :
    t.register c = match c.links.find? (t.size ≤ ·) with
      | some i => .error (.unknownClass i)
      | none => .ok (⟨c.name, t.size⟩, ⟨t.classes.push c⟩) := by
  -- each link is checked in turn: a known one reads as `decide (t.size ≤ i) = false`
  have known : ∀ i, i < t.size → decide (t.size ≤ i) = false := fun i h =>
    decide_eq_false (Nat.not_le.mpr h)
  have unknown : ∀ i, ¬ i < t.size → decide (t.size ≤ i) = true := fun i h =>
    decide_eq_true (Nat.le_of_not_lt h)
  rcases hp : c.parent with _ | p <;> rcases hi : c.interface with _ | k <;>
    simp only [register, ClassDef.links, hp, hi, discard_tryGet, Option.toList,
      List.nil_append, List.cons_append, List.append_nil, List.find?_nil, List.find?_cons]
  · rfl
  · by_cases hk : k < t.size
    · rw [if_pos hk, known k hk]; rfl
    · rw [if_neg hk, unknown k hk]; rfl
  · by_cases hp' : p < t.size
    · rw [if_pos hp', known p hp']; rfl
    · rw [if_neg hp', unknown p hp']; rfl
  · by_cases hp' : p < t.size
    · by_cases hk : k < t.size
      · rw [if_pos hp', known p hp', if_pos hk, known k hk]; rfl
      · rw [if_pos hp', known p hp', if_neg hk, unknown k hk]; rfl
    · rw [if_neg hp', unknown p hp']; rfl

end ClassTable

namespace Builder

/-! ### Field lemmas -/

section Fields

variable (b : Builder)

@[simp] theorem appended_scopes (i : Instruction) : (b.appended i).scopes = b.scopes := rfl
@[simp] theorem appended_current (i : Instruction) : (b.appended i).current = b.current := rfl
@[simp] theorem appended_classes (i : Instruction) : (b.appended i).classes = b.classes := rfl
@[simp] theorem appended_instructions (i : Instruction) :
    (b.appended i).instructions = b.instructions.push (i.withMeta b.metadata) := rfl
@[simp] theorem bound_current (s : Symbol) : (b.bound s).current = b.current := rfl
@[simp] theorem bound_classes (s : Symbol) : (b.bound s).classes = b.classes := rfl
@[simp] theorem bound_instructions (s : Symbol) :
    (b.bound s).instructions = b.instructions := rfl
@[simp] theorem bound_sealed (s : Symbol) : (b.bound s).sealed = b.sealed := rfl
@[simp] theorem unbound_current (n : String) : (b.unbound n).current = b.current := rfl
@[simp] theorem unbound_instructions (n : String) :
    (b.unbound n).instructions = b.instructions := rfl
@[simp] theorem entered_scopes (n : String) (k : ScopeKind) :
    (b.entered n k).scopes = (b.scopes.createChild b.current n k).2 := rfl
@[simp] theorem entered_current (n : String) (k : ScopeKind) :
    (b.entered n k).current = b.scopes.size := rfl
@[simp] theorem entered_instructions (n : String) (k : ScopeKind) :
    (b.entered n k).instructions = b.instructions := rfl
@[simp] theorem left_scopes : b.left.scopes = b.scopes := rfl
@[simp] theorem left_current : b.left.current = b.scopes.parentOf b.current := rfl
@[simp] theorem left_instructions : b.left.instructions = b.instructions := rfl

end Fields

/-! ### Monadic plumbing -/

@[simp] theorem run_throw {α : Type} (e : BuildError) (b : Builder) :
    (throw e : BuildM α).run b = .error e b := rfl

@[simp] theorem run_map {α β : Type} (f : α → β) (x : BuildM α) (b : Builder) :
    (f <$> x).run b = match x.run b with
      | .ok a b' => .ok (f a) b'
      | .error e b' => .error e b' := by
  show EStateM.map _ x b = _
  simp only [EStateM.map, EStateM.run]
  cases x b <;> rfl

theorem run_discard {α : Type} (x : BuildM α) (b : Builder) :
    (discard x).run b = match x.run b with
      | .ok _ b' => .ok () b'
      | .error e b' => .error e b' := by
  show EStateM.map _ x b = _
  simp only [EStateM.map, EStateM.run]
  cases x b <;> rfl

theorem run_liftScope {α : Type} (x : Except ScopeError α) (b : Builder) :
    (liftScope x).run b = match x with
      | .ok a => .ok a b
      | .error e => .error (.scope e) b := by
  cases x <;> rfl

theorem run_liftClass {α : Type} (x : Except ClassError α) (b : Builder) :
    (liftClass x).run b = match x with
      | .ok a => .ok a b
      | .error e => .error (.cls e) b := by
  cases x <;> rfl

theorem run_liftInstr {α : Type} (x : Except InstrError α) (b : Builder) :
    (liftInstr x).run b = match x with
      | .ok a => .ok a b
      | .error e => .error (.instr e) b := by
  cases x <;> rfl

theorem run_push (b : Builder) (i : Instruction) : (push i).run b = .ok () (b.appended i) := rfl

theorem run_register (b : Builder) (s : Symbol) :
    (register s).run b =
      if b.scopes.hasSymbol b.current s.name then .error (.redefinition s.name b.currentName) b
      else .ok ⟨s, b.nextSerial⟩ (b.bound s) := by
  by_cases h : b.scopes.hasSymbol b.current s.name
  · simp [register, h]
  · simp [register, h, ScopeTree.addSymbol, bound, Decl.name]

/-- The parameter loop of a function body is `bindParams`. -/
theorem run_paramLoop (ps : List Parameter) (b : Builder) :
    (forIn ps PUnit.unit fun p _ => do
        discard (register (.variable p.toVariable))
        pure (ForInStep.yield PUnit.unit) : BuildM PUnit).run b = bindParams b ps := by
  induction ps generalizing b with
  | nil => rfl
  | cons p ps ih =>
    rw [List.forIn_cons]
    by_cases h : b.scopes.hasSymbol b.current p.name
    · simp [run_discard, run_register, Symbol.name, Parameter.toVariable, h, bindParams]
    · simp [run_discard, run_register, Symbol.name, Parameter.toVariable, h, bindParams, ← ih]

/-! ### Scopes and declarations -/

theorem run_beginScope (b : Builder) (n : String) (k : ScopeKind) :
    (beginScope n k).run b =
      .ok b.scopes.size ((b.entered n k).appended ⟨.scopeBegin n k, {}⟩) := by
  simp [beginScope, run_push]
  rfl

theorem run_endScope (b : Builder) :
    endScope.run b =
      if b.scopes.hasParent b.current then .ok b.current (b.appended ⟨.scopeEnd, {}⟩).left
      else .error .unbalancedScopeEnd b := by
  by_cases h : b.scopes.hasParent b.current <;> simp [endScope, h, run_push]
  rfl

theorem run_declareVariable (b : Builder) (n : String) (t : DataType) :
    (declareVariable n t).run b =
      if b.scopes.hasSymbol b.current n then .error (.redefinition n b.currentName) b
      else .ok ⟨.variable ⟨n, t⟩, b.nextSerial⟩
        ((b.bound (.variable ⟨n, t⟩)).appended ⟨.declare (.variable ⟨n, t⟩), {}⟩) := by
  by_cases h : b.scopes.hasSymbol b.current n <;>
    simp [declareVariable, run_register, run_push, Symbol.name, h]

theorem run_declareConstant (b : Builder) (n : String) (t : DataType) (v : ConstValue) :
    (declareConstant n t v).run b =
      if b.scopes.hasSymbol b.current n then .error (.redefinition n b.currentName) b
      else .ok ⟨.constant ⟨n, t, v⟩, b.nextSerial⟩
        ((b.bound (.constant ⟨n, t, v⟩)).appended ⟨.declare (.constant ⟨n, t, v⟩), {}⟩) := by
  by_cases h : b.scopes.hasSymbol b.current n <;>
    simp [declareConstant, run_register, run_push, Symbol.name, h]

theorem run_releaseVariable (b : Builder) (n : String) :
    (releaseVariable n).run b =
      match (b.scopes.scope b.current).lookup n with
      | none => .error (.scope (.undefinedSymbol n b.currentName)) b
      | some d =>
        if d.symbol.kind = .variable then .ok () ((b.unbound n).appended ⟨.release n, {}⟩)
        else .error (.unexpectedSymbol n .variable d.symbol.kind) b := by
  cases hl : (b.scopes.scope b.current).lookup n with
  | none =>
    simp [releaseVariable, ScopeTree.findSymbol, hl, run_liftScope, currentName]
  | some d =>
    by_cases hk : d.symbol.kind = .variable
    · simp [releaseVariable, ScopeTree.findSymbol, ScopeTree.releaseSymbol, hl, hk,
        run_liftScope, run_push]
      rfl
    · simp [releaseVariable, ScopeTree.findSymbol, hl, hk, run_liftScope]

theorem run_defineFunction (b : Builder) (f : Function) :
    (defineFunction f).run b =
      if b.scopes.hasSymbol b.current f.name then .error (.redefinition f.name b.currentName) b
      else
        .ok ⟨.function f, b.nextSerial⟩ ((b.bound (.function f)).appended ⟨.function f, {}⟩) := by
  by_cases h : b.scopes.hasSymbol b.current f.name <;>
    simp [defineFunction, run_register, run_push, Symbol.name, h]

theorem run_beginFunctionBody (b : Builder) (f : Function) :
    (beginFunctionBody f).run b =
      match bindParams ((b.entered f.name .function).appended ⟨.scopeBegin f.name .function, {}⟩)
          f.params with
      | .ok _ b' => .ok b.scopes.size b'
      | .error e b' => .error e b' := by
  simp only [beginFunctionBody, EStateM.run_bind, run_beginScope, run_paramLoop]
  cases bindParams _ f.params <;> rfl

/-! ### Classes -/

theorem run_defineClass (b : Builder) (c : ClassDef) :
    (defineClass c).run b =
      if b.scopes.hasSymbol b.current c.name then .error (.redefinition c.name b.currentName) b
      else match c.links.find? (b.classes.size ≤ ·) with
        | some i => .error (.cls (.unknownClass i)) b
        | none =>
          .ok ⟨.classRef ⟨c.name, b.classes.size⟩, b.nextSerial⟩
            (({ b with classes := ⟨b.classes.classes.push c⟩ }.bound
              (.classRef ⟨c.name, b.classes.size⟩)).appended
                ⟨.classDef ⟨c.name, b.classes.size⟩, {}⟩) := by
  by_cases h : b.scopes.hasSymbol b.current c.name
  · simp [defineClass, h]
  · cases hl : c.links.find? (b.classes.size ≤ ·) with
    | some i => simp [defineClass, h, ClassTable.register_eq, hl, run_liftClass]
    | none =>
      simp [defineClass, h, ClassTable.register_eq, hl, run_liftClass, run_register, run_push,
        Symbol.name]

theorem run_setClassParent (b : Builder) (c : ClassRef) (p : Option ClassRef) :
    (setClassParent c p).run b =
      match b.classes.setParent c.index (p.map (·.index)) with
      | .error e => .error (.cls e) b
      | .ok classes => .ok () { b with classes } := by
  cases h : b.classes.setParent c.index (p.map (·.index)) <;>
    simp [setClassParent, h, run_liftClass]

/-! ### Emitting -/

theorem run_emit (b : Builder) (i : Instruction) :
    (emit i).run b =
      if i.op.isStructural then .error (.structuralInstruction i.opcode.render) b
      else .ok () (b.appended i) := by
  by_cases h : i.op.isStructural <;> simp [emit, h, run_push]

theorem run_checkpoint (b : Builder) :
    checkpoint.run b = .ok () (if b.options.debug then b.appended ⟨.debugInfo, {}⟩ else b) := by
  by_cases h : b.options.debug <;> simp [checkpoint, h, run_push]

theorem run_setPosition (b : Builder) (line column : Nat) :
    (setPosition line column).run b = .ok () { b with line := some line, column := some column } :=
  rfl

theorem run_target (b : Builder) (t : String) :
    (target t).run b = match b.scopes.resolveScope b.current t with
      | .ok s => .ok s b
      | .error e => .error (.scope e) b := by
  cases h : b.scopes.resolveScope b.current t <;> simp [target, run_liftScope, h]

theorem run_emitJump (b : Builder) (t : String) :
    (emitJump t).run b = match b.scopes.resolveScope b.current t with
      | .ok _ => .ok () (b.appended ⟨.jump t, {}⟩)
      | .error e => .error (.scope e) b := by
  cases h : b.scopes.resolveScope b.current t <;>
    simp [emitJump, run_discard, run_target, h, run_push]

/-- A conditional jump resolves its first target, then its second, then checks that the
condition is a `bool`. -/
theorem run_emitCondJump (b : Builder) (cond : Variable) (t : String) (f : Option String) :
    (emitCondJump cond t f).run b =
      match b.scopes.resolveScope b.current t,
          f.map (b.scopes.resolveScope b.current) with
      | .error e, _ => .error (.scope e) b
      | .ok _, some (.error e) => .error (.scope e) b
      | .ok _, _ =>
        if cond.type.isBool then .ok () (b.appended ⟨.condJump cond t f, {}⟩)
        else .error (.instr (.nonBooleanCondition cond.name cond.type)) b := by
  cases h : b.scopes.resolveScope b.current t with
  | error e => simp [emitCondJump, run_discard, run_target, h]
  | ok s =>
    cases f with
    | none =>
      by_cases hb : cond.type.isBool <;>
        simp [emitCondJump, run_discard, run_target, h, run_liftInstr, Instruction.condJump?,
          hb, run_push]
    | some g =>
      cases hg : b.scopes.resolveScope b.current g with
      | error e => simp [emitCondJump, run_discard, run_target, h, hg]
      | ok s' =>
        by_cases hb : cond.type.isBool <;>
          simp [emitCondJump, run_discard, run_target, h, hg, run_liftInstr,
            Instruction.condJump?, hb, run_push]

theorem run_loopTarget (b : Builder) (t : String) :
    (loopTarget t).run b = match b.scopes.resolveScope b.current t with
      | .ok s => if (b.scopes.scope s).kind = .loop then .ok s b else .error (.notALoop t) b
      | .error e => .error (.scope e) b := by
  cases h : b.scopes.resolveScope b.current t with
  | error e => simp [loopTarget, run_target, h]
  | ok s =>
    by_cases hk : (b.scopes.scope s).kind = .loop <;> simp [loopTarget, run_target, h, hk]

theorem run_emitBreak (b : Builder) (t : String) :
    (emitBreak t).run b = match b.scopes.resolveScope b.current t with
      | .ok s =>
        if (b.scopes.scope s).kind = .loop then .ok () (b.appended ⟨.breakLoop t, {}⟩)
        else .error (.notALoop t) b
      | .error e => .error (.scope e) b := by
  cases h : b.scopes.resolveScope b.current t with
  | error e => simp [emitBreak, run_discard, run_loopTarget, h]
  | ok s =>
    by_cases hk : (b.scopes.scope s).kind = .loop <;>
      simp [emitBreak, run_discard, run_loopTarget, h, hk, run_push]

theorem run_emitContinue (b : Builder) (t : String) :
    (emitContinue t).run b = match b.scopes.resolveScope b.current t with
      | .ok s =>
        if (b.scopes.scope s).kind = .loop then .ok () (b.appended ⟨.continueLoop t, {}⟩)
        else .error (.notALoop t) b
      | .error e => .error (.scope e) b := by
  cases h : b.scopes.resolveScope b.current t with
  | error e => simp [emitContinue, run_discard, run_loopTarget, h]
  | ok s =>
    by_cases hk : (b.scopes.scope s).kind = .loop <;>
      simp [emitContinue, run_discard, run_loopTarget, h, hk, run_push]

/-! ### Libraries -/

@[simp] theorem boundGlobal_classes (b : Builder) (s : Symbol) :
    (b.boundGlobal s).classes = b.classes := rfl

theorem run_bindGlobal (b : Builder) (s : Symbol) :
    (bindGlobal s).run b = .ok () (b.boundGlobal s) := rfl

theorem run_checkLink (t : ClassTable) (i : Nat) (b : Builder) :
    (discard (liftClass (t.tryGet i))).run b =
      if i < t.size then .ok () b else .error (.cls (.unknownClass i)) b := by
  by_cases h : i < t.size
  · have h' : i < t.classes.size := h
    simp only [ClassTable.tryGet, ClassTable.get?, Array.getElem?_eq_getElem h', if_pos h]
    rfl
  · have h' : t.classes[i]? = none := Array.getElem?_eq_none (Nat.le_of_not_lt h)
    simp only [ClassTable.tryGet, ClassTable.get?, h', if_neg h]
    rfl

theorem run_linkCheck (t : ClassTable) (links : List Nat) (b : Builder) :
    (forIn links PUnit.unit fun link _ => do
        discard (liftClass (t.tryGet link))
        pure (ForInStep.yield PUnit.unit) : BuildM PUnit).run b =
      match links.find? (t.size ≤ ·) with
      | some i => .error (.cls (.unknownClass i)) b
      | none => .ok ⟨⟩ b := by
  induction links with
  | nil => rfl
  | cons i links ih =>
    simp only [List.forIn_cons, EStateM.run_bind, run_checkLink, List.find?_cons]
    by_cases hi : i < t.size
    · simp only [if_pos hi, EStateM.run_pure, Nat.not_le.mpr hi, decide_false]
      exact ih
    · simp [hi, Nat.le_of_not_lt hi]

theorem run_linkLoop (t : ClassTable) (cs : List ClassDef) (b : Builder) :
    (forIn cs PUnit.unit fun c _ => do
        forIn (c.parent.toList ++ c.interface.toList) PUnit.unit fun link _ => do
          discard (liftClass (t.tryGet link))
          pure (ForInStep.yield PUnit.unit)
        pure (ForInStep.yield PUnit.unit) : BuildM PUnit).run b =
      match t.firstMissing cs with
      | some i => .error (.cls (.unknownClass i)) b
      | none => .ok ⟨⟩ b := by
  induction cs with
  | nil => rfl
  | cons c cs ih =>
    have hm : t.firstMissing (c :: cs) = (c.links.find? (t.size ≤ ·)).or (t.firstMissing cs) := by
      simp [ClassTable.firstMissing, List.find?_append]
    rw [List.forIn_cons, EStateM.run_bind, EStateM.run_bind, run_linkCheck, hm]
    cases h : (c.parent.toList ++ c.interface.toList).find? (t.size ≤ ·) with
    | some i => simp [ClassDef.links, h]
    | none =>
      simp only [ClassDef.links, h, EStateM.run_pure, Option.none_or]
      exact ih

theorem run_functionLoop (fs : List Function) (b : Builder) :
    (forIn fs PUnit.unit fun f _ => do
        bindGlobal (.function f)
        pure (ForInStep.yield PUnit.unit) : BuildM PUnit).run b =
      .ok ⟨⟩ (fs.foldl (fun b f => b.boundGlobal (.function f)) b) := by
  induction fs generalizing b with
  | nil => rfl
  | cons f fs ih =>
    simp only [List.forIn_cons, EStateM.run_bind, run_bindGlobal, EStateM.run_pure, List.foldl_cons]
    exact ih _

theorem run_constantLoop (ks : List (Constant × Value)) (b : Builder) :
    (forIn ks PUnit.unit fun x _ => match x with
      | (k, _) => do
        bindGlobal (.constant k)
        pure (ForInStep.yield PUnit.unit) : BuildM PUnit).run b =
      .ok ⟨⟩ (ks.foldl (fun b kv => b.boundGlobal (.constant kv.1)) b) := by
  induction ks generalizing b with
  | nil => rfl
  | cons kv ks ih =>
    simp only [List.forIn_cons, EStateM.run_bind, run_bindGlobal, EStateM.run_pure, List.foldl_cons]
    exact ih _

theorem run_classLoop (cs : List ClassDef) (b : Builder)
    (h : ∀ c ∈ cs, ∀ i ∈ c.links, i < b.classes.size) :
    (forIn cs PUnit.unit fun c _ => do
        let b ← get
        let x ← liftClass (b.classes.register c)
        match x with
        | (r, classes) => do
          set { b with classes }
          bindGlobal (.classRef r)
          pure (ForInStep.yield PUnit.unit) : BuildM PUnit).run b =
      .ok ⟨⟩ (cs.foldl classRegistered b) := by
  induction cs generalizing b with
  | nil => rfl
  | cons c cs ih =>
    have hc : c.links.find? (b.classes.size ≤ ·) = none :=
      List.find?_eq_none.mpr fun i hi => by simpa using h c (List.mem_cons_self ..) i hi
    rw [List.forIn_cons]
    simp only [EStateM.run_bind, EStateM.run_get, run_liftClass]
    rw [ClassTable.register_eq b.classes c, hc]
    simp only [EStateM.run_set, run_bindGlobal, EStateM.run_pure, List.foldl_cons]
    apply ih
    intro c' hc' i hi
    have := h c' (List.mem_cons_of_mem _ hc') i hi
    simp only [boundGlobal_classes, ClassTable.size, Array.size_push] at this ⊢
    omega

theorem classes_foldl_boundGlobal {α : Type} (xs : List α) (sym : α → Symbol) (b : Builder) :
    (xs.foldl (fun b x => b.boundGlobal (sym x)) b).classes = b.classes := by
  induction xs generalizing b with
  | nil => rfl
  | cons x xs ih => exact ih _

theorem run_registerLibrary (b : Builder) (l : Library) :
    (registerLibrary l).run b =
      if b.sealed then .error (.lateLibraryRegistration l.name) b
      else match firstClash b.scopes ScopeTree.root [] l.declaredNames with
        | some n => .error (.redefinition n (b.scopes.uniqueName ScopeTree.root)) b
        | none => match b.classes.firstMissing l.classes with
          | some i => .error (.cls (.unknownClass i)) b
          | none => .ok () (b.withLibrary l) := by
  by_cases hs : b.sealed
  · simp [registerLibrary, hs]
  · cases hc : firstClash b.scopes ScopeTree.root [] l.declaredNames with
    | some n => simp [registerLibrary, hs, hc]
    | none =>
      cases hm : b.classes.firstMissing l.classes with
      | some i =>
        simp only [registerLibrary, hs, hc, Bool.false_eq_true, if_false, EStateM.run_bind,
          EStateM.run_get, run_linkLoop, hm]
      | none =>
        have hl : ∀ c ∈ l.classes, ∀ i ∈ c.links, i < b.classes.size := by
          intro c hc i hi
          have := List.find?_eq_none.mp hm i (List.mem_flatMap.mpr ⟨c, hc, hi⟩)
          simpa using this
        simp only [registerLibrary, hs, hc, Bool.false_eq_true, if_false, EStateM.run_bind,
          EStateM.run_get, run_linkLoop, hm, run_functionLoop, run_constantLoop]
        rw [run_classLoop]
        · rfl
        · simpa [classes_foldl_boundGlobal] using hl

/-! ### The state after each call -/

theorem exec_eq (b : Builder) (c : Call) : b.exec c = stateOf (c.run.run b) := by
  cases h : c.run.run b <;> simp [exec, stateOf, h]

theorem stateOf_discard {α : Type} (x : BuildM α) (b : Builder) :
    stateOf ((discard x).run b) = stateOf (x.run b) := by
  rw [run_discard]
  cases x.run b <;> rfl

section Exec

variable (b : Builder)

@[simp] theorem exec_setPosition (line column : Nat) :
    b.exec (.setPosition line column) = { b with line := some line, column := some column } := rfl

@[simp] theorem exec_beginScope (n : String) (k : ScopeKind) :
    b.exec (.beginScope n k) = (b.entered n k).appended ⟨.scopeBegin n k, {}⟩ := by
  rw [exec_eq, Call.run, stateOf_discard, run_beginScope]
  rfl

theorem exec_endScope :
    b.exec .endScope =
      if b.scopes.hasParent b.current then (b.appended ⟨.scopeEnd, {}⟩).left else b := by
  rw [exec_eq, Call.run, stateOf_discard, run_endScope]
  by_cases h : b.scopes.hasParent b.current <;> simp [h, stateOf]

theorem exec_declareVariable (n : String) (t : DataType) :
    b.exec (.declareVariable n t) =
      if b.scopes.hasSymbol b.current n then b
      else (b.bound (.variable ⟨n, t⟩)).appended ⟨.declare (.variable ⟨n, t⟩), {}⟩ := by
  rw [exec_eq, Call.run, stateOf_discard, run_declareVariable]
  by_cases h : b.scopes.hasSymbol b.current n <;> simp [h, stateOf]

theorem exec_declareConstant (n : String) (t : DataType) (v : ConstValue) :
    b.exec (.declareConstant n t v) =
      if b.scopes.hasSymbol b.current n then b
      else (b.bound (.constant ⟨n, t, v⟩)).appended ⟨.declare (.constant ⟨n, t, v⟩), {}⟩ := by
  rw [exec_eq, Call.run, stateOf_discard, run_declareConstant]
  by_cases h : b.scopes.hasSymbol b.current n <;> simp [h, stateOf]

theorem exec_releaseVariable (n : String) :
    b.exec (.releaseVariable n) =
      match (b.scopes.scope b.current).lookup n with
      | some d => if d.symbol.kind = .variable then (b.unbound n).appended ⟨.release n, {}⟩ else b
      | none => b := by
  rw [exec_eq, Call.run, run_releaseVariable]
  cases h : (b.scopes.scope b.current).lookup n with
  | none => rfl
  | some d => by_cases hk : d.symbol.kind = .variable <;> simp [hk, stateOf]

theorem exec_defineFunction (f : Function) :
    b.exec (.defineFunction f) =
      if b.scopes.hasSymbol b.current f.name then b
      else (b.bound (.function f)).appended ⟨.function f, {}⟩ := by
  rw [exec_eq, Call.run, stateOf_discard, run_defineFunction]
  by_cases h : b.scopes.hasSymbol b.current f.name <;> simp [h, stateOf]

theorem exec_beginFunctionBody (f : Function) :
    b.exec (.beginFunctionBody f) =
      stateOf (bindParams ((b.entered f.name .function).appended ⟨.scopeBegin f.name .function, {}⟩)
        f.params) := by
  rw [exec_eq, Call.run, stateOf_discard, run_beginFunctionBody]
  cases bindParams _ f.params <;> rfl

theorem exec_defineClass (c : ClassDef) :
    b.exec (.defineClass c) =
      if b.scopes.hasSymbol b.current c.name then b
      else match c.links.find? (b.classes.size ≤ ·) with
        | some _ => b
        | none =>
          ({ b with classes := ⟨b.classes.classes.push c⟩ }.bound
            (.classRef ⟨c.name, b.classes.size⟩)).appended
              ⟨.classDef ⟨c.name, b.classes.size⟩, {}⟩ := by
  rw [exec_eq, Call.run, stateOf_discard, run_defineClass]
  by_cases h : b.scopes.hasSymbol b.current c.name
  · simp [h, stateOf]
  · cases c.links.find? (b.classes.size ≤ ·) <;> simp [h, stateOf]

theorem exec_setClassParent (c : ClassRef) (p : Option ClassRef) :
    b.exec (.setClassParent c p) =
      match b.classes.setParent c.index (p.map (·.index)) with
      | .ok classes => { b with classes }
      | .error _ => b := by
  rw [exec_eq, Call.run, run_setClassParent]
  cases b.classes.setParent c.index (p.map (·.index)) <;> rfl

theorem exec_emit (i : Instruction) :
    b.exec (.emit i) = if i.op.isStructural then b else b.appended i := by
  rw [exec_eq, Call.run, run_emit]
  by_cases h : i.op.isStructural <;> simp [h, stateOf]

theorem exec_emitJump (t : String) :
    b.exec (.emitJump t) =
      match b.scopes.resolveScope b.current t with
      | .ok _ => b.appended ⟨.jump t, {}⟩
      | .error _ => b := by
  rw [exec_eq, Call.run, run_emitJump]
  cases b.scopes.resolveScope b.current t <;> rfl

theorem exec_emitCondJump (cond : Variable) (t : String) (f : Option String) :
    b.exec (.emitCondJump cond t f) =
      if (b.scopes.resolveScope b.current t).isOk ∧
          (∀ g ∈ f, (b.scopes.resolveScope b.current g).isOk) ∧ cond.type.isBool then
        b.appended ⟨.condJump cond t f, {}⟩
      else b := by
  rw [exec_eq, Call.run, run_emitCondJump]
  cases h : b.scopes.resolveScope b.current t with
  | error e => simp [Except.isOk, Except.toBool, stateOf]
  | ok s =>
    cases f with
    | none => by_cases hb : cond.type.isBool <;> simp [hb, Except.isOk, Except.toBool, stateOf]
    | some g =>
      cases hg : b.scopes.resolveScope b.current g with
      | error e => simp [hg, Except.isOk, Except.toBool, stateOf]
      | ok s' =>
        by_cases hb : cond.type.isBool <;> simp [hg, hb, Except.isOk, Except.toBool, stateOf]

theorem exec_emitBreak (t : String) :
    b.exec (.emitBreak t) =
      match b.scopes.resolveScope b.current t with
      | .ok s => if (b.scopes.scope s).kind = .loop then b.appended ⟨.breakLoop t, {}⟩ else b
      | .error _ => b := by
  rw [exec_eq, Call.run, run_emitBreak]
  cases b.scopes.resolveScope b.current t with
  | error e => rfl
  | ok s => by_cases hk : (b.scopes.scope s).kind = .loop <;> simp [hk, stateOf]

theorem exec_emitContinue (t : String) :
    b.exec (.emitContinue t) =
      match b.scopes.resolveScope b.current t with
      | .ok s => if (b.scopes.scope s).kind = .loop then b.appended ⟨.continueLoop t, {}⟩ else b
      | .error _ => b := by
  rw [exec_eq, Call.run, run_emitContinue]
  cases b.scopes.resolveScope b.current t with
  | error e => rfl
  | ok s => by_cases hk : (b.scopes.scope s).kind = .loop <;> simp [hk, stateOf]

theorem exec_checkpoint :
    b.exec .checkpoint = if b.options.debug then b.appended ⟨.debugInfo, {}⟩ else b := by
  rw [exec_eq, Call.run, run_checkpoint]
  rfl

theorem exec_registerLibrary (l : Library) :
    b.exec (.registerLibrary l) =
      if b.sealed = false ∧ firstClash b.scopes ScopeTree.root [] l.declaredNames = none ∧
          b.classes.firstMissing l.classes = none then b.withLibrary l
      else b := by
  rw [exec_eq, Call.run, run_registerLibrary]
  cases b.sealed
  · cases firstClash b.scopes ScopeTree.root [] l.declaredNames <;>
      cases b.classes.firstMissing l.classes <;> simp [stateOf]
  · simp [stateOf]

end Exec

end Builder

end ScopedIr
