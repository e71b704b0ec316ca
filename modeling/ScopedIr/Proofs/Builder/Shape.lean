import ScopedIr.Proofs.Builder.Atomic

/-!
# How a call moves the scope structure

The scope structure of a builder is which scopes exist, with their names, kinds and links,
together with the cursor and the scope brackets of the stream. A call moves it in one of four
ways only: it keeps the structure and appends instructions that open and close nothing; it
registers a library, which appends the library's initialization code as it is; it opens a
child of the current scope, appends its `SCOPE_BEGIN` and moves into it; or it closes the
current scope, appends its `SCOPE_END` and moves to the parent. Bindings, classes, natives
and positions may change on the way, but never the shape of the tree.
-/

namespace ScopedIr

/-- Whether an operation opens a scope. -/
def Operation.opensScope : Operation → Bool
  | .scopeBegin .. => true
  | _ => false

/-- Whether an operation closes a scope. -/
def Operation.closesScope : Operation → Bool
  | .scopeEnd => true
  | _ => false

/-- Whether an instruction opens or closes a scope. -/
def Instruction.isBracket (i : Instruction) : Bool := i.op.opensScope || i.op.closesScope

@[simp] theorem Instruction.op_withMeta (i : Instruction) (m : Metadata) :
    (i.withMeta m).op = i.op := rfl

@[simp] theorem Instruction.isBracket_withMeta (i : Instruction) (m : Metadata) :
    (i.withMeta m).isBracket = i.isBracket := rfl

/-- `emit` refuses every scope bracket. -/
theorem Instruction.isBracket_of_not_structural {i : Instruction}
    (h : i.op.isStructural = false) : i.isBracket = false := by
  rcases i with ⟨op, m⟩
  cases op <;> simp_all [Operation.isStructural, isBracket, Operation.opensScope,
    Operation.closesScope]

/-- Whether a call opens a scope: `beginScope` and `beginFunctionBody` always do, whether or
not they succeed. -/
def Call.opensScope : Call → Bool
  | .beginScope .. | .beginFunctionBody _ => true
  | _ => false

/-- Whether a call is `endScope`, the one call that may close a scope. -/
def Call.closesScope : Call → Bool
  | .endScope => true
  | _ => false

/-- A call that neither opens a scope nor is `endScope` keeps the cursor's scope open, whatever
the builder. -/
theorem Call.still {c : Call} (opens : c.opensScope = false) (closes : c.closesScope = false)
    (b : Builder) :
    c.opensScope = false ∧ (c = .endScope → b.scopes.hasParent b.current = false) :=
  ⟨opens, fun h => by subst h; cases closes⟩

namespace Builder

/-- The four ways a call moves the scope structure, the cursor and the stream. -/
inductive ScopeMove (b : Builder) (c : Call) (b' : Builder) : Prop where
  /-- The structure stays; the instructions appended open and close nothing. The call opens no
  scope, and closes none: a `endScope` here was refused at the global scope. -/
  | keep (still : c.opensScope = false ∧ (c = .endScope → b.scopes.hasParent b.current = false))
      (shape : b.scopes.SameShape b'.scopes) (current : b'.current = b.current)
      (extra : Array Instruction) (stream : b'.instructions = b.instructions ++ extra)
      (flat : ∀ i ∈ extra, i.isBracket = false)
  /-- A library is registered: the structure stays and its initialization code is appended. -/
  | library (l : Library) (call : c = .registerLibrary l) (ok : c.run.run b = .ok () b')
      (shape : b.scopes.SameShape b'.scopes) (current : b'.current = b.current)
      (stream : b'.instructions = b.instructions ++ l.init.toArray)
  /-- A child of the current scope is opened and entered. -/
  | enter (call : c.opensScope = true) (n : String) (k : ScopeKind)
      (shape : (b.scopes.createChild b.current n k).2.SameShape b'.scopes)
      (current : b'.current = b.scopes.size)
      (stream : b'.instructions =
        b.instructions.push (Instruction.withMeta ⟨.scopeBegin n k, {}⟩ b.metadata))
  /-- The current scope is closed and its parent becomes current. -/
  | leave (call : c = .endScope) (nested : b.scopes.hasParent b.current)
      (shape : b'.scopes = b.scopes)
      (current : b'.current = b.scopes.parentOf b.current)
      (stream : b'.instructions =
        b.instructions.push (Instruction.withMeta ⟨.scopeEnd, {}⟩ b.metadata))

section Moves

variable {b : Builder} {c : Call}

/-- Changes beside the scope structure, the cursor and the stream. -/
theorem ScopeMove.rest {b' : Builder} (shape : b'.scopes = b.scopes)
    (current : b'.current = b.current) (stream : b'.instructions = b.instructions)
    (still : c.opensScope = false ∧ (c = .endScope → b.scopes.hasParent b.current = false)) :
    ScopeMove b c b' :=
  .keep still (shape ▸ ScopeTree.SameShape.refl _) current #[] (by simp [stream]) (by simp)

/-- Appending an instruction that is no bracket, after changes that keep the structure. -/
theorem ScopeMove.append {b₁ : Builder} (shape : b.scopes.SameShape b₁.scopes)
    (current : b₁.current = b.current) (stream : b₁.instructions = b.instructions)
    {i : Instruction} (hi : i.isBracket = false)
    (still : c.opensScope = false ∧ (c = .endScope → b.scopes.hasParent b.current = false)) :
    ScopeMove b c (b₁.appended i) :=
  .keep still shape current #[i.withMeta b₁.metadata] (by simp [stream]) (by simp [hi])

end Moves

theorem sameShape_bound (b : Builder) (s : Symbol) : b.scopes.SameShape (b.bound s).scopes :=
  ScopeTree.sameShape_modifyScope _ fun _ => rfl

theorem sameShape_unbound (b : Builder) (n : String) : b.scopes.SameShape (b.unbound n).scopes :=
  ScopeTree.sameShape_modifyScope _ fun _ => rfl

/-- Binding parameters keeps the structure, the cursor and the stream. -/
theorem sameShape_bindParams (b : Builder) (ps : List Parameter) :
    b.scopes.SameShape (stateOf (bindParams b ps)).scopes := by
  induction ps generalizing b with
  | nil => exact ScopeTree.SameShape.refl _
  | cons p ps ih =>
    simp only [bindParams]
    split
    · exact ScopeTree.SameShape.refl _
    · exact (sameShape_bound b _).trans (ih _)

/-- A relation that every step of a fold keeps, and that composes, holds between the start and
the end of the fold. -/
theorem foldl_rel {α : Type} (R : Builder → Builder → Prop) (refl : ∀ b, R b b)
    (trans : ∀ b₁ b₂ b₃, R b₁ b₂ → R b₂ b₃ → R b₁ b₃) (g : Builder → α → Builder)
    (step : ∀ b x, R b (g b x)) : ∀ (xs : List α) (b : Builder), R b (xs.foldl g b)
  | [], b => refl b
  | x :: xs, b => trans _ _ _ (step b x) (foldl_rel R refl trans g step xs (g b x))

/-- What binding a library name globally keeps: the structure, the cursor and the stream. -/
private def Keeps (b b' : Builder) : Prop :=
  b.scopes.SameShape b'.scopes ∧ b'.current = b.current ∧ b'.instructions = b.instructions

private theorem keeps_refl (b : Builder) : Keeps b b := ⟨ScopeTree.SameShape.refl _, rfl, rfl⟩

private theorem keeps_trans (b₁ b₂ b₃ : Builder) (h₁ : Keeps b₁ b₂) (h₂ : Keeps b₂ b₃) :
    Keeps b₁ b₃ :=
  ⟨h₁.1.trans h₂.1, h₂.2.1.trans h₁.2.1, h₂.2.2.trans h₁.2.2⟩

theorem boundGlobal_keeps (b : Builder) (s : Symbol) :
    b.scopes.SameShape (b.boundGlobal s).scopes ∧ (b.boundGlobal s).current = b.current ∧
      (b.boundGlobal s).instructions = b.instructions :=
  ⟨ScopeTree.sameShape_addSymbol _ _ _, rfl, rfl⟩

/-- A library keeps the structure and the cursor and appends its initialization code. -/
theorem withLibrary_keeps (b : Builder) (l : Library) :
    b.scopes.SameShape (b.withLibrary l).scopes ∧ (b.withLibrary l).current = b.current ∧
      (b.withLibrary l).instructions = b.instructions ++ l.init.toArray := by
  have fold := fun {α : Type} (g : Builder → α → Builder) (hg : ∀ b x, Keeps b (g b x)) =>
    foldl_rel Keeps keeps_refl keeps_trans g hg
  obtain ⟨hs₁, hc₁, hi₁⟩ := fold (fun b f => b.boundGlobal (.function f))
    (fun b _ => boundGlobal_keeps b _) l.functions b
  obtain ⟨hs₂, hc₂, hi₂⟩ := fold (fun b kv => b.boundGlobal (.constant kv.1))
    (fun b _ => boundGlobal_keeps b _) l.constants _
  obtain ⟨hs₃, hc₃, hi₃⟩ := fold classRegistered
    (fun b c => boundGlobal_keeps { b with classes := ⟨b.classes.classes.push c⟩ } _)
    l.classes _
  refine ⟨hs₁.trans (hs₂.trans hs₃), ?_, ?_⟩
  · simp only [withLibrary]
    rw [hc₃, hc₂, hc₁]
  · simp only [withLibrary]
    rw [hi₃, hi₂, hi₁]

/-- Every call moves the scope structure in one of the four ways. -/
theorem scopeMove_exec (b : Builder) (c : Call) : ScopeMove b c (b.exec c) := by
  cases c with
  | setPosition line column => exact .rest rfl rfl rfl (Call.still rfl rfl b)
  | beginScope n k => exact .enter rfl n k (ScopeTree.SameShape.refl _) rfl rfl
  | endScope =>
    rw [exec_endScope]
    split
    · exact .leave rfl ‹_› rfl rfl rfl
    · exact .rest rfl rfl rfl ⟨rfl, fun _ => Bool.eq_false_iff.mpr ‹_›⟩
  | declareVariable n t =>
    rw [exec_declareVariable]
    split
    · exact .rest rfl rfl rfl (Call.still rfl rfl b)
    · exact .append (sameShape_bound _ _) rfl rfl rfl (Call.still rfl rfl b)
  | declareConstant n t v =>
    rw [exec_declareConstant]
    split
    · exact .rest rfl rfl rfl (Call.still rfl rfl b)
    · exact .append (sameShape_bound _ _) rfl rfl rfl (Call.still rfl rfl b)
  | releaseVariable n =>
    rw [exec_releaseVariable]
    split
    · split
      · exact .append (sameShape_unbound _ _) rfl rfl rfl (Call.still rfl rfl b)
      · exact .rest rfl rfl rfl (Call.still rfl rfl b)
    · exact .rest rfl rfl rfl (Call.still rfl rfl b)
  | defineFunction f =>
    rw [exec_defineFunction]
    split
    · exact .rest rfl rfl rfl (Call.still rfl rfl b)
    · exact .append (sameShape_bound _ _) rfl rfl rfl (Call.still rfl rfl b)
  | beginFunctionBody f =>
    rw [exec_beginFunctionBody]
    obtain ⟨hc, hi⟩ := stateOf_bindParams
      ((b.entered f.name .function).appended ⟨.scopeBegin f.name .function, {}⟩) f.params
    exact .enter rfl f.name .function (sameShape_bindParams
      ((b.entered f.name .function).appended ⟨.scopeBegin f.name .function, {}⟩) f.params) hc hi
  | defineClass c =>
    rw [exec_defineClass]
    split
    · exact .rest rfl rfl rfl (Call.still rfl rfl b)
    · split
      · exact .rest rfl rfl rfl (Call.still rfl rfl b)
      · have hs : b.scopes.SameShape ({ b with classes := ⟨b.classes.classes.push c⟩ }.bound
            (.classRef ⟨c.name, b.classes.size⟩)).scopes := sameShape_bound _ _
        exact .append hs rfl rfl rfl (Call.still rfl rfl b)
  | setClassParent c p =>
    rw [exec_setClassParent]
    split <;> exact .rest rfl rfl rfl (Call.still rfl rfl b)
  | emit i =>
    rw [exec_emit]
    split
    · exact .rest rfl rfl rfl (Call.still rfl rfl b)
    · exact .append (ScopeTree.SameShape.refl _) rfl rfl
        (Instruction.isBracket_of_not_structural (Bool.eq_false_iff.mpr ‹_›))
        (Call.still rfl rfl b)
  | emitJump t =>
    rw [exec_emitJump]
    split
    · exact .append (ScopeTree.SameShape.refl _) rfl rfl rfl (Call.still rfl rfl b)
    · exact .rest rfl rfl rfl (Call.still rfl rfl b)
  | emitCondJump cond t f =>
    rw [exec_emitCondJump]
    split
    · exact .append (ScopeTree.SameShape.refl _) rfl rfl rfl (Call.still rfl rfl b)
    · exact .rest rfl rfl rfl (Call.still rfl rfl b)
  | emitBreak t =>
    rw [exec_emitBreak]
    split
    · split
      · exact .append (ScopeTree.SameShape.refl _) rfl rfl rfl (Call.still rfl rfl b)
      · exact .rest rfl rfl rfl (Call.still rfl rfl b)
    · exact .rest rfl rfl rfl (Call.still rfl rfl b)
  | emitContinue t =>
    rw [exec_emitContinue]
    split
    · split
      · exact .append (ScopeTree.SameShape.refl _) rfl rfl rfl (Call.still rfl rfl b)
      · exact .rest rfl rfl rfl (Call.still rfl rfl b)
    · exact .rest rfl rfl rfl (Call.still rfl rfl b)
  | checkpoint =>
    rw [exec_checkpoint]
    split
    · exact .append (ScopeTree.SameShape.refl _) rfl rfl rfl (Call.still rfl rfl b)
    · exact .rest rfl rfl rfl (Call.still rfl rfl b)
  | registerLibrary l =>
    rw [exec_registerLibrary]
    split
    · next h =>
      obtain ⟨hs, hc, hi⟩ := withLibrary_keeps b l
      have hok : (Call.registerLibrary l).run.run b = .ok () (b.withLibrary l) := by
        rw [Call.run, run_registerLibrary]
        simp [h.1, h.2.1, h.2.2]
      exact .library l rfl hok hs hc hi
    · exact .rest rfl rfl rfl (Call.still rfl rfl b)

/-- No call removes, renames or moves a scope: every call extends the tree. -/
theorem extends_exec (b : Builder) (c : Call) : b.scopes.Extends (b.exec c).scopes := by
  cases scopeMove_exec b c with
  | keep _ shape _ _ _ _ => exact shape.extends
  | library _ _ _ shape _ _ => exact shape.extends
  | enter _ n k shape _ _ => exact (ScopeTree.extends_createChild _ _ n k).trans shape.extends
  | leave _ _ shape _ _ => rw [shape]

theorem extends_execAll (b : Builder) (cs : List Call) :
    b.scopes.Extends (b.execAll cs).scopes := by
  induction cs generalizing b with
  | nil => rfl
  | cons c cs ih => exact (extends_exec b c).trans (ih (b.exec c))

/-- No call removes a scope. -/
theorem size_le_exec (b : Builder) (c : Call) : b.scopes.size ≤ (b.exec c).scopes.size :=
  (extends_exec b c).size_le

end Builder

end ScopedIr
