import ScopedIr.Proofs.Builder.Spec

/-!
# Failed calls

Every builder operation checks what it needs before it changes anything, with one exception:
opening a function body creates the body scope, appends its `SCOPE_BEGIN` and moves into it
first, and then binds the parameters one after the other. Two parameters of one name make it
fail with the scope already open and the earlier parameters bound. A failed call of any other
operation leaves the builder exactly as it was: the same scope tree, class table, native
registry, stream, cursor and seal.
-/

namespace ScopedIr

namespace Builder

/-- Binding parameters moves neither the cursor nor the stream. -/
theorem stateOf_bindParams (b : Builder) (ps : List Parameter) :
    (stateOf (bindParams b ps)).current = b.current ∧
      (stateOf (bindParams b ps)).instructions = b.instructions := by
  induction ps generalizing b with
  | nil => exact ⟨rfl, rfl⟩
  | cons p ps ih =>
    simp only [bindParams]
    split
    · exact ⟨rfl, rfl⟩
    · exact ih _

/-- Binding a symbol in the current scope binds its name there and keeps the other names. -/
theorem hasSymbol_bound (b : Builder) (s : Symbol) (n : String) (h : b.current < b.scopes.size) :
    (b.bound s).scopes.hasSymbol b.current n = (n == s.name || b.scopes.hasSymbol b.current n) := by
  simp only [bound, ScopeTree.hasSymbol, ScopeTree.lookup_modifyScope, h, and_self, if_true]
  by_cases hn : n = s.name
  · subst hn
    have := Scope.lookup_bind_self (b.scopes.scope b.current) ⟨s, b.nextSerial⟩
    simp only [Decl.name] at this
    simp [this]
  · simp [hn, Scope.lookup_bind_of_ne _ ⟨s, b.nextSerial⟩ (n := n) hn]

/-- Parameters bind exactly when their names are distinct and none is bound already. -/
theorem bindParams_ok_iff (b : Builder) (ps : List Parameter) (h : b.current < b.scopes.size) :
    (∃ b', bindParams b ps = .ok ⟨⟩ b') ↔
      (ps.map (·.name)).Nodup ∧ ∀ p ∈ ps, b.scopes.hasSymbol b.current p.name = false := by
  induction ps generalizing b with
  | nil => simp [bindParams]
  | cons p ps ih =>
    have hb : (b.bound (.variable p.toVariable)).current <
        (b.bound (.variable p.toVariable)).scopes.size := by
      simpa [bound] using h
    by_cases hp : b.scopes.hasSymbol b.current p.name
    · simp [bindParams, hp]
    · simp only [bindParams, hp, Bool.false_eq_true, if_false, ih _ hb, bound_current,
        hasSymbol_bound _ _ _ h, List.map_cons, List.nodup_cons, List.forall_mem_cons]
      simp only [Symbol.name, Parameter.toVariable, Bool.or_eq_false_iff, beq_eq_false_iff_ne,
        List.mem_map, not_exists, not_and]
      constructor
      · rintro ⟨hd, hs⟩
        refine ⟨⟨fun q hq he => (hs q hq).1 he, hd⟩, by simp, fun q hq => (hs q hq).2⟩
      · rintro ⟨⟨hn, hd⟩, -, hs⟩
        exact ⟨hd, fun q hq => ⟨fun he => hn q hq he, hs q hq⟩⟩

/-- A result that is the error `e` in state `b` fails in state `b`. -/
private theorem error_state {α : Type} {e e' : BuildError} {b b' : Builder}
    (h : (EStateM.Result.error e b : EStateM.Result BuildError Builder α) = .error e' b') :
    b' = b := by
  cases h
  rfl

/-- Dropping the result of an operation keeps its failures. -/
private theorem error_of_discard {α : Type} {x : BuildM α} {b b' : Builder} {e : BuildError}
    (h : (discard x).run b = .error e b') : x.run b = .error e b' := by
  rw [run_discard] at h
  split at h
  · cases h
  · cases h
    assumption

/-- Every failed call other than the opening of a function body leaves the builder as it was. -/
theorem run_error_eq (b : Builder) (c : Call) (e : BuildError) (b' : Builder)
    (h : c.run.run b = .error e b') (hc : ∀ f, c ≠ .beginFunctionBody f) : b' = b := by
  cases c with
  | setPosition => cases h
  | beginScope n k =>
    have h := error_of_discard h
    rw [run_beginScope] at h
    cases h
  | endScope =>
    have h := error_of_discard h
    rw [run_endScope] at h
    split at h
    · cases h
    · exact error_state h
  | declareVariable n t =>
    have h := error_of_discard h
    rw [run_declareVariable] at h
    split at h
    · exact error_state h
    · cases h
  | declareConstant n t v =>
    have h := error_of_discard h
    rw [run_declareConstant] at h
    split at h
    · exact error_state h
    · cases h
  | releaseVariable n =>
    rw [Call.run, run_releaseVariable] at h
    split at h
    · exact error_state h
    · split at h
      · cases h
      · exact error_state h
  | defineFunction f =>
    have h := error_of_discard h
    rw [run_defineFunction] at h
    split at h
    · exact error_state h
    · cases h
  | beginFunctionBody f => exact absurd rfl (hc f)
  | defineClass c =>
    have h := error_of_discard h
    rw [run_defineClass] at h
    split at h
    · exact error_state h
    · split at h
      · exact error_state h
      · cases h
  | setClassParent c p =>
    rw [Call.run, run_setClassParent] at h
    split at h
    · exact error_state h
    · cases h
  | emit i =>
    rw [Call.run, run_emit] at h
    split at h
    · exact error_state h
    · cases h
  | emitJump t =>
    rw [Call.run, run_emitJump] at h
    split at h
    · cases h
    · exact error_state h
  | emitCondJump cond t f =>
    rw [Call.run, run_emitCondJump] at h
    split at h
    · exact error_state h
    · exact error_state h
    · split at h
      · cases h
      · exact error_state h
  | emitBreak t =>
    rw [Call.run, run_emitBreak] at h
    split at h
    · split at h
      · cases h
      · exact error_state h
    · exact error_state h
  | emitContinue t =>
    rw [Call.run, run_emitContinue] at h
    split at h
    · split at h
      · cases h
      · exact error_state h
    · exact error_state h
  | checkpoint =>
    rw [Call.run, run_checkpoint] at h
    cases h
  | registerLibrary l =>
    rw [Call.run, run_registerLibrary] at h
    split at h
    · exact error_state h
    · split at h
      · exact error_state h
      · split at h
        · exact error_state h
        · cases h

/-- The builder a function body's parameters are bound in: the body scope is open. -/
private theorem opened_body (b : Builder) (f : Function) :
    let b₁ := (b.entered f.name .function).appended ⟨.scopeBegin f.name .function, {}⟩
    b₁.current = b.scopes.size ∧ b₁.current < b₁.scopes.size ∧
      ∀ n, b₁.scopes.hasSymbol b₁.current n = false := by
  refine ⟨rfl, by simp, fun n => ?_⟩
  simp [ScopeTree.hasSymbol, ScopeTree.lookup_createChild_self]

/-- Opening a function body fails exactly when two of its parameters share a name. -/
theorem beginFunctionBody_fails_iff (b : Builder) (f : Function) :
    (∃ e b', (Call.beginFunctionBody f).run.run b = .error e b') ↔
      ¬ (f.params.map (·.name)).Nodup := by
  obtain ⟨-, hlt, hempty⟩ := opened_body b f
  have hok := bindParams_ok_iff _ f.params hlt
  simp only [hempty, and_true, implies_true] at hok
  rw [Call.run]
  constructor
  · rintro ⟨e, b', h⟩ hn
    obtain ⟨b'', hb⟩ := hok.mpr hn
    have := error_of_discard h
    rw [run_beginFunctionBody, hb] at this
    cases this
  · intro hn
    cases hb : bindParams ((b.entered f.name .function).appended
        ⟨.scopeBegin f.name .function, {}⟩) f.params with
    | ok _ b'' => exact absurd (hok.mp ⟨b'', hb⟩) hn
    | error e b'' => exact ⟨e, b'', by rw [run_discard, run_beginFunctionBody, hb]⟩

/-- A failed opening of a function body leaves the body scope open, with its `SCOPE_BEGIN`
appended. -/
theorem beginFunctionBody_error_state {b b' : Builder} {f : Function} {e : BuildError}
    (h : (Call.beginFunctionBody f).run.run b = .error e b') :
    b'.current = b.scopes.size ∧
      b'.instructions =
        b.instructions.push
          (Instruction.withMeta ⟨.scopeBegin f.name .function, {}⟩ b.metadata) := by
  have hs : b' = b.exec (.beginFunctionBody f) := by simp [exec, h]
  rw [hs, exec_beginFunctionBody]
  obtain ⟨hc, hi⟩ := stateOf_bindParams
    ((b.entered f.name .function).appended ⟨.scopeBegin f.name .function, {}⟩) f.params
  exact ⟨hc, hi⟩

/-- A failed call leaves the builder exactly as it was unless it opens a function body. That
call fails exactly when two parameters of the function share a name, and then leaves the body
scope open. -/
theorem failed_call_restores_builder_iff (b : Builder) (c : Call) :
    (∀ e b', c.run.run b = .error e b' → (b' = b ↔ ∀ f, c ≠ .beginFunctionBody f)) ∧
      ∀ f, (∃ e b', (Call.beginFunctionBody f).run.run b = .error e b') ↔
        ¬ (f.params.map (·.name)).Nodup := by
  refine ⟨fun e b' h => ⟨fun hb f hf => ?_, run_error_eq b c e b' h⟩,
    beginFunctionBody_fails_iff b⟩
  subst hf hb
  have := congrArg Array.size (beginFunctionBody_error_state h).2
  simp at this

end Builder

end ScopedIr
