import ScopedIr.Proofs.Builder.Shape

/-!
# What a call does to bindings

Bindings change in few ways. A declaration binds, in the current scope, a name the current
scope does not bind yet; a successful `releaseVariable` unbinds a name there; a library binds
names in the global scope, each only if the global scope does not bind it yet; and opening a
function body binds its parameters in the scope it creates. So no call ever replaces a
binding, only a release removes one, and no call touches the table of a scope that exists
before it other than the current scope or the global one.
-/

namespace ScopedIr

namespace Builder

/-- The ways a call changes the tables of the scopes that exist before it. -/
inductive BindingMove (b : Builder) (c : Call) (b' : Builder) : Prop where
  /-- Every table stays as it was. -/
  | keep (tables : ∀ s, s < b.scopes.size → (b'.scopes.scope s).table = (b.scopes.scope s).table)
  /-- A name the current scope does not bind is bound there. -/
  | bind (d : Decl) (fresh : (b.scopes.scope b.current).lookup d.name = none)
      (scopes : ∀ s, s < b.scopes.size →
        b'.scopes.scope s = if s = b.current then (b.scopes.scope s).bind d else b.scopes.scope s)
  /-- A successful release unbinds a name in the current scope. -/
  | release (n : String) (call : c = .releaseVariable n) (ok : c.run.run b = .ok () b')
      (scopes : ∀ s, s < b.scopes.size →
        b'.scopes.scope s = if s = b.current then (b.scopes.scope s).unbind n else b.scopes.scope s)
  /-- A library binds names in the global scope and replaces none. -/
  | library
      (others : ∀ s, s ≠ ScopeTree.root → (b'.scopes.scope s).table = (b.scopes.scope s).table)
      (global : ∀ n d, (b.scopes.scope ScopeTree.root).lookup n = some d →
        (b'.scopes.scope ScopeTree.root).lookup n = some d)

section Moves

variable {b : Builder} {c : Call}

theorem BindingMove.same {b' : Builder} (h : b'.scopes = b.scopes) : BindingMove b c b' :=
  .keep fun _ _ => by rw [h]

/-- Registering a symbol whose name the current scope does not bind. -/
theorem BindingMove.bound {b' : Builder} {sym : Symbol} (h : b'.scopes = (b.bound sym).scopes)
    (free : b.scopes.hasSymbol b.current sym.name = false) : BindingMove b c b' := by
  refine .bind ⟨sym, b.nextSerial⟩ (by simpa [ScopeTree.hasSymbol, Decl.name] using free)
    fun s hs => ?_
  rw [h, Builder.bound, ScopeTree.scope_modifyScope]
  by_cases hc : s = b.current
  · subst hc
    simp [hs]
  · simp [hc, Ne.symm hc]

end Moves

/-- Binding parameters touches no scope but the current one. -/
theorem table_bindParams (b : Builder) (ps : List Parameter) {s : ScopeId} (hs : s ≠ b.current) :
    ((stateOf (bindParams b ps)).scopes.scope s).table = (b.scopes.scope s).table := by
  induction ps generalizing b with
  | nil => rfl
  | cons p ps ih =>
    simp only [bindParams]
    split
    · rfl
    · rw [ih (b.bound _) hs, Builder.bound, ScopeTree.scope_modifyScope,
        if_neg fun h => hs h.1.symm]

/-- A binding found after parameters are bound is one of them, or was there before. -/
theorem lookup_bindParams (b : Builder) (ps : List Parameter) {s : ScopeId} {n : String} {d : Decl}
    (h : ((stateOf (bindParams b ps)).scopes.scope s).lookup n = some d) :
    (b.scopes.scope s).lookup n = some d ∨ ∃ p ∈ ps, p.name = n := by
  induction ps generalizing b with
  | nil => exact Or.inl h
  | cons p ps ih =>
    simp only [bindParams] at h
    split at h
    · exact Or.inl h
    · rcases ih _ h with h | ⟨q, hq, hn⟩
      · rcases ScopeTree.lookup_modifyScope_bind h with ⟨-, rfl⟩ | h
        · exact Or.inr ⟨p, List.mem_cons_self, Scope.name_of_lookup h⟩
        · exact Or.inl h
      · exact Or.inr ⟨q, List.mem_cons_of_mem _ hq, hn⟩

/-- What binding library names globally keeps: every other table, and every global binding. -/
private def GlobalOnly (b b' : Builder) : Prop :=
  (∀ s, s ≠ ScopeTree.root → (b'.scopes.scope s).table = (b.scopes.scope s).table) ∧
    ∀ n d, (b.scopes.scope ScopeTree.root).lookup n = some d →
      (b'.scopes.scope ScopeTree.root).lookup n = some d

private theorem globalOnly_boundGlobal (b : Builder) (sym : Symbol) :
    GlobalOnly b (b.boundGlobal sym) :=
  ⟨fun _ hs => ScopeTree.table_addSymbol_of_ne _ _ _ hs,
    fun _ _ h => ScopeTree.lookup_addSymbol_of_some _ _ _ h⟩

/-- A library binds names in the global scope only, and replaces none. -/
theorem withLibrary_globalOnly (b : Builder) (l : Library) :
    (∀ s, s ≠ ScopeTree.root →
      ((b.withLibrary l).scopes.scope s).table = (b.scopes.scope s).table) ∧
    ∀ n d, (b.scopes.scope ScopeTree.root).lookup n = some d →
      ((b.withLibrary l).scopes.scope ScopeTree.root).lookup n = some d := by
  have fold := fun {α : Type} (g : Builder → α → Builder) (hg : ∀ b x, GlobalOnly b (g b x)) =>
    foldl_rel GlobalOnly (fun _ => ⟨fun _ _ => rfl, fun _ _ h => h⟩)
      (fun _ _ _ h₁ h₂ => ⟨fun s hs => (h₂.1 s hs).trans (h₁.1 s hs),
        fun n d h => h₂.2 n d (h₁.2 n d h)⟩) g hg
  let b₁ := l.functions.foldl (fun b f => b.boundGlobal (.function f)) b
  let b₂ := l.constants.foldl (fun b kv => b.boundGlobal (.constant kv.1)) b₁
  have h₁ := fold (fun b f => b.boundGlobal (.function f))
    (fun b _ => globalOnly_boundGlobal b _) l.functions b
  have h₂ := fold (fun b kv => b.boundGlobal (.constant kv.1))
    (fun b _ => globalOnly_boundGlobal b _) l.constants b₁
  have h₃ := fold classRegistered
    (fun b c => globalOnly_boundGlobal { b with classes := ⟨b.classes.classes.push c⟩ } _)
    l.classes b₂
  exact ⟨fun s hs => ((h₃.1 s hs).trans (h₂.1 s hs)).trans (h₁.1 s hs),
    fun n d h => h₃.2 n d (h₂.2 n d (h₁.2 n d h))⟩

/-- Every variable bound after `b'` was bound before, in `b`. -/
private def NoNewVariable (b b' : Builder) : Prop :=
  ∀ s n d, (b'.scopes.scope s).lookup n = some d → d.symbol.kind = .variable →
    (b.scopes.scope s).lookup n = some d

private theorem noNewVariable_boundGlobal (b : Builder) {sym : Symbol}
    (hsym : sym.kind ≠ .variable) : NoNewVariable b (b.boundGlobal sym) := by
  intro s n d h hv
  simp only [boundGlobal, ScopeTree.addSymbol] at h
  split at h
  · exact h
  · rcases ScopeTree.lookup_modifyScope_bind h with ⟨-, rfl⟩ | h
    · exact absurd hv hsym
    · exact h

/-- A library binds no variable. -/
theorem withLibrary_variables (b : Builder) (l : Library) {s : ScopeId} {n : String} {d : Decl}
    (h : ((b.withLibrary l).scopes.scope s).lookup n = some d) (hv : d.symbol.kind = .variable) :
    (b.scopes.scope s).lookup n = some d := by
  have fold := fun {α : Type} (g : Builder → α → Builder) (hg : ∀ b x, NoNewVariable b (g b x)) =>
    foldl_rel NoNewVariable (fun _ _ _ _ h _ => h)
      (fun _ _ _ h₁ h₂ s n d h hv => h₁ s n d (h₂ s n d h hv) hv) g hg
  let b₁ := l.functions.foldl (fun b f => b.boundGlobal (.function f)) b
  let b₂ := l.constants.foldl (fun b kv => b.boundGlobal (.constant kv.1)) b₁
  have h₁ := fold (fun b f => b.boundGlobal (.function f))
    (fun b _ => noNewVariable_boundGlobal b nofun) l.functions b
  have h₂ := fold (fun b kv => b.boundGlobal (.constant kv.1))
    (fun b _ => noNewVariable_boundGlobal b nofun) l.constants b₁
  have h₃ := fold classRegistered
    (fun b c => noNewVariable_boundGlobal { b with classes := ⟨b.classes.classes.push c⟩ } nofun)
    l.classes b₂
  exact h₁ s n d (h₂ s n d (h₃ s n d h hv) hv) hv

/-- Every call changes the tables of the existing scopes in one of the four ways. -/
theorem bindingMove_exec (b : Builder) (c : Call) : BindingMove b c (b.exec c) := by
  cases c with
  | setPosition line column => exact .same rfl
  | beginScope n k => exact .keep fun s hs => ScopeTree.table_createChild_of_lt _ _ _ _ hs
  | endScope =>
    rw [exec_endScope]
    split <;> exact .same rfl
  | declareVariable n t =>
    rw [exec_declareVariable]
    split
    · exact .same rfl
    · exact .bound rfl (Bool.eq_false_iff.mpr ‹_›)
  | declareConstant n t v =>
    rw [exec_declareConstant]
    split
    · exact .same rfl
    · exact .bound rfl (Bool.eq_false_iff.mpr ‹_›)
  | releaseVariable n =>
    rw [exec_releaseVariable]
    split
    · next d hd =>
      split
      · next hk =>
        have ok : (Call.releaseVariable n).run.run b =
            .ok () ((b.unbound n).appended ⟨.release n, {}⟩) := by
          rw [Call.run, run_releaseVariable, hd]
          exact if_pos hk
        refine .release n rfl ok fun s hs => ?_
        simp only [appended_scopes, unbound, ScopeTree.scope_modifyScope]
        by_cases hc : s = b.current
        · subst hc
          simp [hs]
        · simp [hc, Ne.symm hc]
      · exact .same rfl
    · exact .same rfl
  | defineFunction f =>
    rw [exec_defineFunction]
    split
    · exact .same rfl
    · exact .bound rfl (Bool.eq_false_iff.mpr ‹_›)
  | beginFunctionBody f =>
    rw [exec_beginFunctionBody]
    refine .keep fun s hs => ?_
    rw [table_bindParams _ _ (Nat.ne_of_lt hs)]
    exact ScopeTree.table_createChild_of_lt _ _ _ _ hs
  | defineClass c =>
    rw [exec_defineClass]
    split
    · exact .same rfl
    · split
      · exact .same rfl
      · exact .bound rfl (Bool.eq_false_iff.mpr ‹_›)
  | setClassParent c p =>
    rw [exec_setClassParent]
    split <;> exact .same rfl
  | emit i =>
    rw [exec_emit]
    split <;> exact .same rfl
  | emitJump t =>
    rw [exec_emitJump]
    split <;> exact .same rfl
  | emitCondJump cond t f =>
    rw [exec_emitCondJump]
    split <;> exact .same rfl
  | emitBreak t =>
    rw [exec_emitBreak]
    split
    · split <;> exact .same rfl
    · exact .same rfl
  | emitContinue t =>
    rw [exec_emitContinue]
    split
    · split <;> exact .same rfl
    · exact .same rfl
  | checkpoint =>
    rw [exec_checkpoint]
    split <;> exact .same rfl
  | registerLibrary l =>
    rw [exec_registerLibrary]
    split
    · obtain ⟨others, global⟩ := withLibrary_globalOnly b l
      exact .library others global
    · exact .same rfl

/-- No call replaces a binding, and only a successful release in its scope removes one: the
binding of a name in an existing scope survives every other call. -/
theorem lookup_exec_of_bound (b : Builder) (c : Call) {s : ScopeId} (hs : s < b.scopes.size)
    {n : String} {d : Decl} (hd : (b.scopes.scope s).lookup n = some d)
    (hrel : ¬ (b.current = s ∧ c = .releaseVariable n ∧ ∃ b', c.run.run b = .ok () b')) :
    ((b.exec c).scopes.scope s).lookup n = some d := by
  cases bindingMove_exec b c with
  | keep tables =>
    rw [Scope.lookup, tables s hs]
    exact hd
  | bind d' fresh scopes =>
    rw [scopes s hs]
    split
    · next hc =>
      subst hc
      -- the name bound was free in the current scope, where `n` is bound
      have hne : n ≠ d'.name := by
        rintro rfl
        simp [hd] at fresh
      rw [Scope.lookup_bind_of_ne _ _ hne, hd]
    · exact hd
  | release m call ok scopes =>
    rw [scopes s hs]
    split
    · next hc =>
      subst hc
      have hne : n ≠ m := by
        rintro rfl
        exact hrel ⟨rfl, call, _, ok⟩
      rw [Scope.lookup_unbind_of_ne _ hne, hd]
    · exact hd
  | library others global =>
    by_cases hr : s = ScopeTree.root
    · subst hr
      exact global n d hd
    · rw [Scope.lookup, others s hr]
      exact hd

/-- A call leaves the table of every existing scope other than the current and the global one. -/
theorem table_exec_of_ne (b : Builder) (c : Call) {s : ScopeId} (hs : s < b.scopes.size)
    (hc : s ≠ b.current) (hr : s ≠ ScopeTree.root) :
    ((b.exec c).scopes.scope s).table = (b.scopes.scope s).table := by
  cases bindingMove_exec b c with
  | keep tables => exact tables s hs
  | bind _ _ scopes => rw [scopes s hs, if_neg hc]
  | release _ _ _ scopes => rw [scopes s hs, if_neg hc]
  | library others _ => exact others s hr

end Builder

end ScopedIr
