import ScopedIr.Proofs.Builder.Registration
import ScopedIr.Proofs.Builder.Visibility
import ScopedIr.Proofs.Class.Methods

/-!
# Class bindings follow the class table

A builder keeps every class twice: in its class table, by index, and in a scope table, as the
binding of the class's name to a reference carrying that name and index. The two stay in step.
`defineClass` checks that the current scope does not bind the class's name before it registers
the class, and then binds it there; a library checks every name it declares before it
registers anything, and binds each of its classes globally right after registering it. No
other call registers a class or binds a class reference, and no call removes a class binding:
only a release removes a binding, and it takes nothing but a variable.

So, at every state of every run, the class bindings and the classes correspond one to one:
each class binding names a registered class by that class's own name and index, no class is
bound twice, and every registered class is bound, in the scope that was current when
`defineClass` registered it, or in the global scope for a library class.

The argument has three parts: a call keeps the names of the classes there are and adds class
bindings only in one scope and only for the classes it registers (`ClassGrowth`); a call binds
every class it registers (`bindsClass_exec_of_new`); and no call loses a class binding
(`BindsClass.exec`). A new class's index is the table's size when it is registered, beyond every
class an earlier binding names, so old and new bindings never name the same class.
-/

namespace ScopedIr

open ScopeTree (root)

namespace ScopeTree

/-- Only the scopes a tree created bind anything. -/
theorem lt_size_of_lookup {t : ScopeTree} {s : ScopeId} {n : String} {d : Decl}
    (h : (t.scope s).lookup n = some d) : s < t.size := by
  rcases Nat.lt_or_ge s t.size with hlt | hge
  · exact hlt
  · -- a scope the tree never created reads as the empty scope
    have hnone : t.get? s = none := Array.getElem?_eq_none hge
    have hempty : (default : Scope).table = [] := rfl
    simp [scope, hnone, Scope.lookup, hempty] at h

end ScopeTree

namespace ClassTable

theorem exists_get?_of_lt {t : ClassTable} {i : Nat} (h : i < t.size) : ∃ c, t.get? i = some c :=
  ⟨t.classes[i], Array.getElem?_eq_getElem h⟩

/-- Relinking a parent keeps the name of every class. -/
theorem name_get?_setParent {t t' : ClassTable} {i : Nat} {p : Option Nat}
    (h : t.setParent i p = .ok t') {j : Nat} {c : ClassDef} (hc : t.get? j = some c) :
    ∃ c', t'.get? j = some c' ∧ c'.name = c.name := by
  obtain ⟨-, -, rfl⟩ := setParent_ok h
  rw [get?_modify, hc]
  split <;> exact ⟨_, rfl, rfl⟩

end ClassTable

namespace Builder

/-- Scope `s` binds the class reference `r` under its name, by the declaration `d`. -/
def BindsClass (b : Builder) (s : ScopeId) (r : ClassRef) (d : Decl) : Prop :=
  (b.scopes.scope s).lookup r.name = some d ∧ d.symbol = .classRef r

/-- The class bindings of a builder and the classes of its table correspond one to one: every
class binding names a registered class by the class's own name and index, two bindings of one
class are the same binding in the same scope, and every registered class is bound. -/
structure ClassesBound (b : Builder) : Prop where
  registered : ∀ s r d, b.BindsClass s r d →
    ∃ c, b.classes.get? r.index = some c ∧ c.name = r.name
  once : ∀ s s' r r' d d', b.BindsClass s r d → b.BindsClass s' r' d' → r.index = r'.index →
    s = s' ∧ r = r' ∧ d = d'
  bound : ∀ i c, b.classes.get? i = some c → ∃ s d, b.BindsClass s ⟨c.name, i⟩ d

/-! ### Class bindings under the state changes -/

section Changes

variable {b : Builder} {s : ScopeId} {r : ClassRef} {d : Decl}

/-- Binding a symbol in the current scope adds no class binding but one of that symbol. -/
theorem BindsClass.of_bound {sym : Symbol} (h : (b.bound sym).BindsClass s r d) :
    b.BindsClass s r d ∨ (s = b.current ∧ sym = .classRef r) := by
  obtain ⟨hl, hsym⟩ := h
  rcases ScopeTree.lookup_modifyScope_bind hl with ⟨rfl, rfl⟩ | hl
  · exact Or.inr ⟨rfl, hsym⟩
  · exact Or.inl ⟨hl, hsym⟩

/-- Binding a symbol that is not a class adds no class binding. -/
theorem BindsClass.of_bound_ne {sym : Symbol} (hsym : sym.kind ≠ .classRef)
    (h : (b.bound sym).BindsClass s r d) : b.BindsClass s r d := by
  refine h.of_bound.resolve_right ?_
  rintro ⟨-, rfl⟩
  exact hsym rfl

/-- Binding a symbol globally adds no class binding but one of that symbol, globally. -/
theorem BindsClass.of_boundGlobal {sym : Symbol} (h : (b.boundGlobal sym).BindsClass s r d) :
    b.BindsClass s r d ∨ (s = root ∧ sym = .classRef r) := by
  obtain ⟨hl, hsym⟩ := h
  simp only [boundGlobal, ScopeTree.addSymbol] at hl
  split at hl
  · exact Or.inl ⟨hl, hsym⟩
  · rcases ScopeTree.lookup_modifyScope_bind hl with ⟨rfl, rfl⟩ | hl
    · exact Or.inr ⟨rfl, hsym⟩
    · exact Or.inl ⟨hl, hsym⟩

/-- Binding a symbol that is not a class globally adds no class binding. -/
theorem BindsClass.of_boundGlobal_ne {sym : Symbol} (hsym : sym.kind ≠ .classRef)
    (h : (b.boundGlobal sym).BindsClass s r d) : b.BindsClass s r d := by
  refine h.of_boundGlobal.resolve_right ?_
  rintro ⟨-, rfl⟩
  exact hsym rfl

theorem BindsClass.of_unbound {n : String} (h : (b.unbound n).BindsClass s r d) :
    b.BindsClass s r d := by
  obtain ⟨hl, hsym⟩ := h
  refine ⟨?_, hsym⟩
  simp only [unbound, ScopeTree.lookup_modifyScope] at hl
  split at hl
  · by_cases hn : r.name = n
    · rw [hn, Scope.lookup_unbind_self] at hl
      cases hl
    · rwa [Scope.lookup_unbind_of_ne _ hn] at hl
  · exact hl

/-- A new child scope binds nothing, and the other scopes keep their tables. -/
theorem BindsClass.of_entered {n : String} {k : ScopeKind} (h : (b.entered n k).BindsClass s r d) :
    b.BindsClass s r d := by
  obtain ⟨hl, hsym⟩ := h
  refine ⟨?_, hsym⟩
  simp only [entered, ScopeTree.scope_createChild] at hl
  split at hl
  · simp [Scope.lookup] at hl
  · split at hl <;> exact hl

/-- Parameters are variables, so binding them adds no class binding. -/
theorem BindsClass.of_bindParams {ps : List Parameter}
    (h : (stateOf (bindParams b ps)).BindsClass s r d) : b.BindsClass s r d := by
  induction ps generalizing b with
  | nil => exact h
  | cons p ps ih =>
    simp only [bindParams] at h
    split at h
    · exact h
    · exact (ih h).of_bound_ne (by simp [Symbol.kind])

/-- No call removes or replaces a class binding: only a release removes a binding, and it
takes variables only. -/
theorem BindsClass.exec (h : b.BindsClass s r d) (c : Call) : (b.exec c).BindsClass s r d := by
  refine ⟨lookup_exec_of_bound b c (ScopeTree.lt_size_of_lookup h.1) h.1 ?_, h.2⟩
  rintro ⟨rfl, rfl, b', hok⟩
  simp [Call.run, run_releaseVariable, h.1, h.2, Symbol.kind] at hok

theorem BindsClass.execAll (h : b.BindsClass s r d) (cs : List Call) :
    (b.execAll cs).BindsClass s r d :=
  execAll_induction (fun b => b.BindsClass s r d) (fun _ c h => h.exec c) cs b h

end Changes

/-! ### What one call does to class bindings -/

/-- How a step may change class bindings and classes: the classes of `b` keep their names in
`b'`, and every class binding of `b'` is one of `b` or, in the scope `S`, one of a class that
`b'` holds beyond the classes of `b`, bound under that class's name. -/
structure ClassGrowth (S : ScopeId) (b b' : Builder) : Prop where
  names : ∀ i c, b.classes.get? i = some c → ∃ c', b'.classes.get? i = some c' ∧ c'.name = c.name
  origin : ∀ s r d, b'.BindsClass s r d → b.BindsClass s r d ∨
    (s = S ∧ b.classes.size ≤ r.index ∧ ∃ c, b'.classes.get? r.index = some c ∧ c.name = r.name)

namespace ClassGrowth

variable {S : ScopeId} {b₁ b₂ b₃ : Builder}

theorem refl (S : ScopeId) (b : Builder) : ClassGrowth S b b :=
  ⟨fun _ c h => ⟨c, h, rfl⟩, fun _ _ _ h => Or.inl h⟩

/-- A step that keeps the class table and adds no class binding. -/
theorem of_classes_eq (hc : b₂.classes = b₁.classes)
    (hb : ∀ s r d, b₂.BindsClass s r d → b₁.BindsClass s r d) : ClassGrowth S b₁ b₂ :=
  ⟨fun _ c h => ⟨c, by rw [hc]; exact h, rfl⟩, fun s r d h => Or.inl (hb s r d h)⟩

/-- A step that keeps the scopes and the class table. -/
theorem of_same (hs : b₂.scopes = b₁.scopes) (hc : b₂.classes = b₁.classes) :
    ClassGrowth S b₁ b₂ :=
  of_classes_eq hc fun s r d h => by
    unfold BindsClass at h ⊢
    rwa [hs] at h

/-- Declaring a symbol that is not a class: binding it in the current scope and emitting its
instruction. -/
theorem declared_of_kind_ne {sym : Symbol} {i : Instruction} (hsym : sym.kind ≠ .classRef) :
    ClassGrowth S b₁ ((b₁.bound sym).appended i) :=
  of_classes_eq rfl fun _ _ _ h => h.of_bound_ne hsym

/-- Binding a symbol that is not a class globally. -/
theorem boundGlobal_of_kind_ne {sym : Symbol} (hsym : sym.kind ≠ .classRef) :
    ClassGrowth S b₁ (b₁.boundGlobal sym) :=
  of_classes_eq rfl fun _ _ _ h => h.of_boundGlobal_ne hsym

/-- A step that appends the class `c` and binds it in `S` under the next index. -/
theorem push {c : ClassDef} (hc : b₂.classes = ⟨b₁.classes.classes.push c⟩)
    (hb : ∀ s r d, b₂.BindsClass s r d →
      b₁.BindsClass s r d ∨ (s = S ∧ r = ⟨c.name, b₁.classes.size⟩)) :
    ClassGrowth S b₁ b₂ where
  names i c' h := by
    refine ⟨c', ?_, rfl⟩
    rw [hc, ClassTable.get?_push, if_neg (Nat.ne_of_lt (ClassTable.lt_size_of_get? h))]
    exact h
  origin s r d h := by
    rcases hb s r d h with h | ⟨hs, rfl⟩
    · exact Or.inl h
    · exact Or.inr ⟨hs, le_refl _, c, by rw [hc, ClassTable.get?_push, if_pos rfl], rfl⟩

theorem size_le (h : ClassGrowth S b₁ b₂) : b₁.classes.size ≤ b₂.classes.size := by
  -- the last class of `b₁` is still there
  rcases Nat.eq_zero_or_pos b₁.classes.size with h0 | hpos
  · omega
  · obtain ⟨c, hc⟩ := ClassTable.exists_get?_of_lt (Nat.sub_lt hpos Nat.one_pos)
    obtain ⟨c', hc', -⟩ := h.names _ c hc
    have := ClassTable.lt_size_of_get? hc'
    omega

theorem trans (h₁ : ClassGrowth S b₁ b₂) (h₂ : ClassGrowth S b₂ b₃) : ClassGrowth S b₁ b₃ where
  names i c hc := by
    obtain ⟨c₂, hc₂, hn₂⟩ := h₁.names i c hc
    obtain ⟨c₃, hc₃, hn₃⟩ := h₂.names i c₂ hc₂
    exact ⟨c₃, hc₃, hn₃.trans hn₂⟩
  origin s r d hd := by
    rcases h₂.origin s r d hd with hd | ⟨hs, hle, hc⟩
    · rcases h₁.origin s r d hd with hd | ⟨hs, hle, c, hc, hn⟩
      · exact Or.inl hd
      · obtain ⟨c', hc', hn'⟩ := h₂.names _ c hc
        exact Or.inr ⟨hs, hle, c', hc', hn'.trans hn⟩
    · exact Or.inr ⟨hs, Nat.le_trans h₁.size_le hle, hc⟩

end ClassGrowth

/-- A library binds its functions and constants, which are no classes, and binds each of its
classes globally right after appending it. -/
theorem classGrowth_withLibrary (b : Builder) (l : Library) :
    ClassGrowth root b (b.withLibrary l) := by
  have fold := fun {α : Type} (g : Builder → α → Builder) (hg : ∀ b x, ClassGrowth root b (g b x)) =>
    foldl_rel (ClassGrowth root) (ClassGrowth.refl root) (fun _ _ _ => ClassGrowth.trans) g hg
  let b₁ := l.functions.foldl (fun b f => b.boundGlobal (.function f)) b
  let b₂ := l.constants.foldl (fun b (kv : Constant × Value) => b.boundGlobal (.constant kv.1)) b₁
  -- a function or a constant is no class
  have h₁ : ClassGrowth root b b₁ :=
    fold _ (fun _ _ => .boundGlobal_of_kind_ne (by simp [Symbol.kind])) l.functions b
  have h₂ : ClassGrowth root b₁ b₂ :=
    fold _ (fun _ _ => .boundGlobal_of_kind_ne (by simp [Symbol.kind])) l.constants b₁
  have h₃ : ClassGrowth root b₂ (l.classes.foldl classRegistered b₂) := by
    refine fold classRegistered (fun b c => .push rfl fun _ _ _ h => ?_) l.classes b₂
    rcases h.of_boundGlobal with h | ⟨hs, he⟩
    · exact Or.inl h
    · exact Or.inr ⟨hs, (Symbol.classRef.inj he).symm⟩
  exact h₁.trans (h₂.trans (h₃.trans (.of_same rfl rfl)))

/-- Every call keeps the names of the classes there are and binds, in one scope, only classes
it registers. -/
theorem classGrowth_exec (b : Builder) (c : Call) : ∃ S, ClassGrowth S b (b.exec c) := by
  cases c with
  | setPosition => exact ⟨root, .of_same rfl rfl⟩
  | beginScope n k =>
    rw [exec_beginScope]
    exact ⟨root, .of_classes_eq rfl fun _ _ _ h => h.of_entered⟩
  | endScope =>
    rw [exec_endScope]
    split <;> exact ⟨root, .of_same rfl rfl⟩
  | declareVariable n t =>
    rw [exec_declareVariable]
    split
    · exact ⟨root, .refl _ _⟩
    · exact ⟨root, .declared_of_kind_ne (by simp [Symbol.kind])⟩
  | declareConstant n t v =>
    rw [exec_declareConstant]
    split
    · exact ⟨root, .refl _ _⟩
    · exact ⟨root, .declared_of_kind_ne (by simp [Symbol.kind])⟩
  | releaseVariable n =>
    rw [exec_releaseVariable]
    split
    · split
      · exact ⟨root, .of_classes_eq rfl fun _ _ _ h => h.of_unbound⟩
      · exact ⟨root, .refl _ _⟩
    · exact ⟨root, .refl _ _⟩
  | defineFunction f =>
    rw [exec_defineFunction]
    split
    · exact ⟨root, .refl _ _⟩
    · exact ⟨root, .declared_of_kind_ne (by simp [Symbol.kind])⟩
  | beginFunctionBody f =>
    rw [exec_beginFunctionBody]
    exact ⟨root, .of_classes_eq (classes_bindParams _ _) fun _ _ _ h =>
      (BindsClass.of_bindParams h).of_entered⟩
  | defineClass cd =>
    rw [exec_defineClass]
    split
    · exact ⟨root, .refl _ _⟩
    · split
      · exact ⟨root, .refl _ _⟩
      · -- the class is appended and bound in the current scope under the next index
        refine ⟨b.current, .push rfl fun _ _ _ h => ?_⟩
        rcases h.of_bound with h | ⟨hs, he⟩
        · exact Or.inl h
        · exact Or.inr ⟨hs, (Symbol.classRef.inj he).symm⟩
  | setClassParent cr p =>
    rw [exec_setClassParent]
    split
    · next classes hp =>
      exact ⟨root, ⟨fun _ _ h => ClassTable.name_get?_setParent hp h, fun _ _ _ h => Or.inl h⟩⟩
    · exact ⟨root, .refl _ _⟩
  | emit i =>
    rw [exec_emit]
    split <;> exact ⟨root, .of_same rfl rfl⟩
  | emitJump t =>
    rw [exec_emitJump]
    split <;> exact ⟨root, .of_same rfl rfl⟩
  | emitCondJump cond t f =>
    rw [exec_emitCondJump]
    split <;> exact ⟨root, .of_same rfl rfl⟩
  | emitBreak t =>
    rw [exec_emitBreak]
    split
    · split <;> exact ⟨root, .of_same rfl rfl⟩
    · exact ⟨root, .refl _ _⟩
  | emitContinue t =>
    rw [exec_emitContinue]
    split
    · split <;> exact ⟨root, .of_same rfl rfl⟩
    · exact ⟨root, .refl _ _⟩
  | checkpoint =>
    rw [exec_checkpoint]
    split <;> exact ⟨root, .of_same rfl rfl⟩
  | registerLibrary l =>
    rw [exec_registerLibrary]
    split
    · exact ⟨root, classGrowth_withLibrary b l⟩
    · exact ⟨root, .refl _ _⟩

/-- A call that hands over no class keeps the number of classes. -/
theorem size_classes_exec {b : Builder} {c : Call} (h : c.classDefs = []) :
    (b.exec c).classes.size = b.classes.size := by
  rcases classes_exec b c with hc | ⟨i, p, hc⟩ | hc
  · rw [hc]
  · obtain ⟨-, -, hc⟩ := ClassTable.setParent_ok hc
    rw [hc, ClassTable.size_modify]
  · rw [hc, h]
    simp [ClassTable.size]

/-- A class a call registers is bound right after the call: in the current scope when
`defineClass` registered it, globally when a library did; no other call registers a class. -/
theorem bindsClass_exec_of_new {b : Builder} (hcur : b.current < b.scopes.size) (c : Call)
    {i : Nat} {cls : ClassDef} (hi : b.classes.size ≤ i) (hc : (b.exec c).classes.get? i = some cls) :
    (∃ cd, c = .defineClass cd ∧ ∃ d, (b.exec c).BindsClass b.current ⟨cls.name, i⟩ d) ∨
      ∃ l, c = .registerLibrary l ∧ ∃ d, (b.exec c).BindsClass root ⟨cls.name, i⟩ d := by
  -- a class the table held before the call is no new class
  have hold : ∀ t : ClassTable, t.size = b.classes.size → t.get? i = some cls → False :=
    fun t ht h => Nat.lt_irrefl _ (Nat.lt_of_le_of_lt hi (ht ▸ ClassTable.lt_size_of_get? h))
  cases c with
  | defineClass cd =>
    refine .inl ⟨cd, rfl, ?_⟩
    rw [exec_defineClass] at hc ⊢
    by_cases hfree : b.scopes.hasSymbol b.current cd.name = true
    · rw [if_pos hfree] at hc
      exact (hold _ rfl hc).elim
    rw [if_neg hfree] at hc ⊢
    cases hfind : cd.links.find? (b.classes.size ≤ ·) with
    | some _ =>
      simp only [hfind] at hc
      exact (hold _ rfl hc).elim
    | none =>
      simp only [hfind, appended_classes, bound_classes, ClassTable.get?_push] at hc ⊢
      split at hc
      · next hsize =>
        -- the new class is `cd`, bound in the current scope under the next index
        cases hc
        subst hsize
        refine ⟨⟨.classRef ⟨cls.name, b.classes.size⟩, b.nextSerial⟩, ?_, rfl⟩
        simp only [appended_scopes, bound, ScopeTree.lookup_modifyScope, hcur,
          and_self, if_true]
        exact Scope.lookup_bind_self _ _
      · exact (hold _ rfl hc).elim
  | registerLibrary l =>
    refine .inr ⟨l, rfl, ?_⟩
    rw [exec_registerLibrary] at hc ⊢
    split at hc
    · next hok =>
      rw [if_pos hok]
      obtain ⟨hs, hclash, hmiss⟩ := hok
      obtain ⟨hnd, hfree⟩ := (firstClash_eq_none_iff _ _ [] _).mp hclash
      have hreg := withLibrary_registered (l := l) (Nat.lt_of_le_of_lt (Nat.zero_le _) hcur) hnd
        fun n hn => (hfree n hn).2
      -- the new class is the library's class at `i` less the size before
      rw [withLibrary_classes, ClassTable.get?, Array.getElem?_append_right (by exact hi),
        List.getElem?_toArray] at hc
      obtain ⟨k, hk⟩ := hreg.classes_bound (i - b.classes.size) cls hc
      rw [Nat.add_sub_cancel' hi] at hk
      exact ⟨_, hk, rfl⟩
    · exact (hold _ rfl hc).elim
  | _ => exact (hold _ (size_classes_exec rfl) hc).elim

/-! ### Along a run -/

/-- Every call keeps class bindings and classes in one-to-one correspondence. -/
theorem ClassesBound.exec {b : Builder} (hb : b.ClassesBound) (hcur : b.current < b.scopes.size)
    (c : Call) : (b.exec c).ClassesBound := by
  obtain ⟨S, hg⟩ := classGrowth_exec b c
  -- the bindings there were name the classes there were, below the size of the table
  have hold : ∀ s r d, b.BindsClass s r d → r.index < b.classes.size := fun s r d h => by
    obtain ⟨_, hc, -⟩ := hb.registered s r d h
    exact ClassTable.lt_size_of_get? hc
  refine ⟨fun s r d h => ?_, fun s s' r r' d d' h h' hi => ?_, fun i cls hc => ?_⟩
  · rcases hg.origin s r d h with h | ⟨-, -, hc⟩
    · obtain ⟨c, hc, hn⟩ := hb.registered s r d h
      obtain ⟨c', hc', hn'⟩ := hg.names _ c hc
      exact ⟨c', hc', hn'.trans hn⟩
    · exact hc
  · rcases hg.origin s r d h with ho | ⟨hs, hle, c, hc, hn⟩ <;>
      rcases hg.origin s' r' d' h' with ho' | ⟨hs', hle', c', hc', hn'⟩
    · exact hb.once s s' r r' d d' ho ho' hi
    · exact absurd hle' (Nat.not_le.mpr (hi ▸ hold _ _ _ ho))
    · exact absurd hle (Nat.not_le.mpr (hi ▸ hold _ _ _ ho'))
    · -- two new bindings of one class lie in the same scope under the class's name
      have hcc : c = c' := Option.some.inj ((hi ▸ hc).symm.trans hc')
      have hr : r = r' := by
        obtain ⟨n, k⟩ := r
        obtain ⟨n', k'⟩ := r'
        subst hcc
        simp only at hi hn hn'
        rw [← hn, hn', hi]
      subst hs hs' hr
      exact ⟨rfl, rfl, Option.some.inj (h.1.symm.trans h'.1)⟩
  · by_cases hlt : i < b.classes.size
    · -- an old class keeps its name, and its binding stays
      obtain ⟨c₀, hc₀⟩ := ClassTable.exists_get?_of_lt hlt
      obtain ⟨c', hc', hn⟩ := hg.names i c₀ hc₀
      obtain ⟨s, d, hd⟩ := hb.bound i c₀ hc₀
      rw [hc] at hc'
      cases hc'
      exact ⟨s, d, by rw [hn]; exact hd.exec c⟩
    · rcases bindsClass_exec_of_new hcur c (Nat.not_lt.mp hlt) hc with
        ⟨_, -, d, hd⟩ | ⟨_, -, d, hd⟩
      · exact ⟨_, d, hd⟩
      · exact ⟨_, d, hd⟩

/-- A fresh builder binds nothing. -/
theorem lookup_new (o : BuilderOptions) (s : ScopeId) (n : String) :
    ((Builder.new o).scopes.scope s).lookup n = none := by
  cases s <;> rfl

theorem classesBound_new (o : BuilderOptions) : (Builder.new o).ClassesBound where
  registered _ _ _ h := by simp [BindsClass, lookup_new] at h
  once _ _ _ _ _ _ h := by simp [BindsClass, lookup_new] at h
  bound _ _ h := by simp [Builder.new, ClassTable.get?] at h

/-- Class bindings follow the class table. At every state of every run of a fresh builder,
failed calls included, the class bindings of the scope tables and the classes of the class
table correspond one to one: every class binding names a registered class by that class's own
name and index, no class is bound twice, and every registered class is bound. A class is
registered only by `defineClass` or by a library, and stays bound for the rest of the run in
the scope that was current when `defineClass` registered it, or in the global scope for a
library class. -/
theorem class_bindings_follow_class_table (o : BuilderOptions) :
    (∀ cs, ((Builder.new o).execAll cs).ClassesBound) ∧
    ∀ pre c post i cls,
      let b := (Builder.new o).execAll pre
      b.classes.size ≤ i → (b.exec c).classes.get? i = some cls →
      (∃ cd, c = .defineClass cd ∧
        ∃ d, ((Builder.new o).execAll (pre ++ c :: post)).BindsClass b.current ⟨cls.name, i⟩ d) ∨
      ∃ l, c = .registerLibrary l ∧
        ∃ d, ((Builder.new o).execAll (pre ++ c :: post)).BindsClass root ⟨cls.name, i⟩ d := by
  refine ⟨fun cs => ?_, ?_⟩
  · -- the scope log keeps the cursor inside the tree, which the invariant's step needs
    have h := execAll_induction (fun b => (∃ g : ScopeLog, g.Tracks b) ∧ b.ClassesBound)
      (fun b c ⟨⟨g, hg⟩, hb⟩ => ⟨⟨_, hg.exec c⟩, hb.exec hg.current_lt c⟩) cs (Builder.new o)
      ⟨⟨{}, ScopeLog.tracks_new o⟩, classesBound_new o⟩
    exact h.2
  · intro pre c post i cls b hi hc
    have hcur := ((ScopeLog.tracks_new o).logAll pre).current_lt
    rw [execAll_append, execAll_cons]
    rcases bindsClass_exec_of_new hcur c hi hc with ⟨cd, hcd, d, hd⟩ | ⟨l, hl, d, hd⟩
    · exact .inl ⟨cd, hcd, d, hd.execAll post⟩
    · exact .inr ⟨l, hl, d, hd.execAll post⟩

/-- A class `Point` defined inside a block is registered at index `0` and stays bound in that
block, scope `1`, after the block is closed. -/
theorem point_stays_bound_in_its_block :
    let b := (Builder.new {}).execAll [.beginScope "main" .block]
    b.classes.size ≤ 0 ∧ (b.exec (.defineClass { name := "Point" })).classes.get? 0 =
        some { name := "Point" } ∧
      ((∃ cd, Call.defineClass { name := "Point" } = .defineClass cd ∧
        ∃ d, ((Builder.new {}).execAll
            ([.beginScope "main" .block] ++ .defineClass { name := "Point" } :: [.endScope])).BindsClass
          b.current ⟨"Point", 0⟩ d) ∨
      ∃ l, Call.defineClass { name := "Point" } = .registerLibrary l ∧
        ∃ d, ((Builder.new {}).execAll
            ([.beginScope "main" .block] ++ .defineClass { name := "Point" } :: [.endScope])).BindsClass
          root ⟨"Point", 0⟩ d) := by
  intro b
  have hsize : b.classes.size ≤ 0 := by decide
  have hreg : (b.exec (.defineClass { name := "Point" })).classes.get? 0 =
      some { name := "Point" } := by decide
  exact ⟨hsize, hreg, (class_bindings_follow_class_table {}).2 [.beginScope "main" .block]
    (.defineClass { name := "Point" }) [.endScope] 0 { name := "Point" } hsize hreg⟩

end Builder

end ScopedIr
