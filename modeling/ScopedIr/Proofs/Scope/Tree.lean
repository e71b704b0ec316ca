import Mathlib.Data.List.Find
import ScopedIr.Scope.Tree

/-!
# Well-formed scope trees

A scope tree as the builder grows it is well formed: the global scope comes first and has no
parent, every other scope names a parent created before it, and the children of a scope are
exactly the scopes naming it as parent, in creation order. Opening a child and rewriting a
scope's table keep a tree well formed, and a scope's chain (the levels a climbing lookup
visits) is the scope followed by its parent's chain, ending at the global scope.

A tree extends another when it has every scope of the other with the same name, kind and
parent. Opening scopes and rewriting tables only ever extend a tree; a scope target that
resolves in a tree still resolves in every extension of it.
-/

namespace ScopedIr

namespace Scope

@[simp] theorem bind_name (s : Scope) (d : Decl) : (s.bind d).name = s.name := rfl
@[simp] theorem bind_parent (s : Scope) (d : Decl) : (s.bind d).parent = s.parent := rfl
@[simp] theorem bind_kind (s : Scope) (d : Decl) : (s.bind d).kind = s.kind := rfl
@[simp] theorem bind_children (s : Scope) (d : Decl) : (s.bind d).children = s.children := rfl
@[simp] theorem unbind_name (s : Scope) (n : String) : (s.unbind n).name = s.name := rfl
@[simp] theorem unbind_parent (s : Scope) (n : String) : (s.unbind n).parent = s.parent := rfl
@[simp] theorem unbind_kind (s : Scope) (n : String) : (s.unbind n).kind = s.kind := rfl
@[simp] theorem unbind_children (s : Scope) (n : String) :
    (s.unbind n).children = s.children := rfl

/-- Unbinding a name leaves no binding of it. -/
theorem lookup_unbind_self (s : Scope) (n : String) : (s.unbind n).lookup n = none := by
  simp [lookup, unbind, List.find?_filter]

/-- Unbinding a name leaves the bindings of every other name. -/
theorem lookup_unbind_of_ne (s : Scope) {n m : String} (h : m ≠ n) :
    (s.unbind n).lookup m = s.lookup m := by
  simp only [lookup, unbind, List.find?_filter]
  congr 1
  funext x
  by_cases hx : x.name = m
  · simp [hx, h]
  · simp [hx]

/-- A binding found after binding `d` is `d`, or was there before. -/
theorem lookup_bind_eq_some {s : Scope} {d e : Decl} {n : String}
    (h : (s.bind d).lookup n = some e) :
    e = d ∨ s.lookup n = some e := by
  by_cases hn : n = d.name
  · subst hn
    rw [lookup_bind_self] at h
    exact Or.inl (Option.some.inj h).symm
  · rw [lookup_bind_of_ne _ _ hn] at h
    exact Or.inr h

/-- A binding found in a table carries the name it was looked up by. -/
theorem name_of_lookup {s : Scope} {n : String} {d : Decl} (h : s.lookup n = some d) :
    d.name = n := by
  simpa using List.find?_some h

end Scope

namespace ScopeTree

variable {t : ScopeTree}

/-! ### Reading a tree after an update -/

@[simp] theorem size_modifyScope (t : ScopeTree) (s : ScopeId) (f : Scope → Scope) :
    (t.modifyScope s f).size = t.size := by
  simp [modifyScope, size]

theorem scope_modifyScope (t : ScopeTree) (s : ScopeId) (f : Scope → Scope) (i : ScopeId) :
    (t.modifyScope s f).scope i = if s = i ∧ i < t.size then f (t.scope i) else t.scope i := by
  simp only [scope, get?, modifyScope, Array.getElem?_modify, size]
  by_cases hs : s = i
  · subst hs
    by_cases hi : s < t.scopes.size <;> simp [hi]
  · simp [hs]

@[simp] theorem fst_createChild (t : ScopeTree) (p : ScopeId) (n : String) (k : ScopeKind) :
    (t.createChild p n k).1 = t.size := rfl

@[simp] theorem size_createChild (t : ScopeTree) (p : ScopeId) (n : String) (k : ScopeKind) :
    (t.createChild p n k).2.size = t.size + 1 := by
  simp [createChild, size]

theorem scope_createChild (t : ScopeTree) (p : ScopeId) (n : String) (k : ScopeKind)
    (i : ScopeId) :
    (t.createChild p n k).2.scope i =
      if i = t.size then { name := n, parent := some p, kind := k }
      else if p = i ∧ i < t.size then
        { t.scope i with children := (t.scope i).children ++ [t.size] }
      else t.scope i := by
  simp only [createChild, scope, get?, size]
  rw [Array.getElem?_push, Array.size_modify, Array.getElem?_modify]
  by_cases hi : i = t.scopes.size
  · simp [hi]
  · by_cases hp : p = i
    · subst hp
      by_cases hlt : p < t.scopes.size <;> simp [hi, hlt]
    · simp [hi, hp]

/-- A child opened below an existing scope has the next handle and that scope as parent. -/
theorem parent?_createChild_self (t : ScopeTree) (p : ScopeId) (n : String) (k : ScopeKind) :
    (t.createChild p n k).2.parent? t.size = some p := by
  simp [parent?, scope_createChild]

theorem parent?_createChild_of_ne (t : ScopeTree) (p : ScopeId) (n : String) (k : ScopeKind)
    {i : ScopeId} (h : i ≠ t.size) : (t.createChild p n k).2.parent? i = t.parent? i := by
  simp only [parent?, scope_createChild, h, if_false]
  split <;> rfl

/-- A table rewrite reaches lookups only in the scope it rewrites. -/
theorem lookup_modifyScope (t : ScopeTree) (s : ScopeId) (f : Scope → Scope) (i : ScopeId)
    (n : String) :
    ((t.modifyScope s f).scope i).lookup n =
      if s = i ∧ i < t.size then (f (t.scope i)).lookup n else (t.scope i).lookup n := by
  rw [scope_modifyScope]
  split <;> rfl

/-- A binding found after binding `d` in `s` is `d`, found in `s`, or was there before. -/
theorem lookup_modifyScope_bind {t : ScopeTree} {s i : ScopeId} {d e : Decl} {n : String}
    (h : ((t.modifyScope s (·.bind d)).scope i).lookup n = some e) :
    (s = i ∧ e = d) ∨ (t.scope i).lookup n = some e := by
  rw [lookup_modifyScope] at h
  split at h
  · next hs => exact (Scope.lookup_bind_eq_some h).imp (fun he => ⟨hs.1, he⟩) id
  · exact Or.inr h

/-- A new child binds nothing. -/
theorem lookup_createChild_self (t : ScopeTree) (p : ScopeId) (n : String) (k : ScopeKind)
    (m : String) : ((t.createChild p n k).2.scope t.size).lookup m = none := by
  simp [scope_createChild, Scope.lookup]

/-- Opening a child leaves the tables of the scopes that existed. -/
theorem table_createChild_of_lt (t : ScopeTree) (p : ScopeId) (n : String) (k : ScopeKind)
    {s : ScopeId} (hs : s < t.size) :
    ((t.createChild p n k).2.scope s).table = (t.scope s).table := by
  rw [scope_createChild, if_neg (Nat.ne_of_lt hs)]
  split <;> rfl

/-- Binding without force never replaces a binding. -/
theorem lookup_addSymbol_of_some (t : ScopeTree) (r : ScopeId) (e : Decl) {s : ScopeId}
    {n : String} {d : Decl} (h : (t.scope s).lookup n = some d) :
    ((t.addSymbol r e false).2.scope s).lookup n = some d := by
  unfold addSymbol
  split
  · exact h
  · next hfree =>
    rw [lookup_modifyScope]
    split
    · next hs =>
      obtain ⟨rfl, -⟩ := hs
      -- `e`'s name is free in `r`, and `n` is bound there, so the two differ
      have hne : n ≠ e.name := by
        rintro rfl
        simp [hasSymbol, h] at hfree
      rw [Scope.lookup_bind_of_ne _ _ hne, h]
    · exact h

/-- Binding without force changes no scope but the one bound in. -/
theorem table_addSymbol_of_ne (t : ScopeTree) (r : ScopeId) (e : Decl) {s : ScopeId}
    (hs : s ≠ r) : ((t.addSymbol r e false).2.scope s).table = (t.scope s).table := by
  unfold addSymbol
  split
  · rfl
  · rw [scope_modifyScope, if_neg fun h => hs h.1.symm]

/-! ### Chains -/

/-- The chain of a scope only reads the parent links at and below that scope. -/
theorem ancestors_congr {t' : ScopeTree} :
    ∀ s, (∀ i, i ≤ s → t'.parent? i = t.parent? i) → t'.ancestors s = t.ancestors s
  | s, h => by
    rw [ancestors, ancestors, h s (Nat.le_refl s)]
    cases hp : t.parent? s with
    | none => rfl
    | some p =>
      by_cases hlt : p < s
      · simp only [hlt, if_true]
        rw [ancestors_congr p fun i hi => h i (Nat.le_trans hi (Nat.le_of_lt hlt))]
      · simp [hlt]

theorem chain_congr {t' : ScopeTree} {s : ScopeId}
    (h : ∀ i, i ≤ s → t'.parent? i = t.parent? i) : t'.chain s = t.chain s := by
  simp [chain, ancestors_congr s h]

/-- Every level of a chain is at most the scope it starts from. -/
theorem lt_of_mem_ancestors : ∀ {s i : ScopeId}, i ∈ t.ancestors s → i < s
  | s, i, h => by
    rw [ancestors] at h
    split at h
    · next p hp =>
      split at h
      · next hlt =>
        rcases List.mem_cons.mp h with rfl | h
        · exact hlt
        · exact Nat.lt_trans (lt_of_mem_ancestors h) hlt
      · simp at h
    · simp at h

theorem le_of_mem_chain {s i : ScopeId} (h : i ∈ t.chain s) : i ≤ s := by
  rcases List.mem_cons.mp h with rfl | h
  · exact Nat.le_refl i
  · exact Nat.le_of_lt (lt_of_mem_ancestors h)

@[simp] theorem head_chain (t : ScopeTree) (s : ScopeId) : (t.chain s).head? = some s := rfl

theorem chain_ne_nil (t : ScopeTree) (s : ScopeId) : t.chain s ≠ [] := by simp [chain]

/-- The ancestors of a scope are the chain of its parent. -/
theorem chain_of_ancestors_eq_cons {s a : ScopeId} {l : List ScopeId}
    (h : t.ancestors s = a :: l) : t.chain a = a :: l := by
  rw [ancestors] at h
  split at h
  · split at h
    · obtain ⟨rfl, rfl⟩ := List.cons.inj h
      rfl
    · cases h
  · cases h

/-- Every level of a chain before `S` lies inside `S`: `S` is one of its ancestors. -/
theorem mem_ancestors_of_chain_eq {S : ScopeId} {post : List ScopeId} :
    ∀ (pre : List ScopeId) (c : ScopeId), t.chain c = pre ++ S :: post →
      ∀ s ∈ pre, S ∈ t.ancestors s
  | [], _, _, s, hs => absurd hs List.not_mem_nil
  | x :: pre, c, h, s, hs => by
    obtain ⟨rfl, ha⟩ := List.cons.inj h
    rcases List.mem_cons.mp hs with rfl | hs
    · rw [ha]
      exact List.mem_append_right _ List.mem_cons_self
    · -- below `c` the chain goes on from its parent, the head of `pre`
      cases pre with
      | nil => exact absurd hs List.not_mem_nil
      | cons y pre =>
        exact mem_ancestors_of_chain_eq (y :: pre) y (chain_of_ancestors_eq_cons ha) s hs

/-- A handle the tree never created reads as a scope without parent. -/
theorem parent?_of_size_le {s : ScopeId} (h : t.size ≤ s) : t.parent? s = none := by
  have : t.scopes[s]? = none := Array.getElem?_eq_none h
  simp only [parent?, scope, get?, this, Option.getD_none]
  rfl

/-- Parent links that never leave the created scopes and never point up keep a chain on
created scopes. -/
theorem lt_size_of_mem_chain {s i : ScopeId} (hs : s < t.size) (h : i ∈ t.chain s) :
    i < t.size :=
  Nat.lt_of_le_of_lt (le_of_mem_chain h) hs

/-! ### Well-formed trees -/

/-- A tree as the builder grows it. -/
structure WF (t : ScopeTree) : Prop where
  /-- The global scope exists and has no parent. -/
  root_lt : root < t.size
  root_parent : t.parent? root = none
  /-- Every other scope names a parent created before it. -/
  parent_lt : ∀ s, s < t.size → s ≠ root → ∃ p, t.parent? s = some p ∧ p < s
  /-- The children of a scope are the scopes naming it as parent, in creation order. -/
  children_eq : ∀ p, t.children p = (List.range t.size).filter fun c => t.parent? c == some p

theorem WF.empty : ScopeTree.empty.WF where
  root_lt := by decide
  root_parent := rfl
  parent_lt s hs hr := by
    change s < 1 at hs
    exact absurd (Nat.lt_one_iff.mp hs) hr
  children_eq p := by
    cases p <;> rfl

/-- A scope with a parent was created, is not the global scope, and lies above its parent. -/
theorem WF.lt_of_parent (hw : t.WF) {s p : ScopeId} (hp : t.parent? s = some p) :
    p < s ∧ s < t.size ∧ s ≠ root := by
  have hs : s < t.size := by
    rcases Nat.lt_or_ge s t.size with h | h
    · exact h
    · rw [parent?_of_size_le h] at hp
      cases hp
  have hr : s ≠ root := by
    rintro rfl
    rw [hw.root_parent] at hp
    cases hp
  obtain ⟨q, hq, hlt⟩ := hw.parent_lt s hs hr
  rw [hp] at hq
  cases hq
  exact ⟨hlt, hs, hr⟩

theorem WF.chain_root (hw : t.WF) : t.chain root = [root] := by
  simp [chain, ancestors, hw.root_parent]

/-- The chain of a scope with a parent is the scope followed by its parent's chain. -/
theorem WF.chain_of_parent (hw : t.WF) {s p : ScopeId} (hp : t.parent? s = some p) :
    t.chain s = s :: t.chain p := by
  have hlt := (hw.lt_of_parent hp).1
  rw [chain, ancestors, hp]
  simp [hlt, chain]

/-- A created scope has a parent exactly when it is not the global scope. -/
theorem WF.hasParent_iff (hw : t.WF) {s : ScopeId} (hs : s < t.size) :
    t.hasParent s = true ↔ s ≠ root := by
  constructor
  · intro h hr
    subst hr
    simp [hasParent, hw.root_parent] at h
  · intro hr
    obtain ⟨p, hp, -⟩ := hw.parent_lt s hs hr
    simp [hasParent, hp]

/-- The chain of a scope other than the global one is the scope followed by the chain of
the scope it returns to. -/
theorem WF.chain_parentOf (hw : t.WF) {s : ScopeId} (hs : s < t.size) (hr : s ≠ root) :
    t.chain s = s :: t.chain (t.parentOf s) ∧ t.parentOf s < s := by
  obtain ⟨p, hp, hlt⟩ := hw.parent_lt s hs hr
  have : t.parentOf s = p := by simp [parentOf, hp]
  rw [this]
  exact ⟨hw.chain_of_parent hp, hlt⟩

/-- The chain of a scope without its last level, the global scope: empty for the global
scope, else the scope followed by the same of its parent. -/
theorem WF.dropLast_chain (hw : t.WF) {s : ScopeId} (hs : s < t.size) :
    (t.chain s).dropLast = if s = root then [] else s :: (t.chain (t.parentOf s)).dropLast := by
  by_cases hr : s = root
  · subst hr
    simp [hw.chain_root]
  · obtain ⟨hc, -⟩ := hw.chain_parentOf hs hr
    rw [if_neg hr, hc, List.dropLast_cons_of_ne_nil (chain_ne_nil t _)]

/-- A child names its scope as parent, so it was created and is not the global scope. -/
theorem WF.of_mem_children (hw : t.WF) {p c : ScopeId} (hc : c ∈ t.children p) :
    t.parent? c = some p ∧ c < t.size ∧ c ≠ root := by
  rw [hw.children_eq] at hc
  obtain ⟨-, hp⟩ := List.mem_filter.mp hc
  have hp : t.parent? c = some p := by simpa using hp
  exact ⟨hp, (hw.lt_of_parent hp).2⟩

/-- A resolved target is a created scope. -/
theorem WF.lt_of_resolveScope (hw : t.WF) {s c : ScopeId} {n : String}
    (h : t.resolveScope s n = .ok c) : c < t.size := by
  unfold resolveScope at h
  split at h
  · next d hd =>
    cases h
    obtain ⟨i, -, hi⟩ := List.exists_of_findSome?_eq_some hd
    exact (hw.of_mem_children (List.mem_of_find?_eq_some hi)).2.1
  · cases h

/-- Rewriting the contents of a scope, without touching its links, keeps a tree well formed. -/
theorem WF.modifyScope (hw : t.WF) (s : ScopeId) {f : Scope → Scope}
    (hp : ∀ x, (f x).parent = x.parent) (hc : ∀ x, (f x).children = x.children) :
    (t.modifyScope s f).WF := by
  have hpar : ∀ i, (t.modifyScope s f).parent? i = t.parent? i := by
    intro i
    simp only [parent?, scope_modifyScope]
    split <;> simp [hp]
  refine ⟨?_, ?_, ?_, ?_⟩
  · simpa using hw.root_lt
  · rw [hpar]; exact hw.root_parent
  · intro i hi hr
    simpa [hpar] using hw.parent_lt i (by simpa using hi) hr
  · intro p
    have hch : (t.modifyScope s f).children p = t.children p := by
      simp only [children, scope_modifyScope]
      split <;> simp [hc]
    simp only [hch, hpar, size_modifyScope]
    exact hw.children_eq p

/-- Opening a child below a created scope keeps a tree well formed. -/
theorem WF.createChild (hw : t.WF) {p : ScopeId} (hp : p < t.size) (n : String)
    (k : ScopeKind) : (t.createChild p n k).2.WF := by
  have hpar : ∀ i, (t.createChild p n k).2.parent? i =
      if i = t.size then some p else t.parent? i := by
    intro i
    by_cases hi : i = t.size
    · subst hi; simp [parent?_createChild_self]
    · simp [hi, parent?_createChild_of_ne _ _ _ _ hi]
  refine ⟨?_, ?_, ?_, ?_⟩
  · simp only [size_createChild]; exact Nat.lt_succ_of_lt hw.root_lt
  · rw [hpar, if_neg (Nat.ne_of_lt hw.root_lt)]; exact hw.root_parent
  · intro i hi hr
    rw [hpar]
    by_cases he : i = t.size
    · simp only [he, if_true]
      exact ⟨p, rfl, he ▸ hp⟩
    · simp only [he, if_false]
      exact hw.parent_lt i (by simp at hi; omega) hr
  · intro q
    rw [size_createChild, List.range_succ, List.filter_append]
    have hold : ((List.range t.size).filter fun c =>
        (t.createChild p n k).2.parent? c == some q) =
        (List.range t.size).filter fun c => t.parent? c == some q := by
      apply List.filter_congr
      intro c hc
      rw [hpar, if_neg (Nat.ne_of_lt (List.mem_range.mp hc))]
    rw [hold, ← hw.children_eq q]
    simp only [children, scope_createChild, hpar]
    by_cases hq : q = t.size
    · subst hq
      have hnil : (t.scope t.size).children = [] := by
        rw [← children, hw.children_eq]
        apply List.filter_eq_nil_iff.mpr
        intro c hc
        have hct := List.mem_range.mp hc
        cases hpc : t.parent? c with
        | none => simp
        | some r =>
          have hrc := (hw.lt_of_parent hpc).1
          have hne : r ≠ t.size := Nat.ne_of_lt (Nat.lt_trans hrc hct)
          simp [hne]
      simp [hnil, Nat.ne_of_lt hp]
    · by_cases hpq : p = q
      · subst hpq
        simp [hq, hp]
      · simp [hq, hpq]

/-- Opening a child leaves the chain of every scope created before. -/
theorem chain_createChild_of_lt (p : ScopeId) (n : String) (k : ScopeKind) {s : ScopeId}
    (hs : s < t.size) : (t.createChild p n k).2.chain s = t.chain s :=
  chain_congr fun _ hi =>
    parent?_createChild_of_ne _ _ _ _ (Nat.ne_of_lt (Nat.lt_of_le_of_lt hi hs))

/-- The chain of a newly opened child is the child followed by its parent's chain. -/
theorem WF.chain_createChild_self (hw : t.WF) {p : ScopeId} (hp : p < t.size) (n : String)
    (k : ScopeKind) : (t.createChild p n k).2.chain t.size = t.size :: t.chain p := by
  rw [(hw.createChild hp n k).chain_of_parent (parent?_createChild_self t p n k),
    chain_createChild_of_lt p n k hp]

/-! ### Trees of the same shape -/

/-- Two trees with the same scopes, names, kinds and links: they differ at most in bindings. -/
structure SameShape (t t' : ScopeTree) : Prop where
  size_eq : t'.size = t.size
  name_eq : ∀ s, (t'.scope s).name = (t.scope s).name
  kind_eq : ∀ s, (t'.scope s).kind = (t.scope s).kind
  parent_eq : ∀ s, t'.parent? s = t.parent? s
  children_eq : ∀ s, t'.children s = t.children s

@[refl] theorem SameShape.refl (t : ScopeTree) : t.SameShape t :=
  ⟨rfl, fun _ => rfl, fun _ => rfl, fun _ => rfl, fun _ => rfl⟩

theorem SameShape.trans {t₁ t₂ t₃ : ScopeTree} (h₁ : t₁.SameShape t₂) (h₂ : t₂.SameShape t₃) :
    t₁.SameShape t₃ :=
  ⟨h₂.size_eq.trans h₁.size_eq, fun s => (h₂.name_eq s).trans (h₁.name_eq s),
    fun s => (h₂.kind_eq s).trans (h₁.kind_eq s), fun s => (h₂.parent_eq s).trans (h₁.parent_eq s),
    fun s => (h₂.children_eq s).trans (h₁.children_eq s)⟩

/-- Rewriting only the table of a scope keeps the shape of the tree. -/
theorem sameShape_modifyScope (s : ScopeId) {f : Scope → Scope}
    (hf : ∀ x, { f x with table := x.table } = x) : t.SameShape (t.modifyScope s f) := by
  -- `f` keeps each of the four fields that make the shape
  have hn : ∀ x, (f x).name = x.name := fun x => by simpa using congrArg Scope.name (hf x)
  have hk : ∀ x, (f x).kind = x.kind := fun x => by simpa using congrArg Scope.kind (hf x)
  have hp : ∀ x, (f x).parent = x.parent := fun x => by
    simpa using congrArg Scope.parent (hf x)
  have hc : ∀ x, (f x).children = x.children := fun x => by
    simpa using congrArg Scope.children (hf x)
  refine ⟨size_modifyScope t s f, fun i => ?_, fun i => ?_, fun i => ?_, fun i => ?_⟩ <;>
    simp only [parent?, children, scope_modifyScope] <;> split <;> simp [hn, hk, hp, hc]

/-- Binding a symbol keeps the shape of the tree. -/
theorem sameShape_addSymbol (s : ScopeId) (d : Decl) (force : Bool) :
    t.SameShape (t.addSymbol s d force).2 := by
  unfold addSymbol
  split
  · exact SameShape.refl t
  · exact sameShape_modifyScope s fun _ => rfl

theorem SameShape.chain_eq {t' : ScopeTree} (h : t.SameShape t') (s : ScopeId) :
    t'.chain s = t.chain s :=
  chain_congr fun i _ => h.parent_eq i

theorem SameShape.wf {t' : ScopeTree} (h : t.SameShape t') (hw : t.WF) : t'.WF where
  root_lt := h.size_eq ▸ hw.root_lt
  root_parent := (h.parent_eq root).trans hw.root_parent
  parent_lt s hs hr := by
    rw [h.parent_eq s]
    exact hw.parent_lt s (h.size_eq ▸ hs) hr
  children_eq p := by
    rw [h.children_eq p, hw.children_eq p, h.size_eq]
    simp only [h.parent_eq]

/-! ### Extensions of a tree -/

/-- `t'` extends `t`: it has every scope of `t`, with the same name, kind and parent. It may
have more scopes, and so its scopes more children. -/
structure Extends (t t' : ScopeTree) : Prop where
  size_le : t.size ≤ t'.size
  name_eq : ∀ s, s < t.size → (t'.scope s).name = (t.scope s).name
  kind_eq : ∀ s, s < t.size → (t'.scope s).kind = (t.scope s).kind
  parent_eq : ∀ s, s < t.size → t'.parent? s = t.parent? s

@[refl] theorem Extends.refl (t : ScopeTree) : t.Extends t :=
  ⟨Nat.le_refl _, fun _ _ => rfl, fun _ _ => rfl, fun _ _ => rfl⟩

theorem Extends.trans {t₁ t₂ t₃ : ScopeTree} (h₁ : t₁.Extends t₂) (h₂ : t₂.Extends t₃) :
    t₁.Extends t₃ :=
  have lt := fun s (hs : s < t₁.size) => Nat.lt_of_lt_of_le hs h₁.size_le
  ⟨Nat.le_trans h₁.size_le h₂.size_le,
    fun s hs => (h₂.name_eq s (lt s hs)).trans (h₁.name_eq s hs),
    fun s hs => (h₂.kind_eq s (lt s hs)).trans (h₁.kind_eq s hs),
    fun s hs => (h₂.parent_eq s (lt s hs)).trans (h₁.parent_eq s hs)⟩

/-- What a tree of the same shape as `t` extends is what `t` extends. -/
theorem Extends.of_sameShape {t' u : ScopeTree} (h : t.Extends u) (hs : t.SameShape t') :
    t'.Extends u :=
  ⟨hs.size_eq ▸ h.size_le, fun s hl => by rw [hs.name_eq]; exact h.name_eq s (hs.size_eq ▸ hl),
    fun s hl => by rw [hs.kind_eq]; exact h.kind_eq s (hs.size_eq ▸ hl),
    fun s hl => by rw [hs.parent_eq]; exact h.parent_eq s (hs.size_eq ▸ hl)⟩

theorem SameShape.extends {t' : ScopeTree} (h : t.SameShape t') : t.Extends t' :=
  ⟨Nat.le_of_eq h.size_eq.symm, fun s _ => h.name_eq s, fun s _ => h.kind_eq s,
    fun s _ => h.parent_eq s⟩

/-- Opening a child extends a tree. -/
theorem extends_createChild (t : ScopeTree) (p : ScopeId) (n : String) (k : ScopeKind) :
    t.Extends (t.createChild p n k).2 := by
  refine ⟨by simp, fun s hs => ?_, fun s hs => ?_,
    fun s hs => parent?_createChild_of_ne _ _ _ _ (Nat.ne_of_lt hs)⟩ <;>
  · rw [scope_createChild, if_neg (Nat.ne_of_lt hs)]
    split <;> rfl

/-- An extension keeps the chain of every scope it extends. -/
theorem Extends.chain_eq {t' : ScopeTree} (h : t.Extends t') {s : ScopeId} (hs : s < t.size) :
    t'.chain s = t.chain s :=
  chain_congr fun i hi => h.parent_eq i (Nat.lt_of_le_of_lt hi hs)

/-- In an extension of a well-formed tree, the children of a scope are its children there
followed by scopes the extension added. -/
theorem Extends.children_eq {t' : ScopeTree} (h : t.Extends t') (hw : t.WF) (hw' : t'.WF)
    (p : ScopeId) : ∃ later, t'.children p = t.children p ++ later ∧ ∀ c ∈ later, t.size ≤ c := by
  refine ⟨((List.range (t'.size - t.size)).map (t.size + ·)).filter
    fun c => t'.parent? c == some p, ?_, ?_⟩
  · rw [hw'.children_eq, hw.children_eq, ← Nat.add_sub_cancel' h.size_le, List.range_add,
      List.filter_append, Nat.add_sub_cancel' h.size_le]
    congr 1
    apply List.filter_congr
    intro c hc
    rw [h.parent_eq c (List.mem_range.mp hc)]
  · intro c hc
    obtain ⟨j, -, rfl⟩ := List.mem_map.mp (List.mem_filter.mp hc).1
    exact Nat.le_add_right _ _

/-- A child found by name in a tree is found, first, in every extension. -/
theorem Extends.childNamed?_eq {t' : ScopeTree} (h : t.Extends t') (hw : t.WF) (hw' : t'.WF)
    {s c : ScopeId} {n : String} (hc : t.childNamed? s n = some c) :
    t'.childNamed? s n = some c := by
  obtain ⟨later, heq, -⟩ := h.children_eq hw hw' s
  have hlt : ∀ x ∈ t.children s, x < t.size := fun x hx => by
    rw [hw.children_eq] at hx
    exact List.mem_range.mp (List.mem_filter.mp hx).1
  -- on the children of `t` both trees give the same names
  have hsame : (t.children s).find? (fun x => (t'.scope x).name == n) = some c := by
    rw [ScopeTree.childNamed?] at hc
    rw [← hc]
    exact List.find?_congr fun x hx => by rw [h.name_eq x (hlt x hx)]
  rw [ScopeTree.childNamed?, heq, List.find?_append, hsame]
  rfl

/-- A target that resolves in a tree still resolves, from the same scope, in every extension. -/
theorem Extends.resolveScope_ok {t' : ScopeTree} (h : t.Extends t') (hw : t.WF) (hw' : t'.WF)
    {s c : ScopeId} {n : String} (hs : s < t.size) (hc : t.resolveScope s n = .ok c) :
    ∃ c', t'.resolveScope s n = .ok c' := by
  have hfound : ((t.chain s).findSome? fun i => t.childNamed? i n).isSome := by
    unfold resolveScope at hc
    split at hc
    · next d hd => simp [hd]
    · cases hc
  obtain ⟨i, hi, hsome⟩ := List.findSome?_isSome_iff.mp hfound
  obtain ⟨d, hd⟩ := Option.isSome_iff_exists.mp hsome
  have hfound' : ((t'.chain s).findSome? fun i => t'.childNamed? i n).isSome := by
    rw [h.chain_eq hs]
    exact List.findSome?_isSome_iff.mpr ⟨i, hi, by rw [h.childNamed?_eq hw hw' hd]; rfl⟩
  obtain ⟨c', hc'⟩ := Option.isSome_iff_exists.mp hfound'
  exact ⟨c', by rw [resolveScope, hc']⟩

end ScopeTree

end ScopedIr
