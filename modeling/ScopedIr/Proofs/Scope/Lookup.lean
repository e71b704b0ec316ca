import ScopedIr.Proofs.Scope.Shape

/-!
# Lookups along a chain

A climbing lookup from a scope asks the levels of its chain, nearest first: the scope itself,
then the scopes met walking up along parent links. It answers with what the first level that
has an answer gives. For symbols, a level answers with the binding of the name in its own table;
for scopes, with its first child of that name in creation order, which in a well-formed tree is
the child of least handle. A single-level lookup asks the starting scope alone. Each lookup
fails, naming the name and the path of the starting scope, exactly when no level it asks has an
answer.

A scope lookup compares only the names of children, never the name of a level itself. So a
scope can find itself through its parent, but no lookup ever finds the global scope: a found
scope has a parent, and that parent lies on the chain the lookup started from.
-/

namespace ScopedIr

namespace ScopeTree

open ScopeTree (root)

variable {t : ScopeTree}

/-- `c` is the first child of `x` named `n` in creation order: a child of `x` with that name,
created no later than any other child of `x` with that name. -/
def FirstChildNamed (t : ScopeTree) (x : ScopeId) (n : String) (c : ScopeId) : Prop :=
  c ∈ t.children x ∧ (t.scope c).name = n ∧ ∀ c' ∈ t.children x, (t.scope c').name = n → c ≤ c'

/-! ### One level -/

theorem childNamed?_eq_none_iff {x : ScopeId} {n : String} :
    t.childNamed? x n = none ↔ ∀ c ∈ t.children x, (t.scope c).name ≠ n := by
  simp [childNamed?, List.find?_eq_none]

/-- The child a level finds by name is its first child of that name: children are listed in
creation order. -/
theorem WF.firstChildNamed_of_childNamed? (hw : t.WF) {x : ScopeId} {n : String} {c : ScopeId}
    (h : t.childNamed? x n = some c) : t.FirstChildNamed x n c := by
  obtain ⟨hc, pre, post, hsplit, hpre⟩ := List.find?_eq_some_iff_append.mp h
  have hname : (t.scope c).name = n := by simpa using hc
  refine ⟨hsplit ▸ List.mem_append_right _ List.mem_cons_self, hname, fun c' hc' hn' => ?_⟩
  have hinc := hw.children_increasing x
  rw [hsplit] at hc' hinc
  rcases List.mem_append.mp hc' with hc' | hc'
  · -- a child listed before the one found would have been found
    simpa [hn'] using hpre c' hc'
  · rcases List.mem_cons.mp hc' with rfl | hc'
    · exact Nat.le_refl _
    · exact Nat.le_of_lt (List.rel_of_pairwise_cons (List.pairwise_append.mp hinc).2.1 hc')

theorem WF.childNamed?_eq_some_iff (hw : t.WF) {x : ScopeId} {n : String} {c : ScopeId} :
    t.childNamed? x n = some c ↔ t.FirstChildNamed x n c := by
  refine ⟨hw.firstChildNamed_of_childNamed?, fun ⟨hc, hname, hleast⟩ => ?_⟩
  cases hfind : t.childNamed? x n with
  | none => exact absurd hname (childNamed?_eq_none_iff.mp hfind c hc)
  | some c' =>
    -- the child found is a first child of that name too, so the two coincide
    obtain ⟨hc', hname', hleast'⟩ := hw.firstChildNamed_of_childNamed? hfind
    exact congrArg some (Nat.le_antisymm (hleast' c hc hname) (hleast c' hc' hname'))

/-! ### Every level of a chain -/

section Answers

variable {s : ScopeId} {n : String}

theorem resolveSymbol_eq_ok_iff {d : Decl} :
    t.resolveSymbol s n = .ok d ↔ (t.chain s).findSome? (fun i => (t.scope i).lookup n) = some d := by
  cases h : (t.chain s).findSome? (fun i => (t.scope i).lookup n) <;> simp [resolveSymbol, h]

theorem resolveSymbol_eq_error_iff {e : ScopeError} :
    t.resolveSymbol s n = .error e ↔
      (t.chain s).findSome? (fun i => (t.scope i).lookup n) = none ∧
        e = .undefinedSymbol n (t.uniqueName s) := by
  cases h : (t.chain s).findSome? (fun i => (t.scope i).lookup n) <;>
    simp [resolveSymbol, h, eq_comm]

theorem findSymbol_eq_ok_iff {d : Decl} : t.findSymbol s n = .ok d ↔ (t.scope s).lookup n = some d := by
  cases h : (t.scope s).lookup n <;> simp [findSymbol, h]

theorem findSymbol_eq_error_iff {e : ScopeError} :
    t.findSymbol s n = .error e ↔
      (t.scope s).lookup n = none ∧ e = .undefinedSymbol n (t.uniqueName s) := by
  cases h : (t.scope s).lookup n <;> simp [findSymbol, h, eq_comm]

theorem resolveScope_eq_ok_iff {c : ScopeId} :
    t.resolveScope s n = .ok c ↔ (t.chain s).findSome? (fun i => t.childNamed? i n) = some c := by
  cases h : (t.chain s).findSome? (fun i => t.childNamed? i n) <;> simp [resolveScope, h]

theorem resolveScope_eq_error_iff {e : ScopeError} :
    t.resolveScope s n = .error e ↔
      (t.chain s).findSome? (fun i => t.childNamed? i n) = none ∧
        e = .undefinedScope n (t.uniqueName s) := by
  cases h : (t.chain s).findSome? (fun i => t.childNamed? i n) <;>
    simp [resolveScope, h, eq_comm]

theorem findScope_eq_ok_iff {c : ScopeId} : t.findScope s n = .ok c ↔ t.childNamed? s n = some c := by
  cases h : t.childNamed? s n <;> simp [findScope, h]

theorem findScope_eq_error_iff {e : ScopeError} :
    t.findScope s n = .error e ↔ t.childNamed? s n = none ∧ e = .undefinedScope n (t.uniqueName s) := by
  cases h : t.childNamed? s n <;> simp [findScope, h, eq_comm]

end Answers

/-- A scope a lookup finds is a child of a level of the chain it started from, so it has a
parent there and is not the global scope. -/
theorem WF.resolveScope_found (hw : t.WF) {s c : ScopeId} {n : String}
    (h : t.resolveScope s n = .ok c) : c ≠ root ∧ ∃ x ∈ t.chain s, t.parent? c = some x := by
  obtain ⟨x, hx, hc⟩ := List.exists_of_findSome?_eq_some (resolveScope_eq_ok_iff.mp h)
  obtain ⟨hp, -, hr⟩ := hw.of_mem_children (List.mem_of_find?_eq_some hc)
  exact ⟨hr, x, hx, hp⟩

/-! ### The lookups of a well-formed tree -/

/-- How the lookups of a tree answer: the ancestors of a scope are the walk up along parent
links; a climbing lookup answers with the nearest level of the chain that has an answer, and
fails, naming the name and the starting scope's path, exactly when no level has one; a
single-level lookup does the same with the starting scope alone. -/
structure LookupsFollowChains (t : ScopeTree) : Prop where
  ancestors_walk : ∀ s, LinkChain t.parent? s (t.ancestors s)
  resolveSymbol_ok : ∀ s n d, t.resolveSymbol s n = .ok d ↔
    ∃ pre x post, t.chain s = pre ++ x :: post ∧ (∀ y ∈ pre, (t.scope y).lookup n = none) ∧
      (t.scope x).lookup n = some d
  resolveSymbol_error : ∀ s n e, t.resolveSymbol s n = .error e ↔
    (∀ x ∈ t.chain s, (t.scope x).lookup n = none) ∧ e = .undefinedSymbol n (t.uniqueName s)
  findSymbol_ok : ∀ s n d, t.findSymbol s n = .ok d ↔ (t.scope s).lookup n = some d
  findSymbol_error : ∀ s n e, t.findSymbol s n = .error e ↔
    (t.scope s).lookup n = none ∧ e = .undefinedSymbol n (t.uniqueName s)
  resolveScope_ok : ∀ s n c, t.resolveScope s n = .ok c ↔
    ∃ pre x post, t.chain s = pre ++ x :: post ∧
      (∀ y ∈ pre, ∀ c' ∈ t.children y, (t.scope c').name ≠ n) ∧ t.FirstChildNamed x n c
  /-- A scope found is never the global scope, and its parent lies on the chain. -/
  resolveScope_found : ∀ s n c, t.resolveScope s n = .ok c →
    c ≠ root ∧ ∃ x ∈ t.chain s, t.parent? c = some x
  resolveScope_error : ∀ s n e, t.resolveScope s n = .error e ↔
    (∀ x ∈ t.chain s, ∀ c ∈ t.children x, (t.scope c).name ≠ n) ∧
      e = .undefinedScope n (t.uniqueName s)
  findScope_ok : ∀ s n c, t.findScope s n = .ok c ↔ t.FirstChildNamed s n c
  findScope_error : ∀ s n e, t.findScope s n = .error e ↔
    (∀ c ∈ t.children s, (t.scope c).name ≠ n) ∧ e = .undefinedScope n (t.uniqueName s)

/-- In a well-formed tree, and so in every tree a session reaches, each lookup answers from
the first level of its chain that has an answer: symbols from the nearest binding, scopes from
the nearest level's first child of the name in creation order, never the global scope. -/
theorem lookups_follow_chains (t : ScopeTree) (hw : t.WF) : t.LookupsFollowChains where
  ancestors_walk := hw.linkChain
  resolveSymbol_ok s n d := by
    rw [resolveSymbol_eq_ok_iff, List.findSome?_eq_some_iff]
    simp only [and_comm]
  resolveSymbol_error s n e := by
    rw [resolveSymbol_eq_error_iff, List.findSome?_eq_none_iff]
  findSymbol_ok _ _ _ := findSymbol_eq_ok_iff
  findSymbol_error _ _ _ := findSymbol_eq_error_iff
  resolveScope_ok s n c := by
    rw [resolveScope_eq_ok_iff, List.findSome?_eq_some_iff]
    simp only [← childNamed?_eq_none_iff, hw.childNamed?_eq_some_iff, and_comm]
  resolveScope_found _ _ _ := hw.resolveScope_found
  resolveScope_error s n e := by
    rw [resolveScope_eq_error_iff, List.findSome?_eq_none_iff]
    simp only [childNamed?_eq_none_iff]
  findScope_ok _ _ _ := findScope_eq_ok_iff.trans hw.childNamed?_eq_some_iff
  findScope_error _ _ _ := findScope_eq_error_iff.trans (and_congr_left' childNamed?_eq_none_iff)

/-- A function scope holding a loop, which binds a variable, and a block: a tree a session
reaches. -/
theorem lookups_follow_chains_in_nested_scopes :
    (ScopeTree.empty.execAll [.createChild root "f" .function, .createChild 1 "loop" .loop,
        .addSymbol 2 ⟨.variable ⟨"i", .primitive .int⟩, 0⟩ false, .createChild 1 "tail" .block]).WF ∧
      (ScopeTree.empty.execAll [.createChild root "f" .function, .createChild 1 "loop" .loop,
        .addSymbol 2 ⟨.variable ⟨"i", .primitive .int⟩, 0⟩ false,
        .createChild 1 "tail" .block]).LookupsFollowChains :=
  have hw := WF.execAll [.createChild root "f" .function, .createChild 1 "loop" .loop,
    .addSymbol 2 ⟨.variable ⟨"i", .primitive .int⟩, 0⟩ false, .createChild 1 "tail" .block]
    (by decide) WF.empty
  ⟨hw, lookups_follow_chains _ hw⟩

end ScopeTree

end ScopedIr
