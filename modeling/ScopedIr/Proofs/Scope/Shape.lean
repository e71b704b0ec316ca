import ScopedIr.Scope.Session
import ScopedIr.Proofs.Chain
import ScopedIr.Proofs.Scope.Tree

/-!
# The shape of a scope tree

A scope tree driven by any sequence of calls on handles it handed out stays well formed: the
global scope is the one scope without a parent, every other scope has a parent created before
it and is listed once among that parent's children and nowhere else, and children are listed
in creation order. Walking up from any scope along parent links ends, at the global scope,
without meeting a scope twice: so the climbing lookups, which walk that chain, all end. A new
child's chain is its parent's chain one level deeper.
-/

namespace ScopedIr

namespace ScopeTree

open ScopeTree (root)

variable {t : ScopeTree}

/-! ### Every call keeps a tree well formed -/

theorem WF.addSymbol (hw : t.WF) (s : ScopeId) (d : Decl) (force : Bool) :
    (t.addSymbol s d force).2.WF :=
  (sameShape_addSymbol s d force).wf hw

theorem WF.exec (hw : t.WF) {c : ScopeCall} (hc : c.target < t.size) : (t.exec c).WF := by
  cases c with
  | createChild p n k => exact hw.createChild hc n k
  | addSymbol s d force => exact hw.addSymbol s d force
  | setSymbol s d force =>
    simp only [ScopeTree.exec, setSymbol]
    split
    · next h =>
      split at h
      · cases h
      · cases h
        exact hw.modifyScope s (fun _ => rfl) (fun _ => rfl)
    · exact hw
  | releaseSymbol s n =>
    simp only [ScopeTree.exec, releaseSymbol]
    split
    · next h =>
      split at h
      · cases h
        exact hw.modifyScope s (fun _ => rfl) (fun _ => rfl)
      · cases h
    · exact hw

/-- Calls on handed-out scopes keep a tree well formed. -/
theorem WF.execAll : ∀ {t : ScopeTree} (cs : List ScopeCall), t.Handed cs → t.WF → (t.execAll cs).WF
  | _, [], _, hw => hw
  | _, _ :: cs, ⟨hc, hcs⟩, hw => WF.execAll cs hcs (hw.exec hc)

/-! ### Reading the shape off a well-formed tree -/

/-- A created scope lacks a parent exactly when it is the global scope. -/
theorem WF.parent?_eq_none_iff (hw : t.WF) {s : ScopeId} (hs : s < t.size) :
    t.parent? s = none ↔ s = root := by
  constructor
  · intro hn
    by_contra hr
    obtain ⟨p, hp, -⟩ := hw.parent_lt s hs hr
    rw [hn] at hp
    cases hp
  · rintro rfl
    exact hw.root_parent

/-- The children of `p` are exactly the scopes naming `p` as parent. -/
theorem WF.mem_children_iff (hw : t.WF) {p c : ScopeId} :
    c ∈ t.children p ↔ t.parent? c = some p := by
  constructor
  · exact fun h => (hw.of_mem_children h).1
  · intro h
    rw [hw.children_eq]
    exact List.mem_filter.mpr ⟨List.mem_range.mpr (hw.lt_of_parent h).2.1, by simp [h]⟩

/-- Children are listed in creation order. -/
theorem WF.children_increasing (hw : t.WF) (p : ScopeId) : (t.children p).Pairwise (· < ·) := by
  rw [hw.children_eq]
  exact List.pairwise_lt_range.filter _

/-- A scope is listed once among its parent's children. -/
theorem WF.count_children (hw : t.WF) {p c : ScopeId} (hp : t.parent? c = some p) :
    (t.children p).count c = 1 := by
  have hnd : (t.children p).Nodup := (hw.children_increasing p).imp Nat.ne_of_lt
  rw [hnd.count, if_pos (hw.mem_children_iff.mpr hp)]

/-- Parent links below a scope point down, so the walk up from it is its ancestors. -/
theorem WF.linkChain (hw : t.WF) : ∀ s, LinkChain t.parent? s (t.ancestors s)
  | s => by
    cases hp : t.parent? s with
    | none =>
      rw [ancestors, hp]
      exact .stop hp
    | some p =>
      have hlt := (hw.lt_of_parent hp).1
      rw [ancestors, hp]
      dsimp only
      rw [if_pos hlt]
      exact .link hp (hw.linkChain p)
termination_by s => s

theorem WF.chain_nodup (hw : t.WF) (s : ScopeId) : (t.chain s).Nodup :=
  List.nodup_cons.mpr ⟨(hw.linkChain s).not_mem, (hw.linkChain s).nodup⟩

/-- The chain of a created scope ends at the global scope. -/
theorem WF.getLast?_chain (hw : t.WF) : ∀ {s : ScopeId}, s < t.size → (t.chain s).getLast? = some root
  | s, hs => by
    by_cases hr : s = root
    · rw [hr, hw.chain_root]
      rfl
    · -- one level up is a created scope below `s`, whose chain ends at the global scope
      obtain ⟨hc, hlt⟩ := hw.chain_parentOf hs hr
      rw [hc, List.getLast?_cons, hw.getLast?_chain (Nat.lt_trans hlt hs)]
      rfl
termination_by s => s

/-- A new child's ancestors are its parent followed by the parent's ancestors. -/
theorem WF.ancestors_createChild (hw : t.WF) {p : ScopeId} (hp : p < t.size) (n : String)
    (k : ScopeKind) :
    (t.createChild p n k).2.ancestors t.size = p :: (t.createChild p n k).2.ancestors p := by
  have hc := (hw.createChild hp n k).chain_of_parent (parent?_createChild_self t p n k)
  simp only [chain, List.cons.injEq, true_and] at hc
  exact hc

/-! ### Reachable trees -/

/-- The shape of a scope tree. -/
structure Shaped (t : ScopeTree) : Prop where
  /-- The global scope is the only created scope without a parent. -/
  parentless : ∀ s, s < t.size → (t.parent? s = none ↔ s = root)
  /-- Every other scope has a parent created before it, and is listed exactly once among that
  parent's children and among no other scope's. -/
  parent_lt : ∀ s, s < t.size → s ≠ root → ∃ p, t.parent? s = some p ∧ p < s ∧
    (t.children p).count s = 1 ∧ ∀ q, q ≠ p → s ∉ t.children q
  /-- Children are listed in creation order. -/
  children_increasing : ∀ p, (t.children p).Pairwise (· < ·)
  /-- The walk up from a scope along parent links ends, at the global scope, never meets a
  scope twice, and is what `ancestors` returns. -/
  chain_ends : ∀ s, s < t.size → LinkChain t.parent? s (t.ancestors s) ∧ (t.chain s).Nodup ∧
    (t.chain s).getLast? = some root
  /-- A child created below a scope has that scope followed by its ancestors as ancestors, one
  level deeper. -/
  createChild_ancestors : ∀ p n k, p < t.size →
    (t.createChild p n k).2.ancestors t.size = p :: (t.createChild p n k).2.ancestors p ∧
    (t.createChild p n k).2.depth t.size = (t.createChild p n k).2.depth p + 1

theorem WF.shaped (hw : t.WF) : t.Shaped where
  parentless _ hs := hw.parent?_eq_none_iff hs
  parent_lt s hs hr := by
    obtain ⟨p, hp, hlt⟩ := hw.parent_lt s hs hr
    refine ⟨p, hp, hlt, hw.count_children hp, fun q hq hm => hq ?_⟩
    rw [hw.mem_children_iff, hp] at hm
    exact (Option.some.inj hm).symm
  children_increasing := hw.children_increasing
  chain_ends s hs := ⟨hw.linkChain s, hw.chain_nodup s, hw.getLast?_chain hs⟩
  createChild_ancestors p n k hp := by
    have ha := hw.ancestors_createChild hp n k
    exact ⟨ha, by simp [depth, ha]⟩

/-- Every scope tree a session reaches, calling only on scopes the tree handed out, has the
shape of a tree: one parentless global scope, parents created before their children, each
scope listed once, in creation order, among its parent's children, finite chains up to the
global scope, and a new child one level below its parent. -/
theorem scope_tree_shape (cs : List ScopeCall) (h : ScopeTree.empty.Handed cs) :
    (ScopeTree.empty.execAll cs).Shaped :=
  (WF.execAll cs h WF.empty).shaped

/-- A function scope holding a loop and a block, with a binding made, rebound and released in
the loop. -/
theorem shaped_after_nested_scopes :
    ScopeTree.empty.Handed [.createChild root "f" .function, .createChild 1 "loop" .loop,
        .addSymbol 2 ⟨.variable ⟨"i", .primitive .int⟩, 0⟩ false, .createChild 1 "tail" .block,
        .setSymbol 2 ⟨.variable ⟨"i", .primitive .bool⟩, 1⟩ false, .releaseSymbol 2 "i"] ∧
      (ScopeTree.empty.execAll [.createChild root "f" .function, .createChild 1 "loop" .loop,
        .addSymbol 2 ⟨.variable ⟨"i", .primitive .int⟩, 0⟩ false, .createChild 1 "tail" .block,
        .setSymbol 2 ⟨.variable ⟨"i", .primitive .bool⟩, 1⟩ false, .releaseSymbol 2 "i"]).Shaped :=
  have h : ScopeTree.empty.Handed [.createChild root "f" .function, .createChild 1 "loop" .loop,
      .addSymbol 2 ⟨.variable ⟨"i", .primitive .int⟩, 0⟩ false, .createChild 1 "tail" .block,
      .setSymbol 2 ⟨.variable ⟨"i", .primitive .bool⟩, 1⟩ false, .releaseSymbol 2 "i"] := by
    decide
  ⟨h, scope_tree_shape _ h⟩

end ScopeTree

end ScopedIr
