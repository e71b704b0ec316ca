import ScopedIr.Proofs.Scope.Frame

/-!
# Path names follow the tree

The path name of a scope reads the chain from the scope up to the nearest level of kind
`global`, names only, and puts `global` in front. The global scope keeps the kind it was created
with through every call of a session, so its path name is `global`. A new child's
chain is the child followed by its parent's chain: its path name is `global` again when the
child is itself of kind `global`, and otherwise its parent's path name, a `/` and its own name.
So in a tree where only the global scope has kind `global`, the path name of a scope is
`global` followed by the names of the scopes on the way down from the global scope to it.
-/

namespace ScopedIr

namespace ScopeTree

open ScopeTree (root)

variable {t : ScopeTree}

/-! ### Sessions keep the scopes they found -/

/-- No call removes, renames or moves a scope. -/
theorem extends_exec (t : ScopeTree) (c : ScopeCall) : t.Extends (t.exec c) := by
  cases c with
  | createChild p n k => exact extends_createChild t p n k
  | addSymbol s d force => exact (sameShape_addSymbol s d force).extends
  | setSymbol s d force =>
    simp only [exec, setSymbol]
    split
    · next h =>
      split at h
      · cases h
      · cases h
        have hs : t.SameShape (t.modifyScope s (·.bind d)) := sameShape_modifyScope s fun _ => rfl
        exact hs.extends
    · exact Extends.refl t
  | releaseSymbol s n =>
    simp only [exec, releaseSymbol]
    split
    · next h =>
      split at h
      · cases h
        have hs : t.SameShape (t.modifyScope s (·.unbind n)) := sameShape_modifyScope s fun _ => rfl
        exact hs.extends
      · cases h
    · exact Extends.refl t

theorem extends_execAll (t : ScopeTree) (cs : List ScopeCall) : t.Extends (t.execAll cs) := by
  induction cs generalizing t with
  | nil => exact Extends.refl t
  | cons c cs ih => exact (extends_exec t c).trans (ih (t.exec c))

/-- The global scope of a tree a session reaches is still of kind `global`. -/
theorem kind_root_execAll (cs : List ScopeCall) :
    ((ScopeTree.empty.execAll cs).scope root).kind = .global :=
  (extends_execAll ScopeTree.empty cs).kind_eq root WF.empty.root_lt

/-! ### One level of a path name -/

/-- A scope of kind `global` restarts the path: its path name is `global`. -/
theorem uniqueName_of_global {s : ScopeId} (hk : (t.scope s).kind = .global) :
    t.uniqueName s = globalScopeName := by
  simp [uniqueName, chain, hk]

/-- Below a scope `p`, a scope `s` of another kind than `global` adds its own name to the path
name of `p`. -/
theorem uniqueName_of_chain_eq_cons {s p : ScopeId} (hc : t.chain s = s :: t.chain p)
    (hk : (t.scope s).kind ≠ .global) :
    t.uniqueName s = t.uniqueName p ++ "/" ++ (t.scope s).name := by
  have hk' : ((t.scope s).kind != .global) = true := bne_iff_ne.mpr hk
  simp only [uniqueName, hc, List.map_cons, List.takeWhile_cons, hk', if_true,
    List.reverse_cons, ← List.cons_append]
  rw [String.intercalate_append_of_ne_nil (List.cons_ne_nil _ _) (List.cons_ne_nil _ _),
    String.intercalate_singleton]

/-- Opening a child below a created scope names it after its parent, unless it is of kind
`global`. -/
theorem WF.uniqueName_createChild (hw : t.WF) {p : ScopeId} (hp : p < t.size) (m : String)
    (k : ScopeKind) :
    (t.createChild p m k).2.uniqueName (t.createChild p m k).1 =
      if k = .global then globalScopeName else t.uniqueName p ++ "/" ++ m := by
  have hnew : (t.createChild p m k).2.scope t.size = { name := m, parent := some p, kind := k } := by
    simp [scope_createChild]
  rw [fst_createChild]
  split
  · next hk => exact uniqueName_of_global (by rw [hnew, hk])
  · next hk =>
    -- the child's chain goes on with its parent's, which opening the child kept
    have hc : (t.createChild p m k).2.chain t.size = t.size :: (t.createChild p m k).2.chain p := by
      rw [hw.chain_createChild_self hp, chain_createChild_of_lt p m k hp]
    rw [uniqueName_of_chain_eq_cons hc (by rw [hnew]; exact hk), hnew,
      (extends_createChild t p m k).uniqueName_eq hp]

/-- The names of the scopes on the way down from the global scope, excluded, to `s`. -/
def pathNames (t : ScopeTree) (s : ScopeId) : List String :=
  (t.chain s).dropLast.reverse.map fun x => (t.scope x).name

/-- In a tree whose global scope is named `global` and is the only scope of kind `global`, the
path name of a scope is `global` followed by the names on the way down to it. The induction
climbs the chain: each level below the global scope adds its name. -/
theorem WF.uniqueName_eq_pathNames (hw : t.WF) (hroot : (t.scope root).kind = .global)
    (honly : ∀ s, s < t.size → (t.scope s).kind = .global → s = root) :
    ∀ s, s < t.size → t.uniqueName s = "/".intercalate (globalScopeName :: t.pathNames s)
  | s, hs => by
    by_cases hr : s = root
    · subst hr
      simp [pathNames, hw.chain_root, uniqueName_of_global hroot]
    · obtain ⟨hc, hlt⟩ := hw.chain_parentOf hs hr
      have ih := hw.uniqueName_eq_pathNames hroot honly (t.parentOf s) (Nat.lt_trans hlt hs)
      have hnames : t.pathNames s = t.pathNames (t.parentOf s) ++ [(t.scope s).name] := by
        simp [pathNames, hw.dropLast_chain hs, hr]
      rw [uniqueName_of_chain_eq_cons hc fun hk => hr (honly s hs hk), ih, hnames,
        ← List.cons_append,
        String.intercalate_append_of_ne_nil (List.cons_ne_nil _ _) (List.cons_ne_nil _ _),
        String.intercalate_singleton]
termination_by s => s

/-! ### Reachable trees -/

/-- How the path names of a tree follow its shape. -/
structure NamesFollowTree (t : ScopeTree) : Prop where
  /-- The global scope's path name is `global`. -/
  global : t.uniqueName root = globalScopeName
  /-- A new child below a created scope is named after its parent, or restarts the path when
  it is of kind `global`. -/
  child : ∀ p m k, p < t.size →
    (t.createChild p m k).2.uniqueName (t.createChild p m k).1 =
      if k = .global then globalScopeName else t.uniqueName p ++ "/" ++ m
  /-- Where only the global scope has kind `global`, a path name lists the names on the way
  down from the global scope. -/
  path : (∀ s, s < t.size → (t.scope s).kind = .global → s = root) →
    ∀ s, s < t.size → t.uniqueName s = "/".intercalate (globalScopeName :: t.pathNames s)

/-- In every tree a session reaches, calling only on scopes the tree handed out, path names
follow the tree: the global scope's is `global`, a new child's is its parent's followed by `/`
and its own name (or `global`, for a child of kind `global`), and, when only the global scope
has kind `global`, each path name is `global` followed by the names on the way down. -/
theorem unique_names_follow_tree (cs : List ScopeCall) (h : ScopeTree.empty.Handed cs) :
    (ScopeTree.empty.execAll cs).NamesFollowTree where
  global := uniqueName_of_global (kind_root_execAll cs)
  child _ m k hp := (WF.execAll cs h WF.empty).uniqueName_createChild hp m k
  path := (WF.execAll cs h WF.empty).uniqueName_eq_pathNames (kind_root_execAll cs)

/-- A loop inside a function, the tree of the builder's tests: `inner` is named
`global/outer/inner`. -/
theorem names_follow_function_and_loop :
    ScopeTree.empty.Handed [.createChild root "outer" .function, .createChild 1 "inner" .loop] ∧
      (ScopeTree.empty.execAll [.createChild root "outer" .function,
        .createChild 1 "inner" .loop]).NamesFollowTree :=
  have h : ScopeTree.empty.Handed [.createChild root "outer" .function,
      .createChild 1 "inner" .loop] := by
    decide
  ⟨h, unique_names_follow_tree _ h⟩

example : (ScopeTree.empty.execAll [.createChild root "outer" .function,
    .createChild 1 "inner" .loop]).uniqueName 2 = "global/outer/inner" := by
  decide +kernel

end ScopeTree

end ScopedIr
