import ScopedIr.Proofs.Scope.Lookup

/-!
# What a scope mutation can change

A symbol lookup reads the chain of its starting scope, the binding of its name in each level,
and the path name of the starting scope; a scope lookup reads the chain and the names of the
children of each level. Binding, rebinding or releasing a name in one scope changes the table
of that scope alone, and there only the binding of that name, and it keeps the shape of the
tree. So it changes the symbol lookups of that name from the scopes whose chain passes through
the scope, and no other lookup. A mutation that is refused changes nothing.

Opening a child leaves the scopes that existed as they were, except that the parent lists one
more child, last. Every symbol lookup from an existing scope stays as it was. A scope lookup
that found a child still finds one; it finds another only when the new child has the name
looked for and its parent comes, on the chain, before the level where the old child was found:
at that level itself the old child still comes first in creation order. This is what keeps a
jump target checked when it was emitted resolvable after the tree has grown.
-/

namespace ScopedIr

namespace ScopeTree

open ScopeTree (root)

variable {t t' : ScopeTree}

/-! ### What a lookup reads -/

private theorem findSome?_congr {α β : Type} {f g : α → Option β} :
    ∀ {l : List α}, (∀ x ∈ l, f x = g x) → l.findSome? f = l.findSome? g
  | [], _ => rfl
  | x :: l, h => by
    simp only [List.findSome?_cons, h x List.mem_cons_self,
      findSome?_congr fun y hy => h y (List.mem_cons_of_mem _ hy)]

/-- The path of a scope reads only the names and kinds of the levels of its chain. -/
private theorem names_takeWhile_congr {f g : ScopeId → Scope} :
    ∀ {l : List ScopeId}, (∀ y ∈ l, (f y).name = (g y).name ∧ (f y).kind = (g y).kind) →
      ((l.map f).takeWhile (·.kind != .global)).map (·.name) =
        ((l.map g).takeWhile (·.kind != .global)).map (·.name)
  | [], _ => rfl
  | y :: l, h => by
    obtain ⟨hn, hk⟩ := h y List.mem_cons_self
    simp only [List.map_cons, List.takeWhile_cons, hk]
    split
    · rw [List.map_cons, List.map_cons, hn,
        names_takeWhile_congr fun z hz => h z (List.mem_cons_of_mem _ hz)]
    · rfl

theorem uniqueName_congr {u : ScopeId} (hc : t'.chain u = t.chain u)
    (hnk : ∀ y ∈ t.chain u, (t'.scope y).name = (t.scope y).name ∧
      (t'.scope y).kind = (t.scope y).kind) : t'.uniqueName u = t.uniqueName u := by
  simp only [uniqueName, hc, names_takeWhile_congr hnk]

theorem resolveSymbol_congr {u : ScopeId} {m : String} (hc : t'.chain u = t.chain u)
    (hl : ∀ y ∈ t.chain u, (t'.scope y).lookup m = (t.scope y).lookup m)
    (hn : t'.uniqueName u = t.uniqueName u) : t'.resolveSymbol u m = t.resolveSymbol u m := by
  simp only [resolveSymbol, hc, hn, findSome?_congr hl]

theorem findSymbol_congr {u : ScopeId} {m : String}
    (hl : (t'.scope u).lookup m = (t.scope u).lookup m) (hn : t'.uniqueName u = t.uniqueName u) :
    t'.findSymbol u m = t.findSymbol u m := by
  simp only [findSymbol, hl, hn]

theorem SameShape.uniqueName_eq (h : t.SameShape t') (u : ScopeId) :
    t'.uniqueName u = t.uniqueName u :=
  uniqueName_congr (h.chain_eq u) fun y _ => ⟨h.name_eq y, h.kind_eq y⟩

theorem Extends.uniqueName_eq (h : t.Extends t') {u : ScopeId} (hu : u < t.size) :
    t'.uniqueName u = t.uniqueName u :=
  uniqueName_congr (h.chain_eq hu) fun y hy =>
    have hy := lt_size_of_mem_chain hu hy
    ⟨h.name_eq y hy, h.kind_eq y hy⟩

/-! ### Binding, rebinding and releasing -/

/-- The symbol lookups of `t'` are those of `t`, except the lookups of the name `n` from scopes
whose chain passes through `s`. -/
def SymbolsAgreeOff (t t' : ScopeTree) (s : ScopeId) (n : String) : Prop :=
  ∀ u m, ¬(m = n ∧ s ∈ t.chain u) →
    t'.resolveSymbol u m = t.resolveSymbol u m ∧ t'.findSymbol u m = t.findSymbol u m

theorem SymbolsAgreeOff.refl (t : ScopeTree) (s : ScopeId) (n : String) :
    SymbolsAgreeOff t t s n :=
  fun _ _ _ => ⟨rfl, rfl⟩

/-- Rewriting the table of `s` so that only the binding of `n` may change reaches no other
symbol lookup. -/
theorem symbolsAgreeOff_modifyScope (s : ScopeId) (n : String) {f : Scope → Scope}
    (hf : ∀ x, { f x with table := x.table } = x) (hkeep : ∀ x m, m ≠ n → (f x).lookup m = x.lookup m) :
    SymbolsAgreeOff t (t.modifyScope s f) s n := by
  intro u m hum
  have hshape := sameShape_modifyScope (t := t) s hf
  -- the level rewritten, if the chain meets it, keeps its binding of `m`, which is not `n`
  have hl : ∀ y ∈ t.chain u, ((t.modifyScope s f).scope y).lookup m = (t.scope y).lookup m := by
    intro y hy
    rw [lookup_modifyScope]
    split
    · next h => exact hkeep _ m fun hm => hum ⟨hm, h.1 ▸ hy⟩
    · rfl
  exact ⟨resolveSymbol_congr (hshape.chain_eq u) hl (hshape.uniqueName_eq u),
    findSymbol_congr (hl u List.mem_cons_self) (hshape.uniqueName_eq u)⟩

theorem symbolsAgreeOff_bind (s : ScopeId) (d : Decl) :
    SymbolsAgreeOff t (t.modifyScope s (·.bind d)) s d.name :=
  symbolsAgreeOff_modifyScope s d.name (fun _ => rfl) fun x _ hm => Scope.lookup_bind_of_ne x d hm

theorem symbolsAgreeOff_addSymbol (s : ScopeId) (d : Decl) (force : Bool) :
    SymbolsAgreeOff t (t.addSymbol s d force).2 s d.name := by
  unfold addSymbol
  split
  · exact SymbolsAgreeOff.refl t s d.name
  · exact symbolsAgreeOff_bind s d

theorem symbolsAgreeOff_setSymbol (s : ScopeId) (d : Decl) (force : Bool) :
    SymbolsAgreeOff t (t.exec (.setSymbol s d force)) s d.name := by
  simp only [exec, setSymbol]
  split
  · next h =>
    split at h
    · cases h
    · cases h
      exact symbolsAgreeOff_bind s d
  · exact SymbolsAgreeOff.refl t s d.name

theorem symbolsAgreeOff_releaseSymbol (s : ScopeId) (n : String) :
    SymbolsAgreeOff t (t.exec (.releaseSymbol s n)) s n := by
  simp only [exec, releaseSymbol]
  split
  · next h =>
    split at h
    · cases h
      exact symbolsAgreeOff_modifyScope s n (fun _ => rfl) fun x _ hm => Scope.lookup_unbind_of_ne x hm
    · cases h
  · exact SymbolsAgreeOff.refl t s n

/-- A binding is refused only when its name is bound in the scope itself and `force` is off,
and a refused binding leaves the tree as it was. -/
theorem addSymbol_rejected {s : ScopeId} {d : Decl} {force : Bool}
    (h : (t.addSymbol s d force).1 = false) :
    t.hasSymbol s d.name = true ∧ force = false ∧ (t.addSymbol s d force).2 = t := by
  unfold addSymbol at h ⊢
  split at h
  · next hb =>
    simp only [Bool.and_eq_true, Bool.not_eq_true'] at hb
    exact ⟨hb.1, hb.2, by rw [if_pos (by simp [hb.1, hb.2])]⟩
  · cases h

/-! ### Opening a child -/

/-- Opening a child keeps every symbol lookup from a scope that existed. -/
theorem symbols_createChild (p : ScopeId) (m : String) (k : ScopeKind) {u : ScopeId}
    (hu : u < t.size) (n : String) :
    (t.createChild p m k).2.resolveSymbol u n = t.resolveSymbol u n ∧
      (t.createChild p m k).2.findSymbol u n = t.findSymbol u n := by
  have hext := extends_createChild t p m k
  have hl : ∀ y ∈ t.chain u, ((t.createChild p m k).2.scope y).lookup n = (t.scope y).lookup n :=
    fun y hy => by
      simp only [Scope.lookup, table_createChild_of_lt t p m k (lt_size_of_mem_chain hu hy)]
  exact ⟨resolveSymbol_congr (hext.chain_eq hu) hl (hext.uniqueName_eq hu),
    findSymbol_congr (hl u List.mem_cons_self) (hext.uniqueName_eq hu)⟩

/-- A level that existed finds by name what it found before; if it is the parent of the new
child and found nothing, it finds the new child when that has the name. -/
theorem WF.childNamed?_createChild (hw : t.WF) (p : ScopeId) (m : String) (k : ScopeKind)
    {y : ScopeId} (hy : y < t.size) (n : String) :
    (t.createChild p m k).2.childNamed? y n =
      (t.childNamed? y n).or (if p = y ∧ m = n then some t.size else none) := by
  have hext := extends_createChild t p m k
  -- the children that existed keep their names
  have hold : ((t.children y).find? fun c => ((t.createChild p m k).2.scope c).name == n) =
      t.childNamed? y n :=
    List.find?_congr fun c hc => by
      rw [hext.name_eq c (hw.of_mem_children hc).2.1]
  have hnew : ((t.createChild p m k).2.scope t.size).name = m := by simp [scope_createChild]
  -- the parent lists the new child last; every other scope keeps its children
  have hch : (t.createChild p m k).2.children y = t.children y ++ if p = y then [t.size] else [] := by
    by_cases hp : p = y <;> simp [children, scope_createChild, Nat.ne_of_lt hy, hy, hp]
  rw [childNamed?, hch, List.find?_append, hold]
  by_cases hp : p = y
  · subst hp
    simp [List.find?_singleton, hnew]
  · simp [hp]

/-- Opening a child never makes a scope lookup from an existing scope fail. It finds another
scope only when the new child has the name looked for and its parent comes, on the chain,
strictly before the level where the old scope was found. -/
theorem WF.resolveScope_createChild (hw : t.WF) (p : ScopeId) (m : String) (k : ScopeKind)
    {u : ScopeId} (hu : u < t.size) {n : String} {c : ScopeId} (h : t.resolveScope u n = .ok c) :
    ∃ c', (t.createChild p m k).2.resolveScope u n = .ok c' ∧
      (c' ≠ c → n = m ∧ ∃ pre post x, t.chain u = pre ++ p :: post ∧ t.parent? c = some x ∧
        x ∈ post) := by
  obtain ⟨pre, x, post, hL, hx, hpre⟩ := List.findSome?_eq_some_iff.mp (resolveScope_eq_ok_iff.mp h)
  have hxL : x ∈ t.chain u := hL ▸ List.mem_append_right _ List.mem_cons_self
  have hnew := fun y (hy : y ∈ t.chain u) =>
    hw.childNamed?_createChild p m k (lt_size_of_mem_chain hu hy) n
  have hchain := chain_createChild_of_lt (t := t) p m k hu
  -- the level that answered still answers with the same child
  have hx' : (t.createChild p m k).2.childNamed? x n = some c := by
    rw [hnew x hxL, hx]
    rfl
  by_cases hmoved : p ∈ pre ∧ m = n
  · have hsome : ((t.chain u).findSome? fun i => (t.createChild p m k).2.childNamed? i n).isSome :=
      List.findSome?_isSome_iff.mpr ⟨x, hxL, by rw [hx']; rfl⟩
    obtain ⟨c', hc'⟩ := Option.isSome_iff_exists.mp hsome
    refine ⟨c', resolveScope_eq_ok_iff.mpr (hchain ▸ hc'), fun _ => ⟨hmoved.2.symm, ?_⟩⟩
    obtain ⟨pre₁, pre₂, rfl⟩ := List.append_of_mem hmoved.1
    refine ⟨pre₁, pre₂ ++ x :: post, x, by simp [hL], ?_, by simp⟩
    exact (hw.of_mem_children (List.mem_of_find?_eq_some hx)).1
  · -- no level before the old one gains the name, so the old level answers first again
    refine ⟨c, ?_, fun hne => absurd rfl hne⟩
    rw [resolveScope_eq_ok_iff, hchain, List.findSome?_eq_some_iff]
    refine ⟨pre, x, post, hL, hx', fun y hy => ?_⟩
    rw [hnew y (hL ▸ List.mem_append_left _ hy), hpre y hy, Option.none_or, ite_eq_right_iff]
    rintro ⟨rfl, hmn⟩
    exact absurd ⟨hy, hmn⟩ hmoved

/-! ### The mutations of a well-formed tree -/

/-- What each mutation of a tree can change. Binding, rebinding or releasing a name in a scope,
whether or not it succeeds, changes only the symbol lookups of that name from scopes whose
chain passes through that scope, and one that is refused changes nothing. Opening a child
changes no symbol lookup from a scope that existed; a scope lookup from such a scope that
succeeded still succeeds, and finds another scope only when the new child has the name looked
for and its parent comes, on the chain, strictly before the level where the old scope was
found. -/
structure MutationsStayLocal (t : ScopeTree) : Prop where
  addSymbol : ∀ s d force, SymbolsAgreeOff t (t.addSymbol s d force).2 s d.name
  setSymbol : ∀ s d force, SymbolsAgreeOff t (t.exec (.setSymbol s d force)) s d.name
  releaseSymbol : ∀ s n, SymbolsAgreeOff t (t.exec (.releaseSymbol s n)) s n
  addSymbol_rejected : ∀ s d force, (t.addSymbol s d force).1 = false →
    t.hasSymbol s d.name = true ∧ force = false ∧ (t.addSymbol s d force).2 = t
  setSymbol_failed : ∀ s d force e, t.setSymbol s d force = .error e →
    t.exec (.setSymbol s d force) = t
  releaseSymbol_failed : ∀ s n e, t.releaseSymbol s n = .error e →
    t.exec (.releaseSymbol s n) = t
  createChild_symbols : ∀ p m k u n, u < t.size →
    (t.createChild p m k).2.resolveSymbol u n = t.resolveSymbol u n ∧
      (t.createChild p m k).2.findSymbol u n = t.findSymbol u n
  createChild_scopes : ∀ p m k u n c, u < t.size → t.resolveScope u n = .ok c →
    ∃ c', (t.createChild p m k).2.resolveScope u n = .ok c' ∧
      (c' ≠ c → n = m ∧ ∃ pre post x, t.chain u = pre ++ p :: post ∧ t.parent? c = some x ∧
        x ∈ post)

/-- In a well-formed tree, and so in every tree a session reaches, each mutation changes only
the lookups it should. -/
theorem mutations_stay_local (t : ScopeTree) (hw : t.WF) : t.MutationsStayLocal where
  addSymbol := symbolsAgreeOff_addSymbol
  setSymbol := symbolsAgreeOff_setSymbol
  releaseSymbol := symbolsAgreeOff_releaseSymbol
  addSymbol_rejected _ _ _ := addSymbol_rejected
  setSymbol_failed _ _ _ _ h := by simp [exec, h]
  releaseSymbol_failed _ _ _ h := by simp [exec, h]
  createChild_symbols p m k _ n hu := symbols_createChild p m k hu n
  createChild_scopes p m k _ _ _ hu h := hw.resolveScope_createChild p m k hu h

/-- A function scope holding a loop, which binds a variable, and a block: a tree a session
reaches. -/
theorem mutations_stay_local_in_nested_scopes :
    (ScopeTree.empty.execAll [.createChild root "f" .function, .createChild 1 "loop" .loop,
        .addSymbol 2 ⟨.variable ⟨"i", .primitive .int⟩, 0⟩ false, .createChild 1 "tail" .block]).WF ∧
      (ScopeTree.empty.execAll [.createChild root "f" .function, .createChild 1 "loop" .loop,
        .addSymbol 2 ⟨.variable ⟨"i", .primitive .int⟩, 0⟩ false,
        .createChild 1 "tail" .block]).MutationsStayLocal :=
  have hw := WF.execAll [.createChild root "f" .function, .createChild 1 "loop" .loop,
    .addSymbol 2 ⟨.variable ⟨"i", .primitive .int⟩, 0⟩ false, .createChild 1 "tail" .block]
    (by decide) WF.empty
  ⟨hw, mutations_stay_local _ hw⟩

end ScopeTree

end ScopedIr
