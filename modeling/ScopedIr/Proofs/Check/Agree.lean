import ScopedIr.Proofs.Check.Replay

/-!
# A replay that agrees with a growing tree

The check replays a finished stream against the finished scope tree, while the stream was
built against a tree that was still growing. The two meet in `Agrees`: the replay of the
stream so far, run against a tree `u` that extends the tree `t` built so far, has raised no
finding, keeps one frame for each scope of the cursor's chain, has entered exactly the scopes
created so far, and declares in each frame every variable its scope binds.

Each way the builder moves the tree and the cursor keeps the agreement, as the replay takes the
instruction that comes with it: opening a child (`SCOPE_BEGIN`), closing the current scope
(`SCOPE_END`), binding in the current scope (`DECLARE`, `VAR_RELEASE`), and any change of
bindings that keeps the shape and binds no new variable.
-/

namespace ScopedIr

open ScopeTree (root)

/-- Opening a child of `p` in a well-formed tree `t`, inside an extension `u`: among the children
of `p` in `u` outside a list `E` that holds every scope of `t` but the global one, the first
with the new child's name and kind is the new child. The children of `p` in `u` are its old
ones, all in `E`, then the new one, then later ones. -/
theorem ScopeTree.WF.find_new_child {t u : ScopeTree} (hw : t.WF) (hu : u.WF) {p : ScopeId}
    (hp : p < t.size) {n : String} {k : ScopeKind} (ext : (t.createChild p n k).2.Extends u)
    {E : List ScopeId} (hold : ∀ c, c ≠ root → c < t.size → c ∈ E) (hnew : t.size ∉ E) :
    (u.children p).find? (fun c => (u.scope c).name == n && (u.scope c).kind == k &&
      !E.contains c) = some t.size := by
  have hw₁ := hw.createChild hp n k
  have hscope : (t.createChild p n k).2.scope t.size =
      { name := n, parent := some p, kind := k } := by
    simp [ScopeTree.scope_createChild]
  obtain ⟨later, hch, -⟩ := ext.children_eq hw₁ hu p
  have hkids : (t.createChild p n k).2.children p = t.children p ++ [t.size] := by
    simp [ScopeTree.children, ScopeTree.scope_createChild, Nat.ne_of_lt hp, hp]
  have hnone : (t.children p).find? (fun c => (u.scope c).name == n &&
      (u.scope c).kind == k && !E.contains c) = none := by
    rw [List.find?_eq_none]
    intro c hc
    obtain ⟨-, hlt, hr⟩ := hw.of_mem_children hc
    simp [hold c hr hlt]
  have hself : ((u.scope t.size).name == n && (u.scope t.size).kind == k &&
      !E.contains t.size) = true := by
    have hlt : t.size < (t.createChild p n k).2.size := by simp
    simp [ext.name_eq _ hlt, ext.kind_eq _ hlt, hscope, hnew]
  rw [hch, hkids, List.append_assoc, List.find?_append, hnone, Option.none_or,
    List.singleton_append, List.find?_cons, hself]

/-- The replay `r`, against the tree `u`, agrees with the tree `t` and the cursor `cur`. -/
structure Agrees (u t : ScopeTree) (cur : ScopeId) (r : Replay) : Prop where
  wf : t.WF
  current_lt : cur < t.size
  ext : t.Extends u
  clean : r.findings = #[]
  /-- One frame for each scope of the cursor's chain, innermost first. -/
  frames : r.frames.map (·.scope) = t.chain cur
  entered : ∀ c, c ∈ r.entered ↔ c ≠ root ∧ c < t.size
  declared : ∀ f ∈ r.frames, ∀ n d, (t.scope f.scope).lookup n = some d →
    d.symbol.kind = .variable → n ∈ f.declared

namespace Agrees

variable {u t : ScopeTree} {cur : ScopeId} {r : Replay}

/-- Before the first instruction, the replay agrees with the tree of the global scope alone. -/
theorem start (hu : ScopeTree.empty.Extends u) : Agrees u ScopeTree.empty root Replay.start where
  wf := ScopeTree.WF.empty
  current_lt := Nat.zero_lt_one
  ext := hu
  clean := rfl
  frames := ScopeTree.WF.empty.chain_root.symm
  entered c := by
    constructor
    · intro h
      cases h
    · rintro ⟨h0, h1⟩
      exact absurd (Nat.lt_one_iff.mp h1) h0
  declared f hf n d h hv := by
    obtain rfl := List.mem_singleton.mp hf
    cases h

/-- The innermost frame stands for the cursor's scope, the frames below it for enclosing ones. -/
theorem top (h : Agrees u t cur r) :
    ∃ top below, r.frames = top :: below ∧ top.scope = cur ∧ ∀ f ∈ below, f.scope < cur := by
  have hf := h.frames
  rcases hr : r.frames with _ | ⟨top, below⟩
  · rw [hr] at hf
    exact absurd hf.symm (ScopeTree.chain_ne_nil t cur)
  · rw [hr, List.map_cons, ScopeTree.chain] at hf
    obtain ⟨htop, hbelow⟩ := List.cons.inj hf
    refine ⟨top, below, rfl, htop, fun f hfm => ?_⟩
    have hmem : f.scope ∈ t.ancestors cur := by
      rw [← hbelow]
      exact List.mem_map_of_mem hfm
    exact ScopeTree.lt_of_mem_ancestors hmem

theorem current_eq (h : Agrees u t cur r) : r.current = cur := by
  obtain ⟨top, below, hr, hs, -⟩ := h.top
  simp [Replay.current, hr, hs]

/-- A name that the cursor's chain binds to a variable is declared in some frame. -/
theorem isDeclared (h : Agrees u t cur r) {n : String} {d : Decl}
    (hd : (t.chain cur).findSome? (fun s => (t.scope s).lookup n) = some d)
    (hv : d.symbol.kind = .variable) : r.isDeclared n = true := by
  obtain ⟨s, hs, hl⟩ := List.exists_of_findSome?_eq_some hd
  rw [← h.frames] at hs
  obtain ⟨f, hf, rfl⟩ := List.mem_map.mp hs
  exact List.any_eq_true.mpr ⟨f, hf, List.contains_iff_mem.mpr (h.declared f hf n d hl hv)⟩

/-- A target that resolves from the cursor resolves from the replay's current scope in `u`. -/
theorem resolves (h : Agrees u t cur r) (hu : u.WF) {tgt : String} {s : ScopeId}
    (hs : t.resolveScope cur tgt = .ok s) : ∃ s', u.resolveScope r.current tgt = .ok s' := by
  rw [h.current_eq]
  exact h.ext.resolveScope_ok h.wf hu h.current_lt hs

/-- A `BREAK` or `CONTINUE` whose target resolves from the cursor to a loop, and to the same
scope in `u`, raises nothing. -/
theorem loopExit (h : Agrees u t cur r) {tgt : String} {s : ScopeId}
    (hr : t.resolveScope cur tgt = .ok s) (hk : (t.scope s).kind = .loop)
    (kept : u.resolveScope cur tgt = .ok s) (m : Metadata) (j : Nat) :
    r.visit u j ⟨.breakLoop tgt, m⟩ = r ∧ r.visit u j ⟨.continueLoop tgt, m⟩ = r := by
  rw [← h.current_eq] at kept
  exact Replay.visit_loopExit u r j kept
    ((h.ext.kind_eq s (h.wf.lt_of_resolveScope hr)).trans hk)

/-- The parameters a replay holds play no part in the agreement. -/
theorem with_params (h : Agrees u t cur r) (ps : List String) :
    Agrees u t cur { r with params := ps } :=
  ⟨h.wf, h.current_lt, h.ext, h.clean, h.frames, h.entered, h.declared⟩

/-- A change of bindings that keeps the shape of the tree and binds no new variable. -/
theorem of_variables (h : Agrees u t cur r) {t' : ScopeTree} (shape : t.SameShape t')
    (vars : ∀ s n d, (t'.scope s).lookup n = some d → d.symbol.kind = .variable →
      (t.scope s).lookup n = some d) :
    Agrees u t' cur r where
  wf := shape.wf h.wf
  current_lt := shape.size_eq ▸ h.current_lt
  ext := h.ext.of_sameShape shape
  clean := h.clean
  frames := by rw [shape.chain_eq]; exact h.frames
  entered c := by rw [shape.size_eq]; exact h.entered c
  declared f hf n d hl hv := h.declared f hf n d (vars _ n d hl hv) hv

/-- Opening a child of the cursor's scope, in a tree that `u` extends: the replay finds the new
scope in `u` as the first child of its name and kind not entered yet, and pushes its frame. A
variable the new scope binds must be one of the parameters a function scope starts with. -/
theorem enter (h : Agrees u t cur r) (hu : u.WF) {t' : ScopeTree} {n : String} {k : ScopeKind}
    (m : Metadata) (j : Nat) (shape : (t.createChild cur n k).2.SameShape t') (ext : t'.Extends u)
    (tables : ∀ s, s < t.size → (t'.scope s).table = (t.scope s).table)
    (fresh : ∀ x d, (t'.scope t.size).lookup x = some d → d.symbol.kind = .variable →
      k = .function ∧ x ∈ r.params) :
    Agrees u t' t.size (r.visit u j ⟨.scopeBegin n k, m⟩) := by
  have hw₁ := h.wf.createChild h.current_lt n k
  -- in `u` the new scope is the first child of its name and kind not entered yet
  have hfind : (u.children r.current).find? (fun c => (u.scope c).name == n &&
      (u.scope c).kind == k && !r.entered.contains c) = some t.size := by
    rw [h.current_eq]
    exact h.wf.find_new_child hu h.current_lt (shape.extends.trans ext)
      (fun c hr hlt => (h.entered c).mpr ⟨hr, hlt⟩)
      (fun hin => Nat.lt_irrefl _ ((h.entered _).mp hin).2)
  simp only [Replay.visit]
  rw [Replay.enter_of_find u r j hfind]
  refine ⟨shape.wf hw₁, ?_, ext, h.clean, ?_, fun c => ?_, ?_⟩
  · rw [shape.size_eq, ScopeTree.size_createChild]
    exact Nat.lt_succ_self _
  · rw [List.map_cons, h.frames, shape.chain_eq, h.wf.chain_createChild_self h.current_lt]
  · have hroot : root < t.size := h.wf.root_lt
    rw [List.mem_append, h.entered c, List.mem_singleton, shape.size_eq,
      ScopeTree.size_createChild]
    constructor
    · rintro (⟨h0, h1⟩ | rfl)
      · exact ⟨h0, Nat.lt_succ_of_lt h1⟩
      · exact ⟨Nat.ne_of_gt hroot, Nat.lt_succ_self _⟩
    · rintro ⟨h0, h1⟩
      rcases Nat.lt_succ_iff_lt_or_eq.mp h1 with h1 | h1
      · exact Or.inl ⟨h0, h1⟩
      · exact Or.inr h1
  · intro f hf x d hl hv
    rcases List.mem_cons.mp hf with rfl | hf
    · obtain ⟨hk, hx⟩ := fresh x d hl hv
      simp [hk, List.mem_eraseDups, hx]
    · -- an old frame stands for a scope of the old chain, whose table is kept
      have hlt : f.scope < t.size := by
        have hm : f.scope ∈ t.chain cur := by
          rw [← h.frames]
          exact List.mem_map_of_mem hf
        exact ScopeTree.lt_size_of_mem_chain h.current_lt hm
      rw [Scope.lookup, tables _ hlt] at hl
      exact h.declared f hf x d hl hv

/-- Closing the cursor's scope, which has a parent: the replay pops its frame. -/
theorem leave (h : Agrees u t cur r) (hp : t.hasParent cur = true) (m : Metadata) (j : Nat) :
    Agrees u t (t.parentOf cur) (r.visit u j ⟨.scopeEnd, m⟩) := by
  have hr : cur ≠ root := (h.wf.hasParent_iff h.current_lt).mp hp
  obtain ⟨hc, hlt⟩ := h.wf.chain_parentOf h.current_lt hr
  obtain ⟨top, below, hfr, -, -⟩ := h.top
  have hbelow : below.map (·.scope) = t.chain (t.parentOf cur) := by
    have hf := h.frames
    rw [hfr, hc, List.map_cons] at hf
    exact (List.cons.inj hf).2
  cases below with
  | nil => exact absurd hbelow.symm (ScopeTree.chain_ne_nil t _)
  | cons g rest =>
    rw [Replay.visit_scopeEnd u r j hfr]
    exact ⟨h.wf, Nat.lt_trans hlt h.current_lt, h.ext, h.clean, hbelow, h.entered,
      fun f hf => h.declared f (hfr ▸ List.mem_cons_of_mem _ hf)⟩

/-- Binding `d` in the cursor's scope, with a `DECLARE` of its name: the current frame declares
the name. -/
theorem declare (h : Agrees u t cur r) (d : Decl) {slot : Slot} (hname : slot.name = d.name)
    (m : Metadata) (j : Nat) :
    Agrees u (t.modifyScope cur (·.bind d)) cur (r.visit u j ⟨.declare slot, m⟩) := by
  obtain ⟨top, below, hfr, htop, hbelow⟩ := h.top
  have shape : t.SameShape (t.modifyScope cur (·.bind d)) :=
    ScopeTree.sameShape_modifyScope _ fun _ => rfl
  rw [Replay.visit_declare u r j hfr]
  refine ⟨shape.wf h.wf, shape.size_eq ▸ h.current_lt, h.ext.of_sameShape shape, h.clean, ?_,
    fun c => ?_, ?_⟩
  · rw [shape.chain_eq, ← h.frames, hfr]
    rfl
  · rw [shape.size_eq]
    exact h.entered c
  · intro f hf x e hl hv
    rcases ScopeTree.lookup_modifyScope_bind hl with ⟨hs, rfl⟩ | hl
    · -- the new binding is in the cursor's scope, which only the current frame stands for
      rcases List.mem_cons.mp hf with rfl | hf
      · have hx : e.name = x := Scope.name_of_lookup hl
        simp [List.mem_insert_iff, hname, hx]
      · exact absurd hs (Nat.ne_of_gt (hbelow f hf))
    · rcases List.mem_cons.mp hf with rfl | hf
      · exact List.mem_insert_of_mem (h.declared top (hfr ▸ List.mem_cons_self) x e hl hv)
      · exact h.declared f (hfr ▸ List.mem_cons_of_mem _ hf) x e hl hv

/-- Releasing a variable the cursor's scope binds, with its `VAR_RELEASE`: the current frame
declares it, and forgets it. -/
theorem release (h : Agrees u t cur r) {x : String} {d : Decl}
    (hx : (t.scope cur).lookup x = some d) (hv : d.symbol.kind = .variable) (m : Metadata)
    (j : Nat) :
    Agrees u (t.modifyScope cur (·.unbind x)) cur (r.visit u j ⟨.release x, m⟩) := by
  obtain ⟨top, below, hfr, htop, hbelow⟩ := h.top
  have shape : t.SameShape (t.modifyScope cur (·.unbind x)) :=
    ScopeTree.sameShape_modifyScope _ fun _ => rfl
  have hdecl : x ∈ top.declared := h.declared top (hfr ▸ List.mem_cons_self) x d (htop ▸ hx) hv
  rw [Replay.visit_release u r j hfr hdecl]
  refine ⟨shape.wf h.wf, shape.size_eq ▸ h.current_lt, h.ext.of_sameShape shape, h.clean, ?_,
    fun c => ?_, ?_⟩
  · rw [shape.chain_eq, ← h.frames, hfr]
    rfl
  · rw [shape.size_eq]
    exact h.entered c
  · intro f hf y e hl hv
    rw [ScopeTree.lookup_modifyScope] at hl
    rcases List.mem_cons.mp hf with rfl | hf
    · rw [if_pos ⟨htop.symm, htop ▸ h.current_lt⟩] at hl
      have hy : y ≠ x := by
        rintro rfl
        rw [Scope.lookup_unbind_self] at hl
        cases hl
      rw [Scope.lookup_unbind_of_ne _ hy] at hl
      exact (List.mem_erase_of_ne hy).mpr (h.declared top (hfr ▸ List.mem_cons_self) y e hl hv)
    · rw [if_neg fun hs => Nat.ne_of_gt (hbelow f hf) hs.1] at hl
      exact h.declared f (hfr ▸ List.mem_cons_of_mem _ hf) y e hl hv

end Agrees

end ScopedIr
