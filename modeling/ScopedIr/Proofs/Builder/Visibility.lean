import ScopedIr.Proofs.Builder.Bindings

/-!
# Lexical visibility

A run of a builder opens scopes with `beginScope` and `beginFunctionBody` and closes them with
`endScope`. Kept beside the run as a log, the scopes opened and not closed yet, innermost
first, are exactly the current scope's chain without the global scope. A closed scope never
again becomes current or encloses the current scope, and its bindings are frozen. So a name
resolves to its binding in the innermost open scope that binds it, and fails as an undefined
symbol exactly when no open scope binds it; and a declaration stays what its name resolves to
while its scope is open, unless it is released there or a scope opened inside it binds the
same name.
-/

namespace ScopedIr

/-- The scopes a run has opened and not closed yet, innermost first, and those it closed. -/
structure ScopeLog where
  opened : List ScopeId := []
  closed : List ScopeId := []
  deriving Repr

namespace ScopeLog

/-- The log after call `c` made in state `b`. A `beginScope` or `beginFunctionBody` opens the
scope the arena creates next, the handle `beginScope` returns, whether or not the call then
fails; an `endScope` that succeeds closes the scope it returns. -/
def record (g : ScopeLog) (b : Builder) : Call → ScopeLog
  | .beginScope .. | .beginFunctionBody _ => { g with opened := b.scopes.size :: g.opened }
  | .endScope =>
    match Builder.endScope.run b with
    | .ok s _ => { opened := g.opened.erase s, closed := s :: g.closed }
    | .error _ _ => g
  | _ => g

/-- The log agrees with the builder: the open scopes are the cursor's chain without the
global scope, and the closed scopes are created scopes off that chain. -/
structure Tracks (g : ScopeLog) (b : Builder) : Prop where
  wf : b.scopes.WF
  current_lt : b.current < b.scopes.size
  chain_eq : b.scopes.chain b.current = g.opened ++ [ScopeTree.root]
  closed : ∀ s ∈ g.closed, s < b.scopes.size ∧ s ≠ ScopeTree.root ∧ s ∉ b.scopes.chain b.current

theorem tracks_new (o : BuilderOptions) : ({} : ScopeLog).Tracks (Builder.new o) where
  wf := ScopeTree.WF.empty
  current_lt := Nat.zero_lt_one
  chain_eq := ScopeTree.WF.empty.chain_root
  closed _ h := absurd h List.not_mem_nil

section Record

variable {g : ScopeLog} {b : Builder} {c : Call}

/-- A call that opens no scope and closes none leaves the log. -/
theorem record_of_still
    (still : c.opensScope = false ∧ (c = .endScope → b.scopes.hasParent b.current = false)) :
    g.record b c = g := by
  cases c with
  | beginScope => cases still.1
  | beginFunctionBody => cases still.1
  | endScope => simp [record, Builder.run_endScope, still.2 rfl]
  | _ => rfl

theorem record_of_opens (h : c.opensScope = true) :
    g.record b c = { g with opened := b.scopes.size :: g.opened } := by
  cases c with
  | beginScope => rfl
  | beginFunctionBody => rfl
  | _ => cases h

theorem record_endScope (h : b.scopes.hasParent b.current = true) :
    g.record b .endScope =
      { opened := g.opened.erase b.current, closed := b.current :: g.closed } := by
  simp [record, Builder.run_endScope, h]

/-- The log only ever adds closed scopes. -/
theorem closed_subset_record : g.closed ⊆ (g.record b c).closed := by
  intro s hs
  cases c with
  | endScope =>
    simp only [record]
    split
    · exact List.mem_cons_of_mem _ hs
    · exact hs
  | _ => exact hs

end Record

section Steps

variable {g : ScopeLog} {b b' : Builder}

/-- A call that keeps the structure keeps the agreement. -/
theorem Tracks.keep (h : g.Tracks b) (shape : b.scopes.SameShape b'.scopes)
    (current : b'.current = b.current) : g.Tracks b' where
  wf := shape.wf h.wf
  current_lt := by rw [current, shape.size_eq]; exact h.current_lt
  chain_eq := by rw [current, shape.chain_eq]; exact h.chain_eq
  closed := by rw [current, shape.chain_eq, shape.size_eq]; exact h.closed

/-- Opening a child of the cursor opens it in the log. -/
theorem Tracks.enter (h : g.Tracks b) (n : String) (k : ScopeKind)
    (shape : (b.scopes.createChild b.current n k).2.SameShape b'.scopes)
    (current : b'.current = b.scopes.size) :
    ({ g with opened := b.scopes.size :: g.opened } : ScopeLog).Tracks b' := by
  have hchain : b'.scopes.chain b'.current = b.scopes.size :: b.scopes.chain b.current := by
    rw [current, shape.chain_eq, h.wf.chain_createChild_self h.current_lt n k]
  have hsize : b'.scopes.size = b.scopes.size + 1 := by
    rw [shape.size_eq, ScopeTree.size_createChild]
  refine ⟨shape.wf (h.wf.createChild h.current_lt n k), ?_, ?_, fun s hs => ?_⟩
  · rw [current, hsize]
    exact Nat.lt_succ_self _
  · rw [hchain, h.chain_eq]
    rfl
  · obtain ⟨hlt, hr, hn⟩ := h.closed s hs
    refine ⟨by rw [hsize]; exact Nat.lt_succ_of_lt hlt, hr, ?_⟩
    rw [hchain, List.mem_cons, not_or]
    exact ⟨Nat.ne_of_lt hlt, hn⟩

/-- Closing the cursor's scope closes it in the log. -/
theorem Tracks.leave (h : g.Tracks b) (nested : b.scopes.hasParent b.current = true)
    (shape : b'.scopes = b.scopes) (current : b'.current = b.scopes.parentOf b.current) :
    ({ opened := g.opened.erase b.current, closed := b.current :: g.closed } : ScopeLog).Tracks
      b' := by
  have hr : b.current ≠ ScopeTree.root := (h.wf.hasParent_iff h.current_lt).mp nested
  obtain ⟨hch, hlt⟩ := h.wf.chain_parentOf h.current_lt hr
  -- the cursor is the innermost open scope; below it the log goes on with its parent's chain
  obtain ⟨rest, hopen, hrest⟩ : ∃ rest, g.opened = b.current :: rest ∧
      b.scopes.chain (b.scopes.parentOf b.current) = rest ++ [ScopeTree.root] := by
    have := h.chain_eq
    rw [hch] at this
    cases hg : g.opened with
    | nil =>
      rw [hg] at this
      exact absurd (List.cons.inj this).1 hr
    | cons x rest =>
      rw [hg, List.cons_append] at this
      obtain ⟨rfl, hrest⟩ := List.cons.inj this
      exact ⟨rest, rfl, hrest⟩
  have hoff : b.current ∉ b.scopes.chain (b.scopes.parentOf b.current) := fun hm =>
    Nat.lt_irrefl _ (Nat.lt_of_le_of_lt (ScopeTree.le_of_mem_chain hm) hlt)
  refine ⟨shape ▸ h.wf, ?_, ?_, fun s hs => ?_⟩
  · rw [current, shape]
    exact Nat.lt_trans hlt h.current_lt
  · rw [current, shape, hrest, hopen, List.erase_cons_head]
  · rw [current, shape]
    rcases List.mem_cons.mp hs with rfl | hs
    · exact ⟨h.current_lt, hr, hoff⟩
    · obtain ⟨hlt', hr', hn⟩ := h.closed s hs
      refine ⟨hlt', hr', fun hm => hn ?_⟩
      rw [hch]
      exact List.mem_cons_of_mem _ hm

/-- Every call keeps the log in agreement with the builder. -/
theorem Tracks.exec (h : g.Tracks b) (c : Call) : (g.record b c).Tracks (b.exec c) := by
  cases Builder.scopeMove_exec b c with
  | keep still shape current _ _ _ =>
    rw [record_of_still still]
    exact h.keep shape current
  | library l call _ shape current _ =>
    subst call
    exact h.keep shape current
  | enter call n k shape current _ =>
    rw [record_of_opens call]
    exact h.enter n k shape current
  | leave call nested shape current _ =>
    subst call
    rw [record_endScope nested]
    exact h.leave nested shape current

end Steps

end ScopeLog

namespace Builder

/-- The log of a sequence of calls from `b`. -/
def logAll (b : Builder) (g : ScopeLog) : List Call → ScopeLog
  | [] => g
  | c :: cs => (b.exec c).logAll (g.record b c) cs

/-- `resolve` reads the cursor's chain, nearest level first. -/
theorem resolve_eq (b : Builder) (n : String) :
    b.resolve n =
      match (b.scopes.chain b.current).findSome? (fun s => (b.scopes.scope s).lookup n) with
      | some d => .ok d
      | none => .error (.scope (.undefinedSymbol n b.currentName)) := by
  cases h : (b.scopes.chain b.current).findSome? (fun s => (b.scopes.scope s).lookup n) <;>
    simp [resolve, ScopeTree.resolveSymbol, h, currentName]

/-- A lookup that resolves a name and then checks what it found: when it succeeds it returns
the declaration `resolve` finds, and it fails as an undefined symbol exactly when `resolve`
does. -/
structure ResolvesThrough (b : Builder) (n : String) {α : Type}
    (look : Except BuildError (Decl × α)) : Prop where
  found : ∀ d x, look = .ok (d, x) → b.resolve n = .ok d
  undefined_iff : (∃ m, look = .error (.scope (.undefinedSymbol n m))) ↔
    ∃ m, b.resolve n = .error (.scope (.undefinedSymbol n m))

/-- Resolving and then checking the declaration found, with a check that keeps the declaration
and fails only for its kind, goes through `resolve`. -/
theorem resolvesThrough_bind (b : Builder) (n : String) {α : Type}
    (check : Decl → Except BuildError (Decl × α))
    (hcheck : ∀ d, (∃ x, check d = .ok (d, x)) ∨
      ∃ expected found, check d = .error (.unexpectedSymbol n expected found)) :
    ResolvesThrough b n (b.resolve n >>= check) := by
  cases h : b.resolve n with
  | error e => exact ⟨fun d x hd => (by cases hd), by simp [h, bind, Except.bind]⟩
  | ok d =>
    have hb : (Except.ok d >>= check) = check d := rfl
    rw [hb]
    rcases hcheck d with ⟨x, hx⟩ | ⟨k, f, hk⟩
    · rw [hx]
      refine ⟨fun d' x' hd => ?_, by simp [h]⟩
      cases hd
      exact h
    · rw [hk]
      exact ⟨fun d' x' hd => (by cases hd), by simp [h]⟩

/-- The four typed lookups go through `resolve`. -/
theorem resolvesThrough_typed (b : Builder) (n : String) :
    ResolvesThrough b n (b.resolveValue n) ∧ ResolvesThrough b n (b.resolveVariable n) ∧
      ResolvesThrough b n (b.resolveFunction n) ∧ ResolvesThrough b n (b.resolveClass n) := by
  refine ⟨resolvesThrough_bind b n _ fun d => ?_, resolvesThrough_bind b n _ fun d => ?_,
    resolvesThrough_bind b n _ fun d => ?_, resolvesThrough_bind b n _ fun d => ?_⟩ <;>
    cases d.symbol <;> simp [pure, Except.pure, throw, throwThe, MonadExceptOf.throw]

end Builder

namespace ScopeLog

variable {g : ScopeLog} {b : Builder}

/-- Along every run, the log keeps agreeing with the builder. -/
theorem Tracks.logAll (h : g.Tracks b) (cs : List Call) :
    (b.logAll g cs).Tracks (b.execAll cs) := by
  induction cs generalizing g b with
  | nil => exact h
  | cons c cs ih => exact ih (h.exec c)

/-- A closed scope stays off the cursor's chain for good, and its table never changes. -/
theorem Tracks.closed_frozen (h : g.Tracks b) {s : ScopeId} (hs : s ∈ g.closed) (cs : List Call) :
    s ∉ (b.execAll cs).scopes.chain (b.execAll cs).current ∧
      ((b.execAll cs).scopes.scope s).table = (b.scopes.scope s).table := by
  induction cs generalizing g b with
  | nil => exact ⟨(h.closed s hs).2.2, rfl⟩
  | cons c cs ih =>
    obtain ⟨hlt, hr, hn⟩ := h.closed s hs
    -- off the chain, the scope is neither current nor global, so the call leaves its table
    have hc : s ≠ b.current := fun he => hn (he ▸ List.mem_cons_self)
    obtain ⟨hoff, htab⟩ := ih (h.exec c) (closed_subset_record hs)
    exact ⟨hoff, htab.trans (Builder.table_exec_of_ne b c hlt hc hr)⟩

/-- What the log tells of lookups: the open scopes, innermost first and then the global scope,
are the cursor's chain; a name resolves to its binding in the first of them that binds it,
and fails as an undefined symbol exactly when none binds it; the typed lookups go through
`resolve`. -/
structure Sees (g : ScopeLog) (b : Builder) : Prop where
  path : b.scopes.chain b.current = g.opened ++ [ScopeTree.root]
  resolve_ok_iff : ∀ n d, b.resolve n = .ok d ↔
    ∃ pre s post, g.opened ++ [ScopeTree.root] = pre ++ s :: post ∧
      (b.scopes.scope s).lookup n = some d ∧ ∀ s' ∈ pre, (b.scopes.scope s').lookup n = none
  resolve_undefined_iff : ∀ n, (∃ m, b.resolve n = .error (.scope (.undefinedSymbol n m))) ↔
    ∀ s ∈ g.opened ++ [ScopeTree.root], (b.scopes.scope s).lookup n = none
  typed : ∀ n, b.ResolvesThrough n (b.resolveValue n) ∧ b.ResolvesThrough n (b.resolveVariable n) ∧
    b.ResolvesThrough n (b.resolveFunction n) ∧ b.ResolvesThrough n (b.resolveClass n)

theorem Tracks.sees (h : g.Tracks b) : g.Sees b where
  path := h.chain_eq
  resolve_ok_iff n d := by
    rw [Builder.resolve_eq, ← h.chain_eq]
    split
    · next d' hd =>
      rw [Except.ok.injEq, ← Option.some_inj, ← hd, List.findSome?_eq_some_iff]
    · next hnone =>
      simp only [reduceCtorEq, false_iff, not_exists, not_and]
      intro pre s post hl hs _
      rw [List.findSome?_eq_none_iff] at hnone
      simp [hnone s (hl ▸ List.mem_append_right _ List.mem_cons_self)] at hs
  resolve_undefined_iff n := by
    rw [Builder.resolve_eq, ← h.chain_eq, ← List.findSome?_eq_none_iff]
    split <;> simp_all
  typed n := Builder.resolvesThrough_typed b n

end ScopeLog

namespace Builder

/-- A call that binds a name in the current scope and returns the declaration it binds. -/
inductive Declares : Call → BuildM Decl → Prop
  | var (n : String) (t : DataType) : Declares (.declareVariable n t) (declareVariable n t)
  | const (n : String) (t : DataType) (v : ConstValue) :
      Declares (.declareConstant n t v) (declareConstant n t v)
  | fn (f : Function) : Declares (.defineFunction f) (defineFunction f)
  | cls (c : ClassDef) : Declares (.defineClass c) (defineClass c)

private theorem bound_binds (b : Builder) (sym : Symbol) (hlt : b.current < b.scopes.size) :
    b.current < (b.bound sym).scopes.size ∧
      ((b.bound sym).scopes.scope b.current).lookup sym.name = some ⟨sym, b.nextSerial⟩ := by
  refine ⟨by simpa [bound] using hlt, ?_⟩
  simp only [bound, ScopeTree.lookup_modifyScope, hlt, and_self, if_true]
  exact Scope.lookup_bind_self _ _

/-- A declaring call that succeeds binds the declaration it returns under its name in the
scope that was current, and leaves the builder its run ends in. -/
theorem Declares.binds {c : Call} {op : BuildM Decl} (hc : Declares c op) {b b' : Builder}
    {d : Decl} (h : op.run b = .ok d b') (hlt : b.current < b.scopes.size) :
    b.exec c = b' ∧ b.current < b'.scopes.size ∧
      (b'.scopes.scope b.current).lookup d.name = some d := by
  have he : b.exec c = b' := by
    cases hc <;> rw [exec_eq, Call.run, stateOf_discard, h] <;> rfl
  refine ⟨he, ?_⟩
  cases hc with
  | var n t =>
    rw [run_declareVariable] at h
    split at h
    · cases h
    · cases h
      exact bound_binds b _ hlt
  | const n t v =>
    rw [run_declareConstant] at h
    split at h
    · cases h
    · cases h
      exact bound_binds b _ hlt
  | fn f =>
    rw [run_defineFunction] at h
    split at h
    · cases h
    · cases h
      exact bound_binds b _ hlt
  | cls c =>
    rw [run_defineClass] at h
    split at h
    · cases h
    · split at h
      · cases h
      · cases h
        exact bound_binds { b with classes := ⟨b.classes.classes.push c⟩ } _ hlt

/-- A successful release of `n` made while `S` is the current scope. -/
def Releases (S : ScopeId) (n : String) (b : Builder) (c : Call) : Prop :=
  b.current = S ∧ c = .releaseVariable n ∧ ∃ b', c.run.run b = .ok () b'

/-- A binding survives every run that does not release it. -/
theorem lookup_execAll_of_bound {S : ScopeId} {n : String} {d : Decl} (cs : List Call)
    (b : Builder) (hcs : AllCalls (fun b c => ¬ Releases S n b c) b cs)
    (hS : S < b.scopes.size) (hd : (b.scopes.scope S).lookup n = some d) :
    S < (b.execAll cs).scopes.size ∧ ((b.execAll cs).scopes.scope S).lookup n = some d :=
  allCalls_induction _ (fun b => S < b.scopes.size ∧ (b.scopes.scope S).lookup n = some d)
    (fun b c hc hb => ⟨Nat.lt_of_lt_of_le hb.1 (size_le_exec b c),
      lookup_exec_of_bound b c hb.1 hb.2 hc⟩) cs b hcs ⟨hS, hd⟩

/-- A name resolves to its binding in a scope of the cursor's chain when no scope of the chain
inside that one binds the name. -/
theorem resolve_of_bound (b : Builder) {S : ScopeId} {n : String} {d : Decl}
    (hS : S ∈ b.scopes.chain b.current) (hd : (b.scopes.scope S).lookup n = some d)
    (hinner : ∀ s ∈ b.scopes.chain b.current, S ∈ b.scopes.ancestors s →
      (b.scopes.scope s).lookup n = none) :
    b.resolve n = .ok d := by
  obtain ⟨pre, post, hsplit⟩ := List.append_of_mem hS
  have hpre : ∀ s ∈ pre, (b.scopes.scope s).lookup n = none := fun s hs =>
    hinner s (hsplit ▸ List.mem_append_left _ hs)
      (ScopeTree.mem_ancestors_of_chain_eq pre b.current hsplit s hs)
  rw [resolve_eq, hsplit, List.findSome?_append, List.findSome?_eq_none_iff.mpr hpre,
    List.findSome?_cons, hd]
  rfl

/-- Lexical visibility along every run of a fresh builder. The log of the scopes opened and
closed agrees with the cursor, and through it names resolve to the innermost open binding
(`ScopeLog.Sees`). A closed scope stays off the cursor's chain and keeps its table for the rest
of the run. And a declaration made in a scope `S` is what its name resolves to at every later
state where `S` is open, unless it was released from `S` or a scope opened inside `S` binds
the name. -/
theorem lexical_visibility (o : BuilderOptions) :
    (∀ cs, ((Builder.new o).logAll {} cs).Sees ((Builder.new o).execAll cs)) ∧
    (∀ cs cs', ∀ s ∈ ((Builder.new o).logAll {} cs).closed,
      let b := (Builder.new o).execAll cs
      let b' := (Builder.new o).execAll (cs ++ cs')
      s ∉ b'.scopes.chain b'.current ∧ (b'.scopes.scope s).table = (b.scopes.scope s).table) ∧
    (∀ cs₁ c op d b₂ cs₂, Declares c op → op.run ((Builder.new o).execAll cs₁) = .ok d b₂ →
      let S := ((Builder.new o).execAll cs₁).current
      let b₃ := b₂.execAll cs₂
      AllCalls (fun b c => ¬ Releases S d.name b c) b₂ cs₂ →
      S ∈ b₃.scopes.chain b₃.current →
      (∀ s ∈ b₃.scopes.chain b₃.current, S ∈ b₃.scopes.ancestors s →
        (b₃.scopes.scope s).lookup d.name = none) →
      b₃.resolve d.name = .ok d) := by
  refine ⟨fun cs => ((ScopeLog.tracks_new o).logAll cs).sees, fun cs cs' s hs => ?_,
    fun cs₁ c op d b₂ cs₂ hc hop hrel hopen hinner => ?_⟩
  · simp only [execAll_append]
    exact ((ScopeLog.tracks_new o).logAll cs).closed_frozen hs cs'
  · obtain ⟨-, hlt, hd⟩ := hc.binds hop ((ScopeLog.tracks_new o).logAll cs₁).current_lt
    obtain ⟨-, hd'⟩ := lookup_execAll_of_bound cs₂ b₂ hrel hlt hd
    exact resolve_of_bound _ hopen hd' hinner

end Builder

end ScopedIr
