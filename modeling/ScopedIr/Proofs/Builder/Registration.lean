import ScopedIr.Proofs.Builder.Stream

/-!
# Registering a library loses nothing

Registration checks everything before it writes anything: that no program code has been
pushed, that the names the library declares (functions, constants, classes) differ from each
other and from every global binding, and that every class link names a registered class. The
writes that follow ignore whether each binding took, so nothing is lost only because the checks
cover exactly what could make a write fail: each name is still free when its turn comes, since
the names bound before it in the same registration are other names.

So a registration succeeds exactly when the checks pass, and then every function and constant
of the library is bound globally to itself, every class is appended to the class table as it
is and bound globally to its new index, the initialization code is appended, the library is
recorded, and its natives stay recorded for the rest of the run.
-/

namespace ScopedIr

open ScopeTree (root)

namespace Builder

/-! ### One global binding -/

section Global

variable {b : Builder}

@[simp] theorem size_boundGlobal (s : Symbol) : (b.boundGlobal s).scopes.size = b.scopes.size :=
  (ScopeTree.sameShape_addSymbol _ _ _).size_eq

/-- Binding globally keeps every global binding. -/
theorem lookup_boundGlobal_of_some (s : Symbol) {n : String} {d : Decl}
    (h : (b.scopes.scope root).lookup n = some d) :
    ((b.boundGlobal s).scopes.scope root).lookup n = some d :=
  ScopeTree.lookup_addSymbol_of_some _ _ _ h

/-- Binding a name the global scope does not bind yet binds it there to a fresh declaration. -/
theorem lookup_boundGlobal_self (hr : root < b.scopes.size) {s : Symbol}
    (hf : b.scopes.hasSymbol root s.name = false) :
    ((b.boundGlobal s).scopes.scope root).lookup s.name = some ⟨s, b.nextSerial⟩ := by
  simp only [boundGlobal, ScopeTree.addSymbol, Decl.name, hf, Bool.false_and, Bool.false_eq_true,
    if_false, ScopeTree.lookup_modifyScope, hr, and_self, if_true]
  exact Scope.lookup_bind_self _ ⟨s, b.nextSerial⟩

/-- After binding `s` globally, a name is bound there when it is `s`'s or was bound before. -/
theorem hasSymbol_boundGlobal (hr : root < b.scopes.size) (s : Symbol) (n : String) :
    (b.boundGlobal s).scopes.hasSymbol root n = (n == s.name || b.scopes.hasSymbol root n) := by
  by_cases hn : n = s.name
  · subst hn
    cases hf : b.scopes.hasSymbol root s.name
    · simp [ScopeTree.hasSymbol, lookup_boundGlobal_self hr hf]
    · obtain ⟨d, hd⟩ := Option.isSome_iff_exists.mp (show ((b.scopes.scope root).lookup s.name).isSome from hf)
      simp [ScopeTree.hasSymbol, lookup_boundGlobal_of_some s hd]
  · have hne : (n == s.name) = false := by simp [hn]
    simp only [hne, Bool.false_or, boundGlobal, ScopeTree.addSymbol]
    split
    · rfl
    · simp only [ScopeTree.hasSymbol, ScopeTree.lookup_modifyScope, hr, and_self, if_true]
      rw [Scope.lookup_bind_of_ne _ _ hn]

end Global

/-! ### Folds of global bindings -/

section Folds

variable {α : Type} (g : Builder → α → Builder) (sym : Builder → α → Symbol) (name : α → String)

/-- Each step of `g` binds, globally and without force, a symbol named by `name`. -/
def BindsGlobally : Prop :=
  ∀ b x, (g b x).scopes = (b.boundGlobal (sym b x)).scopes ∧ (sym b x).name = name x

variable {g sym name}

theorem BindsGlobally.size (hg : BindsGlobally g sym name) :
    ∀ (xs : List α) (b : Builder), (xs.foldl g b).scopes.size = b.scopes.size
  | [], _ => rfl
  | x :: xs, b => by
    rw [List.foldl_cons, hg.size xs, (hg b x).1, size_boundGlobal]

theorem BindsGlobally.lookup_of_some (hg : BindsGlobally g sym name) {n : String} {d : Decl} :
    ∀ (xs : List α) (b : Builder), (b.scopes.scope root).lookup n = some d →
      ((xs.foldl g b).scopes.scope root).lookup n = some d
  | [], _, h => h
  | x :: xs, b, h => by
    rw [List.foldl_cons]
    refine hg.lookup_of_some xs _ ?_
    rw [(hg b x).1]
    exact lookup_boundGlobal_of_some _ h

theorem BindsGlobally.hasSymbol (hg : BindsGlobally g sym name) (n : String) :
    ∀ (xs : List α) (b : Builder), root < b.scopes.size →
      (xs.foldl g b).scopes.hasSymbol root n = (xs.any (n == name ·) || b.scopes.hasSymbol root n)
  | [], _, _ => by simp
  | x :: xs, b, hr => by
    have hr' : root < (g b x).scopes.size := by rw [(hg b x).1, size_boundGlobal]; exact hr
    rw [List.foldl_cons, hg.hasSymbol n xs _ hr', (hg b x).1, hasSymbol_boundGlobal hr,
      (hg b x).2, List.any_cons]
    cases n == name x <;> cases xs.any (n == name ·) <;> simp

/-- Binding distinct free names one after the other binds each to the symbol of its own step,
in the state that step found. -/
theorem BindsGlobally.binds (hg : BindsGlobally g sym name) :
    ∀ (xs : List α) (b : Builder), root < b.scopes.size → (xs.map name).Nodup →
      (∀ x ∈ xs, b.scopes.hasSymbol root (name x) = false) →
      ∀ j x, xs[j]? = some x → ∃ b₀, b₀ = (xs.take j).foldl g b ∧
        ((xs.foldl g b).scopes.scope root).lookup (name x) = some ⟨sym b₀ x, b₀.nextSerial⟩
  | [], _, _, _, _, j, x, h => by simp at h
  | y :: xs, b, hr, hd, hf, j, x, h => by
    have hr' : root < (g b y).scopes.size := by rw [(hg b y).1, size_boundGlobal]; exact hr
    obtain ⟨hy, hd⟩ := List.nodup_cons.mp hd
    cases j with
    | zero =>
      -- `y` is bound by the first step and kept by the rest
      simp only [List.getElem?_cons_zero, Option.some.injEq] at h
      subst h
      refine ⟨b, by simp, ?_⟩
      rw [List.foldl_cons]
      refine hg.lookup_of_some xs _ ?_
      rw [(hg b y).1, ← (hg b y).2]
      exact lookup_boundGlobal_self hr (by rw [(hg b y).2]; exact hf y List.mem_cons_self)
    | succ j =>
      -- later names are still free after the first step, which bound another name
      simp only [List.getElem?_cons_succ] at h
      have hf' : ∀ z ∈ xs, (g b y).scopes.hasSymbol root (name z) = false := by
        intro z hz
        rw [(hg b y).1, hasSymbol_boundGlobal hr, (hg b y).2, hf z (List.mem_cons_of_mem _ hz)]
        have : name z ≠ name y := fun he => hy (he ▸ List.mem_map_of_mem hz)
        simp [this]
      obtain ⟨b₀, hb₀, hl⟩ := hg.binds xs (g b y) hr' hd hf' j x h
      exact ⟨b₀, by simpa using hb₀, by simpa using hl⟩

/-- A name none of the steps binds stays free. -/
theorem BindsGlobally.free (hg : BindsGlobally g sym name) {n : String} {xs : List α} {b : Builder}
    (hr : root < b.scopes.size) (hn : n ∉ xs.map name)
    (hf : b.scopes.hasSymbol root n = false) :
    (xs.foldl g b).scopes.hasSymbol root n = false := by
  rw [hg.hasSymbol n xs b hr, hf, Bool.or_false]
  exact List.any_eq_false.mpr fun x hx h => hn (List.mem_map.mpr ⟨x, hx, (beq_iff_eq.mp h).symm⟩)

end Folds

theorem bindsGlobally_function :
    BindsGlobally (fun b f => b.boundGlobal (.function f)) (fun _ f => .function f) Function.name :=
  fun _ _ => ⟨rfl, rfl⟩

theorem bindsGlobally_constant :
    BindsGlobally (fun b (kv : Constant × Value) => b.boundGlobal (.constant kv.1))
      (fun _ kv => .constant kv.1) (·.1.name) :=
  fun _ _ => ⟨rfl, rfl⟩

theorem bindsGlobally_classRegistered :
    BindsGlobally classRegistered (fun b c => .classRef ⟨c.name, b.classes.size⟩) (·.name) :=
  fun _ _ => ⟨rfl, rfl⟩

/-- The classes a fold of class registrations found, before the `j`-th. -/
theorem size_take_foldl_classRegistered (cs : List ClassDef) (b : Builder) (j : Nat)
    (hj : j < cs.length) : ((cs.take j).foldl classRegistered b).classes.size = b.classes.size + j := by
  rw [classes_foldl_classRegistered]
  simp [ClassTable.size, Nat.min_eq_left (Nat.le_of_lt hj)]

/-! ### The checks -/

/-- No name clashes exactly when the names are distinct, none was seen before and none is
bound in the scope. -/
theorem firstClash_eq_none_iff (t : ScopeTree) (s : ScopeId) :
    ∀ (seen names : List String), firstClash t s seen names = none ↔
      names.Nodup ∧ ∀ n ∈ names, n ∉ seen ∧ t.hasSymbol s n = false
  | _, [] => by simp [firstClash]
  | seen, n :: rest => by
    rw [firstClash]
    by_cases hc : (seen.contains n || t.hasSymbol s n) = true
    · -- `n` itself clashes with a name seen before or bound in the scope
      rw [if_pos hc]
      simp only [reduceCtorEq, false_iff]
      rintro ⟨_, hall⟩
      obtain ⟨hn, hb⟩ := hall n List.mem_cons_self
      simp only [Bool.or_eq_true, List.contains_iff_mem, hb, Bool.false_eq_true, or_false] at hc
      exact hn hc
    · rw [if_neg hc, firstClash_eq_none_iff t s (n :: seen) rest, List.nodup_cons,
        List.forall_mem_cons]
      simp only [Bool.or_eq_true, List.contains_iff_mem, not_or, Bool.not_eq_true] at hc
      constructor
      · rintro ⟨hnd, hr⟩
        refine ⟨⟨fun hn => (hr n hn).1 List.mem_cons_self, hnd⟩, hc, fun m hm => ⟨?_, (hr m hm).2⟩⟩
        exact fun hs => (hr m hm).1 (List.mem_cons_of_mem _ hs)
      · rintro ⟨⟨hn, hnd⟩, -, hr⟩
        refine ⟨hnd, fun m hm => ⟨fun hs => ?_, (hr m hm).2⟩⟩
        -- a later name is neither `n`, which occurs once, nor one seen before
        rcases List.mem_cons.mp hs with he | hs
        · exact hn (he ▸ hm)
        · exact (hr m hm).1 hs

/-- Registration succeeds exactly when the builder is not sealed, the declared names are
distinct and free globally, and every class link names a registered class; it then leaves
the builder with the library. -/
theorem registerLibrary_ok_iff (b : Builder) (l : Library) :
    (∃ b', (registerLibrary l).run b = .ok () b') ↔
      b.sealed = false ∧ l.declaredNames.Nodup ∧
        (∀ n ∈ l.declaredNames, b.scopes.hasSymbol root n = false) ∧
        ∀ d ∈ l.classes, ∀ k ∈ d.links, k < b.classes.size := by
  rw [run_registerLibrary]
  constructor
  · rintro ⟨b', h⟩
    -- every failed check throws, so all of them passed
    cases hs : b.sealed
    · cases h₁ : firstClash b.scopes root [] l.declaredNames
      · cases h₂ : b.classes.firstMissing l.classes
        · obtain ⟨hnd, hfree⟩ := (firstClash_eq_none_iff _ _ [] _).mp h₁
          exact ⟨rfl, hnd, fun n hn => (hfree n hn).2, (firstMissing_eq_none_iff _ _).mp h₂⟩
        · simp [hs, h₁, h₂] at h
      · simp [hs, h₁] at h
    · simp [hs] at h
  · rintro ⟨hs, hnd, hfree, hlinks⟩
    have h₁ : firstClash b.scopes root [] l.declaredNames = none :=
      (firstClash_eq_none_iff _ _ [] _).mpr ⟨hnd, fun n hn => ⟨List.not_mem_nil, hfree n hn⟩⟩
    have h₂ := (firstMissing_eq_none_iff b.classes l.classes).mpr hlinks
    exact ⟨b.withLibrary l, by simp [hs, h₁, h₂]⟩

/-- A successful registration leaves the builder with the library. -/
theorem registerLibrary_ok {b b' : Builder} {l : Library} (h : (registerLibrary l).run b = .ok () b') :
    b' = b.withLibrary l := by
  rw [run_registerLibrary] at h
  split at h
  · cases h
  · split at h
    · cases h
    · split at h
      · cases h
      · cases h; rfl

end Builder

/-! ### Natives -/

namespace Library

section Upsert

variable {κ ν : Type} [BEq κ] [LawfulBEq κ]

/-- Updating a key adds it to the keys and keeps the others. -/
theorem mem_keys_upsert (m : List (κ × ν)) (k : κ) (v : ν) (c : κ) :
    c ∈ (Library.upsert m k v).map (·.1) ↔ c = k ∨ c ∈ m.map (·.1) := by
  unfold Library.upsert
  split
  · next h =>
    -- the entry for `k` is replaced in place, so the keys stay as they were
    have hk : k ∈ m.map (·.1) := by
      obtain ⟨e, he, hek⟩ := List.any_eq_true.mp h
      exact List.mem_map.mpr ⟨e, he, beq_iff_eq.mp hek⟩
    have hkeys : (m.map fun e => if e.1 == k then (k, v) else e).map (·.1) = m.map (·.1) := by
      rw [List.map_map]
      refine List.map_congr_left fun e _ => ?_
      by_cases he : e.1 = k <;> simp [he]
    rw [hkeys]
    constructor
    · exact Or.inr
    · rintro (rfl | hc)
      · exact hk
      · exact hc
  · simp [or_comm]

theorem mem_keys_foldl_upsert (c : κ) :
    ∀ (ks m : List (κ × ν)),
      c ∈ (ks.foldl (fun m (k, v) => Library.upsert m k v) m).map (·.1) ↔
        c ∈ m.map (·.1) ∨ c ∈ ks.map (·.1)
  | [], _ => by simp
  | (k, v) :: ks, m => by
    rw [List.foldl_cons, mem_keys_foldl_upsert c ks, mem_keys_upsert]
    simp only [List.map_cons, List.mem_cons]
    constructor
    · rintro ((h | h) | h) <;> simp [h]
    · rintro (h | h | h) <;> simp [h]

end Upsert

end Library

namespace NativeRegistry

theorem hasFunction_iff (r : NativeRegistry) (f : Function) :
    r.hasFunction f = true ↔ f ∈ r.functions :=
  List.contains_iff_mem

theorem constant?_isSome_iff (r : NativeRegistry) (c : Constant) :
    (r.constant? c).isSome ↔ c ∈ r.constants.map (·.1) := by
  simp [constant?]

theorem functions_record (r : NativeRegistry) (l : Library) (f : Function) :
    f ∈ (r.record l).functions ↔ f ∈ r.functions ∨ f ∈ l.functions := by
  -- a function recorded before is kept, and a new one is added
  by_cases hr : f ∈ r.functions
  · simp [record, hr]
  · simp [record, hr]

theorem keys_record (r : NativeRegistry) (l : Library) (c : Constant) :
    c ∈ (r.record l).constants.map (·.1) ↔
      c ∈ r.constants.map (·.1) ∨ c ∈ l.constants.map (·.1) :=
  Library.mem_keys_foldl_upsert c l.constants r.constants

/-- Recording a library keeps every native function and constant recorded before. -/
theorem record_keeps_natives (r : NativeRegistry) (l : Library) :
    r.functions ⊆ (r.record l).functions ∧
      r.constants.map (·.1) ⊆ (r.record l).constants.map (·.1) :=
  ⟨fun f hf => (functions_record r l f).mpr (Or.inl hf),
   fun c hc => (keys_record r l c).mpr (Or.inl hc)⟩

end NativeRegistry

namespace Builder

/-- No call forgets a native function or constant. -/
theorem natives_exec (b : Builder) (c : Call) :
    b.natives.functions ⊆ (b.exec c).natives.functions ∧
      b.natives.constants.map (·.1) ⊆ (b.exec c).natives.constants.map (·.1) := by
  cases outerMove_exec b c with
  | library l _ _ _ _ state =>
    rw [state, withLibrary_natives]
    exact NativeRegistry.record_keeps_natives _ l
  | refused _ _ _ same => rw [same]; exact ⟨List.Subset.refl _, List.Subset.refl _⟩
  | code _ _ _ _ _ natives => rw [natives]; exact ⟨List.Subset.refl _, List.Subset.refl _⟩

theorem natives_execAll (b : Builder) (cs : List Call) :
    b.natives.functions ⊆ (b.execAll cs).natives.functions ∧
      b.natives.constants.map (·.1) ⊆ (b.execAll cs).natives.constants.map (·.1) := by
  induction cs generalizing b with
  | nil => exact ⟨List.Subset.refl _, List.Subset.refl _⟩
  | cons c cs ih =>
    obtain ⟨hf, hk⟩ := natives_exec b c
    obtain ⟨hf', hk'⟩ := ih (b.exec c)
    exact ⟨List.Subset.trans hf hf', List.Subset.trans hk hk'⟩

theorem root_lt_execAll (o : BuilderOptions) (cs : List Call) :
    root < ((Builder.new o).execAll cs).scopes.size :=
  Nat.lt_of_lt_of_le ScopeTree.WF.empty.root_lt (extends_execAll (Builder.new o) cs).size_le

/-! ### What a registration leaves -/

/-- What registering `l` into `b` leaves in `b'`: the library's functions and constants bound
globally to themselves, its classes appended as they are and bound globally to their indices,
its initialization code appended, its name recorded, and its natives recorded for good. -/
structure LibraryRegistered (b : Builder) (l : Library) (b' : Builder) : Prop where
  functions_bound : ∀ f ∈ l.functions,
    ∃ k, (b'.scopes.scope root).lookup f.name = some ⟨.function f, k⟩
  constants_bound : ∀ kv ∈ l.constants,
    ∃ k, (b'.scopes.scope root).lookup kv.1.name = some ⟨.constant kv.1, k⟩
  classes_appended : b'.classes.classes = b.classes.classes ++ l.classes.toArray
  classes_bound : ∀ j d, l.classes[j]? = some d →
    ∃ k, (b'.scopes.scope root).lookup d.name = some ⟨.classRef ⟨d.name, b.classes.size + j⟩, k⟩
  init_appended : b'.instructions = b.instructions ++ l.init.toArray
  library_recorded : b'.natives.libraries = b.natives.libraries ++ [l.name]
  /-- The natives stay recorded whatever calls follow. -/
  natives_kept : ∀ cs, (∀ f ∈ l.functions, (b'.execAll cs).natives.hasFunction f = true) ∧
    ∀ kv ∈ l.constants, ((b'.execAll cs).natives.constant? kv.1).isSome

section Registered

variable {b : Builder} {l : Library}

/-- The builder after the library's functions are bound. -/
private abbrev withFunctions (b : Builder) (l : Library) : Builder :=
  l.functions.foldl (fun b f => b.boundGlobal (.function f)) b

/-- The builder after the library's functions and constants are bound. -/
private abbrev withConstants (b : Builder) (l : Library) : Builder :=
  l.constants.foldl (fun b (kv : Constant × Value) => b.boundGlobal (.constant kv.1))
    (withFunctions b l)

theorem withLibrary_scopes :
    (b.withLibrary l).scopes = (l.classes.foldl classRegistered (withConstants b l)).scopes := rfl

private theorem root_lt_withFunctions (hr : root < b.scopes.size) :
    root < (withFunctions b l).scopes.size := by
  rw [bindsGlobally_function.size]; exact hr

private theorem root_lt_withConstants (hr : root < b.scopes.size) :
    root < (withConstants b l).scopes.size := by
  rw [bindsGlobally_constant.size]; exact root_lt_withFunctions hr

variable (hr : root < b.scopes.size) (hnd : l.declaredNames.Nodup)
  (hfree : ∀ n ∈ l.declaredNames, b.scopes.hasSymbol root n = false)
include hr hnd hfree

/-- Each function is bound to itself, and kept by the constants and classes bound after it. -/
private theorem withLibrary_binds_functions (f : Function) (hf : f ∈ l.functions) :
    ∃ k, ((b.withLibrary l).scopes.scope root).lookup f.name = some ⟨.function f, k⟩ := by
  obtain ⟨hFK, -, -⟩ := List.nodup_append.mp hnd
  obtain ⟨hF, -, -⟩ := List.nodup_append.mp hFK
  obtain ⟨j, hj⟩ := List.mem_iff_getElem?.mp hf
  have hfree' : ∀ g ∈ l.functions, b.scopes.hasSymbol root g.name = false := fun g hg =>
    hfree _ (List.mem_append_left _ (List.mem_append_left _ (List.mem_map_of_mem hg)))
  obtain ⟨b₀, -, hl⟩ := bindsGlobally_function.binds l.functions b hr hF hfree' j f hj
  refine ⟨b₀.nextSerial, ?_⟩
  rw [withLibrary_scopes]
  exact bindsGlobally_classRegistered.lookup_of_some _ _
    (bindsGlobally_constant.lookup_of_some _ _ hl)

/-- Each constant is bound to itself in the state the functions left, where its name is still
free, and kept by the classes bound after it. -/
private theorem withLibrary_binds_constants (kv : Constant × Value) (hk : kv ∈ l.constants) :
    ∃ k, ((b.withLibrary l).scopes.scope root).lookup kv.1.name = some ⟨.constant kv.1, k⟩ := by
  obtain ⟨hFK, -, -⟩ := List.nodup_append.mp hnd
  obtain ⟨-, hK, hFK'⟩ := List.nodup_append.mp hFK
  obtain ⟨j, hj⟩ := List.mem_iff_getElem?.mp hk
  have hfree' : ∀ c ∈ l.constants, (withFunctions b l).scopes.hasSymbol root c.1.name = false := by
    intro c hc
    have hcK : c.1.name ∈ l.constants.map (·.1.name) := List.mem_map_of_mem hc
    refine bindsGlobally_function.free hr (fun hcF => hFK' _ hcF _ hcK rfl) ?_
    exact hfree _ (List.mem_append_left _ (List.mem_append_right _ hcK))
  obtain ⟨b₀, -, hl⟩ :=
    bindsGlobally_constant.binds l.constants _ (root_lt_withFunctions hr) hK hfree' j kv hj
  refine ⟨b₀.nextSerial, ?_⟩
  rw [withLibrary_scopes]
  exact bindsGlobally_classRegistered.lookup_of_some _ _ hl

/-- The `j`-th class is bound to the `j`-th index after the table's, in the state the
functions and constants left, where its name is still free. -/
private theorem withLibrary_binds_classes (j : Nat) (d : ClassDef) (hd : l.classes[j]? = some d) :
    ∃ k, ((b.withLibrary l).scopes.scope root).lookup d.name =
      some ⟨.classRef ⟨d.name, b.classes.size + j⟩, k⟩ := by
  obtain ⟨hFK, hC, hFKC⟩ := List.nodup_append.mp hnd
  have hfree' : ∀ c ∈ l.classes, (withConstants b l).scopes.hasSymbol root c.name = false := by
    intro c hc
    have hcC : c.name ∈ l.classes.map (·.name) := List.mem_map_of_mem hc
    refine bindsGlobally_constant.free (root_lt_withFunctions hr)
      (fun hcK => hFKC _ (List.mem_append_right _ hcK) _ hcC rfl) ?_
    refine bindsGlobally_function.free hr
      (fun hcF => hFKC _ (List.mem_append_left _ hcF) _ hcC rfl) ?_
    exact hfree _ (List.mem_append_right _ hcC)
  obtain ⟨b₀, rfl, hl⟩ :=
    bindsGlobally_classRegistered.binds l.classes _ (root_lt_withConstants hr) hC hfree' j d hd
  -- the classes registered before the `j`-th are the table's and `j` of the library's
  have hsize : ((l.classes.take j).foldl classRegistered (withConstants b l)).classes.size =
      b.classes.size + j := by
    rw [size_take_foldl_classRegistered _ _ _ (List.getElem?_eq_some_iff.mp hd).1,
      classes_foldl_boundGlobal, classes_foldl_boundGlobal]
  refine ⟨((l.classes.take j).foldl classRegistered (withConstants b l)).nextSerial, ?_⟩
  rw [withLibrary_scopes, hl, hsize]

/-- Registering a library whose names are distinct and free globally loses nothing. -/
theorem withLibrary_registered : LibraryRegistered b l (b.withLibrary l) where
  functions_bound := withLibrary_binds_functions hr hnd hfree
  constants_bound := withLibrary_binds_constants hr hnd hfree
  classes_appended := by rw [withLibrary_classes]
  classes_bound := withLibrary_binds_classes hr hnd hfree
  init_appended := withLibrary_instructions b l
  library_recorded := by rw [withLibrary_natives]; rfl
  natives_kept cs := by
    obtain ⟨hf, hk⟩ := natives_execAll (b.withLibrary l) cs
    refine ⟨fun f hfl => ?_, fun kv hkv => ?_⟩
    · refine (NativeRegistry.hasFunction_iff _ f).mpr (hf ?_)
      rw [withLibrary_natives, NativeRegistry.functions_record]
      exact Or.inr hfl
    · refine (NativeRegistry.constant?_isSome_iff _ kv.1).mpr (hk ?_)
      rw [withLibrary_natives, NativeRegistry.keys_record]
      exact Or.inr (List.mem_map_of_mem hkv)

end Registered

/-- Registering a library into any state a run reaches succeeds exactly when no program code
has been pushed, the library's function, constant and class names are distinct and none is
bound globally, and every class link names a class already registered. A registration that
succeeds binds every function and constant of the library globally to itself, appends its
classes with their links as they are and binds each globally to its new index, appends its
initialization code, records its name, and records its natives for the rest of the run. -/
theorem registerLibrary_loses_nothing (o : BuilderOptions) (cs : List Call) (l : Library) :
    ((∃ b', (registerLibrary l).run ((Builder.new o).execAll cs) = .ok () b') ↔
        programCode (Builder.new o) cs = [] ∧ l.declaredNames.Nodup ∧
        (∀ n ∈ l.declaredNames, ((Builder.new o).execAll cs).scopes.hasSymbol root n = false) ∧
        ∀ d ∈ l.classes, ∀ k ∈ d.links, k < ((Builder.new o).execAll cs).classes.size) ∧
      ∀ b', (registerLibrary l).run ((Builder.new o).execAll cs) = .ok () b' →
        LibraryRegistered ((Builder.new o).execAll cs) l b' := by
  have hsealed : ((Builder.new o).execAll cs).sealed = false ↔
      programCode (Builder.new o) cs = [] := by
    rw [← Bool.not_eq_true, (layout_execAll o cs).2, Classical.not_not]
  refine ⟨(registerLibrary_ok_iff _ l).trans (by rw [hsealed]), fun b' h => ?_⟩
  obtain ⟨-, hnd, hfree, -⟩ := (registerLibrary_ok_iff _ l).mp ⟨b', h⟩
  rw [registerLibrary_ok h]
  exact withLibrary_registered (root_lt_execAll o cs) hnd hfree

end Builder

end ScopedIr
