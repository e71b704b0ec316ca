import ScopedIr.Proofs.Builder.Shape

/-!
# Stream, tree and cursor in lockstep

A builder updates three structures separately: the instruction stream, the scope tree and the
cursor. They stay in step. Read as brackets, the stream's `SCOPE_BEGIN`s and `SCOPE_END`s never
close more scopes than they opened. The `k`-th `SCOPE_BEGIN` opened the `k`-th scope the tree
created, with its name and kind, below the scope of the innermost `SCOPE_BEGIN` still open
before it (or below the global scope). The `SCOPE_BEGIN`s left open are the scopes from the
global scope down to the cursor. So finishing, which only asks that the cursor be back at the
global scope, succeeds exactly when the stream's brackets balance.

This holds after every sequence of calls, failed ones included, as long as no library that is
registered brings initialization code with scope brackets of its own: that code is appended
as it is.
-/

namespace ScopedIr

namespace Brackets

/-- A `SCOPE_BEGIN` of a stream: the name and kind of the scope it opens, and the position,
among the stream's `SCOPE_BEGIN`s, of the innermost one still open before it. -/
structure Opening where
  name : String
  kind : ScopeKind
  enclosing : Option Nat
  deriving DecidableEq, Repr

/-- The scope brackets of a stream, replayed: its `SCOPE_BEGIN`s in stream order, and the
positions of those not closed yet, innermost first. -/
structure Nesting where
  begins : List Opening := []
  unclosed : List Nat := []
  deriving DecidableEq, Repr

/-- Replays one instruction; a `SCOPE_END` with nothing open closes nothing. -/
def Nesting.step (N : Nesting) (i : Instruction) : Nesting :=
  match i.op with
  | .scopeBegin n k =>
    { begins := N.begins ++ [⟨n, k, N.unclosed.head?⟩], unclosed := N.begins.length :: N.unclosed }
  | .scopeEnd => { N with unclosed := N.unclosed.tail }
  | _ => N

/-- The nesting of a whole stream. -/
def replay (code : List Instruction) : Nesting := code.foldl Nesting.step {}

/-- Number of `SCOPE_BEGIN`s. -/
def opens (code : List Instruction) : Nat := code.countP (·.op.opensScope)

/-- Number of `SCOPE_END`s. -/
def closes (code : List Instruction) : Nat := code.countP (·.op.closesScope)

/-- The brackets of a stream balance: no prefix closes more scopes than it opened, and the
whole stream closes every scope it opens. -/
def Balanced (code : List Instruction) : Prop :=
  (∀ p, p <+: code → closes p ≤ opens p) ∧ closes code = opens code

/-- Scope `s` of `t` is the scope an opening opened: same name and kind, and as parent the
scope the enclosing `SCOPE_BEGIN` opened (the `k`-th opens scope `k + 1`), or the global
scope. -/
def Opening.Describes (o : Opening) (t : ScopeTree) (s : ScopeId) : Prop :=
  (t.scope s).name = o.name ∧ (t.scope s).kind = o.kind ∧
    t.parent? s = some ((o.enclosing.map (· + 1)).getD ScopeTree.root)

theorem replay_concat (code : List Instruction) (i : Instruction) :
    replay (code ++ [i]) = (replay code).step i := by
  simp [replay]

theorem Nesting.step_of_flat {i : Instruction} (h : i.isBracket = false) (N : Nesting) :
    N.step i = N := by
  rcases i with ⟨op, m⟩
  cases op <;> simp_all [step, Instruction.isBracket, Operation.opensScope, Operation.closesScope]

theorem counts_concat_flat (code : List Instruction) {i : Instruction} (h : i.isBracket = false) :
    opens (code ++ [i]) = opens code ∧ closes (code ++ [i]) = closes code := by
  simp only [Instruction.isBracket, Bool.or_eq_false_iff] at h
  simp [opens, closes, h.1, h.2]

/-- A stream grown by one instruction keeps every prefix within bounds when the whole does. -/
private theorem closes_le_concat {code : List Instruction} {i : Instruction}
    (h : ∀ p, p <+: code → closes p ≤ opens p) (hi : closes (code ++ [i]) ≤ opens (code ++ [i])) :
    ∀ p, p <+: code ++ [i] → closes p ≤ opens p := by
  intro p hp
  rcases List.prefix_concat_iff.mp hp with rfl | hp
  · exact hi
  · exact h p hp

theorem Opening.Describes.createChild {o : Opening} {t : ScopeTree} {s : ScopeId}
    (h : o.Describes t s) (hs : s < t.size) (p : ScopeId) (n : String) (k : ScopeKind) :
    o.Describes (t.createChild p n k).2 s := by
  have hne : s ≠ t.size := Nat.ne_of_lt hs
  obtain ⟨hn, hk, hp⟩ := h
  refine ⟨?_, ?_, by rw [ScopeTree.parent?_createChild_of_ne _ _ _ _ hne]; exact hp⟩ <;>
    simp only [ScopeTree.scope_createChild, hne, if_false] <;> split <;> assumption

/-- The invariant tying a tree, a cursor and a stream together. -/
structure Lockstep (t : ScopeTree) (cur : ScopeId) (code : List Instruction) : Prop where
  wf : t.WF
  current_lt : cur < t.size
  /-- No prefix of the stream closes more scopes than it opened. -/
  closes_le : ∀ p, p <+: code → closes p ≤ opens p
  /-- The stream leaves open as many scopes as its replay does. -/
  opens_eq : opens code = closes code + (replay code).unclosed.length
  /-- The `SCOPE_BEGIN`s left open opened the cursor's chain, the global scope excluded. -/
  unclosed_eq : (replay code).unclosed.map (· + 1) = (t.chain cur).dropLast
  /-- Every scope but the global one was opened by one `SCOPE_BEGIN`. -/
  size_eq : (replay code).begins.length + 1 = t.size
  /-- The `k`-th `SCOPE_BEGIN` opened scope `k + 1`. -/
  describes : ∀ (k : Nat) (o : Opening), (replay code).begins[k]? = some o → o.Describes t (k + 1)

theorem lockstep_empty : Lockstep ScopeTree.empty ScopeTree.root [] where
  wf := ScopeTree.WF.empty
  current_lt := by decide
  closes_le p hp := by
    rw [List.prefix_nil.mp hp]
    exact Nat.le_refl _
  opens_eq := rfl
  unclosed_eq := by rw [ScopeTree.WF.empty.chain_root]; rfl
  size_eq := rfl
  describes k o ho := by simp [replay] at ho

section Steps

variable {t : ScopeTree} {cur : ScopeId} {code : List Instruction}

/-- Only the shape of the tree matters. -/
theorem Lockstep.sameShape (h : Lockstep t cur code) {t' : ScopeTree} (hs : t.SameShape t') :
    Lockstep t' cur code where
  wf := hs.wf h.wf
  current_lt := by rw [hs.size_eq]; exact h.current_lt
  closes_le := h.closes_le
  opens_eq := h.opens_eq
  unclosed_eq := by rw [hs.chain_eq]; exact h.unclosed_eq
  size_eq := by rw [hs.size_eq]; exact h.size_eq
  describes k o ho := by
    obtain ⟨hn, hk, hp⟩ := h.describes k o ho
    exact ⟨(hs.name_eq _).trans hn, (hs.kind_eq _).trans hk, (hs.parent_eq _).trans hp⟩

/-- Appending an instruction that is no bracket. -/
theorem Lockstep.push_flat (h : Lockstep t cur code) {i : Instruction} (hi : i.isBracket = false) :
    Lockstep t cur (code ++ [i]) := by
  have hr : replay (code ++ [i]) = replay code := by rw [replay_concat, Nesting.step_of_flat hi]
  obtain ⟨ho, hc⟩ := counts_concat_flat code hi
  exact { wf := h.wf, current_lt := h.current_lt
          closes_le := closes_le_concat h.closes_le
            (by rw [ho, hc]; exact h.closes_le code (List.prefix_refl code))
          opens_eq := by rw [ho, hc, hr]; exact h.opens_eq
          unclosed_eq := by rw [hr]; exact h.unclosed_eq
          size_eq := by rw [hr]; exact h.size_eq
          describes := by rw [hr]; exact h.describes }

theorem Lockstep.append_flat (h : Lockstep t cur code) {extra : List Instruction}
    (hf : ∀ i ∈ extra, i.isBracket = false) : Lockstep t cur (code ++ extra) := by
  induction extra generalizing code with
  | nil => simpa using h
  | cons i extra ih =>
    rw [← List.singleton_append, ← List.append_assoc]
    exact ih (h.push_flat (hf i List.mem_cons_self)) fun j hj => hf j (List.mem_cons_of_mem i hj)

/-- Opening a child of the cursor with its `SCOPE_BEGIN`, and moving into it. -/
theorem Lockstep.enter (h : Lockstep t cur code) (n : String) (k : ScopeKind) {i : Instruction}
    (hi : i.op = .scopeBegin n k) : Lockstep (t.createChild cur n k).2 t.size (code ++ [i]) := by
  have hr : replay (code ++ [i]) =
      ⟨(replay code).begins ++ [⟨n, k, (replay code).unclosed.head?⟩],
        (replay code).begins.length :: (replay code).unclosed⟩ := by
    rw [replay_concat]
    simp [Nesting.step, hi]
  have hco : opens (code ++ [i]) = opens code + 1 ∧ closes (code ++ [i]) = closes code := by
    simp [opens, closes, hi, Operation.opensScope, Operation.closesScope]
  have hsize := h.size_eq
  -- the new scope's parent, the cursor, is the scope of the innermost open `SCOPE_BEGIN`
  have hparent : ((replay code).unclosed.head?.map (· + 1)).getD ScopeTree.root = cur := by
    rw [← List.head?_map, h.unclosed_eq, h.wf.dropLast_chain h.current_lt]
    split <;> simp_all
  refine ⟨h.wf.createChild h.current_lt n k, by simp, ?_, ?_, ?_, ?_, ?_⟩
  · refine closes_le_concat h.closes_le ?_
    rw [hco.1, hco.2]
    exact Nat.le_succ_of_le (h.closes_le code (List.prefix_refl code))
  · rw [hco.1, hco.2, hr, h.opens_eq]
    simp only [List.length_cons]
    omega
  · rw [hr, h.wf.chain_createChild_self h.current_lt,
      List.dropLast_cons_of_ne_nil (ScopeTree.chain_ne_nil t cur), ← h.unclosed_eq, ← hsize]
    simp
  · rw [hr]
    simp only [List.length_append, List.length_singleton, ScopeTree.size_createChild]
    omega
  · intro j o ho
    rw [hr] at ho
    rcases Nat.lt_or_ge j (replay code).begins.length with hj | hj
    · rw [List.getElem?_append_left hj] at ho
      have hj1 : j + 1 < t.size := by omega
      exact (h.describes j o ho).createChild hj1 cur n k
    · rw [List.getElem?_append_right hj, List.getElem?_singleton] at ho
      split at ho
      · cases ho
        have hj' : j + 1 = t.size := by omega
        rw [hj']
        simp [Opening.Describes, ScopeTree.scope_createChild, ScopeTree.parent?, hparent]
      · cases ho

/-- Closing the cursor's scope with its `SCOPE_END`, and moving to its parent. -/
theorem Lockstep.leave (h : Lockstep t cur code) (hp : t.hasParent cur = true) {i : Instruction}
    (hi : i.op = .scopeEnd) : Lockstep t (t.parentOf cur) (code ++ [i]) := by
  have hr : cur ≠ ScopeTree.root := (h.wf.hasParent_iff h.current_lt).mp hp
  obtain ⟨-, hlt⟩ := h.wf.chain_parentOf h.current_lt hr
  -- the cursor's `SCOPE_BEGIN` is the innermost one left open
  obtain ⟨u, rest, hu, hrest⟩ : ∃ u rest, (replay code).unclosed = u :: rest ∧
      rest.map (· + 1) = (t.chain (t.parentOf cur)).dropLast := by
    have := h.unclosed_eq
    rw [h.wf.dropLast_chain h.current_lt, if_neg hr] at this
    cases hN : (replay code).unclosed with
    | nil => simp [hN] at this
    | cons u rest =>
      rw [hN, List.map_cons] at this
      exact ⟨u, rest, rfl, (List.cons.inj this).2⟩
  have hrep : replay (code ++ [i]) = { replay code with unclosed := rest } := by
    rw [replay_concat]
    simp [Nesting.step, hi, hu]
  have hco : opens (code ++ [i]) = opens code ∧ closes (code ++ [i]) = closes code + 1 := by
    simp [opens, closes, hi, Operation.opensScope, Operation.closesScope]
  have ho := h.opens_eq
  rw [hu, List.length_cons] at ho
  exact { wf := h.wf
          current_lt := Nat.lt_trans hlt h.current_lt
          closes_le := closes_le_concat h.closes_le (by rw [hco.1, hco.2]; omega)
          opens_eq := by rw [hco.1, hco.2, hrep, ho]; dsimp only; omega
          unclosed_eq := by rw [hrep]; exact hrest
          size_eq := by rw [hrep]; exact h.size_eq
          describes := by rw [hrep]; exact h.describes }

/-- The `SCOPE_BEGIN`s left open carry, in stream order, the names and kinds of the scopes on
the path from the global scope down to the cursor. -/
theorem Lockstep.unclosed_labels (h : Lockstep t cur code) :
    (replay code).unclosed.reverse.map
        (fun j => ((replay code).begins[j]?).map fun o => (o.name, o.kind)) =
      (t.chain cur).reverse.tail.map fun s => some ((t.scope s).name, (t.scope s).kind) := by
  have hsize := h.size_eq
  have hlab : ∀ j ∈ (replay code).unclosed,
      ((replay code).begins[j]?).map (fun o => (o.name, o.kind)) =
        some ((t.scope (j + 1)).name, (t.scope (j + 1)).kind) := by
    intro j hj
    have hmem : j + 1 ∈ t.chain cur := by
      apply List.dropLast_subset
      rw [← h.unclosed_eq]
      exact List.mem_map_of_mem hj
    have hlt : j < (replay code).begins.length := by
      have : j + 1 < t.size := ScopeTree.lt_size_of_mem_chain h.current_lt hmem
      omega
    obtain ⟨hn, hk, -⟩ := h.describes j _ (List.getElem?_eq_getElem hlt)
    simp [List.getElem?_eq_getElem hlt, hn, hk]
  rw [List.tail_reverse, ← h.unclosed_eq]
  simp only [List.map_reverse, List.map_map]
  congr 1
  exact List.map_congr_left hlab

/-- As many `SCOPE_BEGIN`s are left open as the cursor is deep. -/
theorem Lockstep.unclosed_length (h : Lockstep t cur code) :
    (replay code).unclosed.length = t.depth cur := by
  have := congrArg List.length h.unclosed_eq
  simpa [ScopeTree.chain, ScopeTree.depth] using this

/-- The cursor is back at the global scope exactly when the stream's brackets balance. -/
theorem Lockstep.current_eq_root_iff (h : Lockstep t cur code) :
    cur = ScopeTree.root ↔ Balanced code := by
  have hd := h.unclosed_eq
  rw [h.wf.dropLast_chain h.current_lt] at hd
  have ho := h.opens_eq
  constructor
  · intro hc
    rw [if_pos hc, List.map_eq_nil_iff] at hd
    rw [hd] at ho
    exact ⟨h.closes_le, by simpa using ho.symm⟩
  · rintro ⟨-, hb⟩
    by_cases hc : cur = ScopeTree.root
    · exact hc
    · rw [if_neg hc] at hd
      have hne : (replay code).unclosed ≠ [] := fun hn => by simp [hn] at hd
      have := List.length_pos_iff.mpr hne
      omega

end Steps

end Brackets

namespace Builder

open Brackets

/-- A call that, when it registers a library, registers one whose initialization code opens
and closes no scope. -/
def FlatInit (b : Builder) : Call → Prop
  | .registerLibrary l =>
    (∃ b', (Call.registerLibrary l).run.run b = .ok () b') → ∀ i ∈ l.init, i.isBracket = false
  | _ => True

/-- Every call keeps the stream, the tree and the cursor in lockstep. -/
theorem lockstep_exec {b : Builder} (h : Lockstep b.scopes b.current b.instructions.toList)
    {c : Call} (hc : b.FlatInit c) :
    Lockstep (b.exec c).scopes (b.exec c).current (b.exec c).instructions.toList := by
  cases scopeMove_exec b c with
  | keep _ shape current extra stream flat =>
    rw [current, stream, Array.toList_append]
    exact (h.append_flat fun i hi => flat i (Array.mem_toList_iff.mp hi)).sameShape shape
  | library l call ok shape current stream =>
    subst call
    rw [current, stream, Array.toList_append, List.toList_toArray]
    exact (h.append_flat (hc ⟨_, ok⟩)).sameShape shape
  | enter _ n k shape current stream =>
    rw [current, stream, Array.toList_push]
    exact (h.enter n k rfl).sameShape shape
  | leave _ nested shape current stream =>
    rw [shape, current, stream, Array.toList_push]
    exact h.leave nested rfl

/-- Finishing succeeds exactly when the stream's brackets balance. -/
theorem finish_iff_balanced {b : Builder} (h : Lockstep b.scopes b.current b.instructions.toList) :
    (∃ p, b.finish = .ok p) ↔ Balanced b.instructions.toList := by
  rw [← h.current_eq_root_iff]
  by_cases hc : b.current = ScopeTree.root <;> simp [finish, hc]

/-- The stream, the tree and the cursor of a builder agree: the lockstep invariant holds (no
prefix of the stream closes more scopes than it opened, and the `k`-th `SCOPE_BEGIN` opened the
tree's scope `k + 1`, named and kinded as it says, below the scope of the innermost
`SCOPE_BEGIN` open before it); the `SCOPE_BEGIN`s left open carry, in stream order, the names
and kinds of the scopes from the global scope down to the cursor, as many as the cursor is deep;
and finishing succeeds exactly when the brackets balance. -/
structure ScopesInLockstep (b : Builder) : Prop where
  lockstep : Lockstep b.scopes b.current b.instructions.toList
  unclosed_labels :
    (replay b.instructions.toList).unclosed.reverse.map
        (fun j => ((replay b.instructions.toList).begins[j]?).map fun o => (o.name, o.kind)) =
      (b.scopes.chain b.current).reverse.tail.map
        fun s => some ((b.scopes.scope s).name, (b.scopes.scope s).kind)
  unclosed_length : (replay b.instructions.toList).unclosed.length = b.scopes.depth b.current
  finish_iff : (∃ p, b.finish = .ok p) ↔ Balanced b.instructions.toList

/-- Along every run from a fresh builder, failed calls included, the stream, the tree and the
cursor stay in lockstep, provided that every library registered brings initialization code
without scope brackets. -/
theorem run_keeps_scopes_in_lockstep (o : BuilderOptions) (cs : List Call)
    (h : AllCalls FlatInit (Builder.new o) cs) : ((Builder.new o).execAll cs).ScopesInLockstep := by
  have hl := allCalls_induction FlatInit
    (fun b => Lockstep b.scopes b.current b.instructions.toList)
    (fun _ _ hc hb => lockstep_exec hb hc) cs (Builder.new o) h lockstep_empty
  exact ⟨hl, hl.unclosed_labels, hl.unclosed_length, finish_iff_balanced hl⟩

/-- A run that registers a library, opens a loop with a `BREAK` out of it and leaves a block
open. -/
theorem scopes_in_lockstep_after_loop_and_library :
    AllCalls FlatInit (Builder.new {})
        [.registerLibrary { name := "io" }, .beginScope "loop" .loop, .emitBreak "loop",
          .endScope, .beginScope "tail" .block] ∧
      ((Builder.new {}).execAll
        [.registerLibrary { name := "io" }, .beginScope "loop" .loop, .emitBreak "loop",
          .endScope, .beginScope "tail" .block]).ScopesInLockstep :=
  have h : AllCalls FlatInit (Builder.new {})
      [.registerLibrary { name := "io" }, .beginScope "loop" .loop, .emitBreak "loop",
        .endScope, .beginScope "tail" .block] := by
    simp [FlatInit]
  ⟨h, run_keeps_scopes_in_lockstep {} _ h⟩

end Builder

end ScopedIr
