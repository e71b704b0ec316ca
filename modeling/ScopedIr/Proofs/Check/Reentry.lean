import ScopedIr.Proofs.Builder.Checked
import ScopedIr.Proofs.Check.Order

/-!
# The check re-enters the builder's scopes

The builder gives each `SCOPE_BEGIN` a scope of its own, created below the cursor and last
among its siblings. The check, replaying the finished stream, looks the scope up again: the
first child of its current scope with that name and kind that it has not entered yet. The two
agree because children keep creation order and the check enters scopes in the order the
builder created them: when a `SCOPE_BEGIN` comes, every older sibling has been entered, so its
own scope is the first fresh one of its name and kind, however many siblings share them.

Along any run whose libraries bring no code, the replay of each state's stream against the
finished tree follows that state (`Follows`): one frame for each scope of the cursor's chain,
the scopes created so far entered once each and in creation order, and no scope missed. Each
way a call moves the builder keeps this. Read at the call that appended each instruction, it
says that before each instruction the check's frames are the scopes open in the builder when
the instruction was pushed, and that each `SCOPE_BEGIN` enters the scope the builder opened
with it.
-/

namespace ScopedIr

open ScopeTree (root)
open Brackets (opens)

namespace Replay

/-- The current scope is the scope of the innermost frame. -/
theorem current_of_frames {r : Replay} {c : ScopeId} {rest : List ScopeId}
    (h : r.frames.map (·.scope) = c :: rest) : r.current = c := by
  cases hr : r.frames with
  | nil =>
    rw [hr] at h
    cases h
  | cons f below =>
    rw [hr, List.map_cons] at h
    simp [current, hr, (List.cons.inj h).1]

/-- An instruction that is no bracket keeps the scopes the frames stand for. -/
theorem scopes_visit_of_flat (t : ScopeTree) (r : Replay) (k : Nat) {i : Instruction}
    (hi : i.isBracket = false) : (r.visit t k i).frames.map (·.scope) = r.frames.map (·.scope) := by
  have h := congrArg (List.map Prod.fst) (quiet_visit t r k hi).frames
  rw [List.map_map, List.map_map] at h
  exact h

end Replay

/-- The replay of the stream `code`, against the tree `u`, follows the tree `t` and the cursor
`cur` that a builder holds with that stream. -/
structure Follows (u t : ScopeTree) (cur : ScopeId) (code : List Instruction) : Prop where
  wf : t.WF
  current_lt : cur < t.size
  ext : t.Extends u
  /-- One `SCOPE_BEGIN` for each scope but the global one. -/
  opened : opens code + 1 = t.size
  /-- One frame for each scope of the cursor's chain, innermost first. -/
  frames : (Replay.run u code).frames.map (·.scope) = t.chain cur
  /-- The scopes created so far, each entered once, in creation order. -/
  entered : (Replay.run u code).entered = List.range' 1 (t.size - 1)
  /-- No `SCOPE_BEGIN` missed its scope. -/
  found : ∀ f ∈ (Replay.run u code).findings.toList, f.problem.isUnknownScope = false

namespace Follows

variable {u t : ScopeTree} {cur : ScopeId} {code : List Instruction}

/-- Before the first instruction, the replay follows the tree of the global scope alone. -/
theorem start (hu : ScopeTree.empty.Extends u) : Follows u ScopeTree.empty root [] where
  wf := ScopeTree.WF.empty
  current_lt := Nat.zero_lt_one
  ext := hu
  opened := rfl
  frames := ScopeTree.WF.empty.chain_root.symm
  entered := rfl
  found f hf := by simp [Replay.run, Replay.start] at hf

/-- Only the shape of the tree matters. -/
theorem sameShape (h : Follows u t cur code) {t' : ScopeTree} (hs : t.SameShape t') :
    Follows u t' cur code where
  wf := hs.wf h.wf
  current_lt := hs.size_eq ▸ h.current_lt
  ext := h.ext.of_sameShape hs
  opened := hs.size_eq ▸ h.opened
  frames := by rw [hs.chain_eq]; exact h.frames
  entered := by rw [hs.size_eq]; exact h.entered
  found := h.found

/-- An instruction that is no bracket leaves the frames, the scopes entered and the scopes
found as they were. -/
theorem flat (h : Follows u t cur code) {i : Instruction} (hi : i.isBracket = false) :
    Follows u t cur (code ++ [i]) := by
  have ho : i.op.opensScope = false := by
    simp only [Instruction.isBracket, Bool.or_eq_false_iff] at hi
    exact hi.1
  have hv := Replay.visitsAt_visit u (Replay.run u code) code.length i
  rw [ho] at hv
  obtain ⟨fs, hfs, hk⟩ := hv.findings
  refine ⟨h.wf, h.current_lt, h.ext, ?_, ?_, ?_, ?_⟩
  · rw [(Brackets.counts_concat_flat code hi).1]
    exact h.opened
  · rw [Replay.run_concat, Replay.scopes_visit_of_flat _ _ _ hi]
    exact h.frames
  · rw [Replay.run_concat, hv.entered rfl]
    exact h.entered
  · intro f hf
    rw [Replay.run_concat, hfs] at hf
    rcases List.mem_append.mp hf with hf | hf
    · exact h.found f hf
    · -- a new finding reports a missed scope only for a `SCOPE_BEGIN`
      cases hu : f.problem.isUnknownScope
      · rfl
      · exact absurd ((hk f hf).2 hu) Bool.false_ne_true

theorem flats (h : Follows u t cur code) :
    ∀ {extra : List Instruction}, (∀ i ∈ extra, i.isBracket = false) →
      Follows u t cur (code ++ extra) := by
  intro extra
  induction extra using List.reverseRecOn with
  | nil => simpa using h
  | append_singleton extra i ih =>
    intro hflat
    rw [← List.append_assoc]
    exact (ih fun j hj => hflat j (List.mem_append_left _ hj)).flat
      (hflat i (List.mem_append_right _ List.mem_cons_self))

/-- Opening a child of the cursor's scope, with its `SCOPE_BEGIN`: the replay enters the new
scope, which is the first child of its name and kind it has not entered. -/
theorem enter (h : Follows u t cur code) (hu : u.WF) {t' : ScopeTree} {n : String}
    {k : ScopeKind} (shape : (t.createChild cur n k).2.SameShape t') (ext : t'.Extends u)
    (m : Metadata) : Follows u t' t.size (code ++ [⟨.scopeBegin n k, m⟩]) := by
  have hw₁ := h.wf.createChild h.current_lt n k
  have hsize : t'.size = t.size + 1 := by rw [shape.size_eq, ScopeTree.size_createChild]
  have hpos : 0 < t.size := h.wf.root_lt
  -- the scopes entered are those created, so the new one is the first fresh match
  have hfind : (u.children (Replay.run u code).current).find? (fun c =>
      (u.scope c).name == n && (u.scope c).kind == k &&
        !(Replay.run u code).entered.contains c) = some t.size := by
    rw [Replay.current_of_frames h.frames, h.entered]
    refine h.wf.find_new_child hu h.current_lt (shape.extends.trans ext) (fun c hr hlt => ?_)
      fun hin => ?_
    · exact List.mem_range'_1.mpr ⟨Nat.pos_of_ne_zero hr, Nat.lt_of_lt_of_eq hlt (by omega)⟩
    · have := List.mem_range'_1.mp hin
      omega
  have hrun : Replay.run u (code ++ [⟨.scopeBegin n k, m⟩]) =
      { Replay.run u code with
        entered := (Replay.run u code).entered ++ [t.size]
        params := if k = .function then [] else (Replay.run u code).params
        frames := ⟨t.size, code.length,
          if k = .function then (Replay.run u code).params.eraseDups else []⟩ ::
            (Replay.run u code).frames } := by
    rw [Replay.run_concat]
    exact Replay.enter_of_find u _ _ hfind
  refine ⟨shape.wf hw₁, hsize ▸ Nat.lt_succ_self _, ext, ?_, ?_, ?_, ?_⟩
  · rw [(Brackets.counts_concat_open code rfl).1, hsize, ← h.opened]
  · rw [hrun, List.map_cons, h.frames, shape.chain_eq, h.wf.chain_createChild_self h.current_lt]
  · rw [hrun, h.entered, hsize, Nat.add_sub_cancel]
    obtain ⟨s, hs⟩ := Nat.exists_eq_succ_of_ne_zero (Nat.ne_of_gt hpos)
    rw [hs, Nat.succ_sub_one, List.range'_concat]
    simp [Nat.add_comm]
  · rw [hrun]
    exact h.found

/-- Closing the cursor's scope, which has a parent, with its `SCOPE_END`: the replay pops its
frame. -/
theorem leave (h : Follows u t cur code) (hp : t.hasParent cur = true) (m : Metadata) :
    Follows u t (t.parentOf cur) (code ++ [⟨.scopeEnd, m⟩]) := by
  have hr : cur ≠ root := (h.wf.hasParent_iff h.current_lt).mp hp
  obtain ⟨hc, hlt⟩ := h.wf.chain_parentOf h.current_lt hr
  have hf := h.frames
  rw [hc] at hf
  -- below the cursor's frame stand the frames of the scope it returns to, one at least
  rcases hfr : (Replay.run u code).frames with _ | ⟨top, _ | ⟨g, below⟩⟩
  · rw [hfr] at hf
    cases hf
  · rw [hfr] at hf
    exact absurd (List.cons.inj hf).2.symm (ScopeTree.chain_ne_nil t _)
  · rw [hfr, List.map_cons] at hf
    have hrun : Replay.run u (code ++ [⟨.scopeEnd, m⟩]) =
        { Replay.run u code with frames := g :: below } := by
      rw [Replay.run_concat]
      exact Replay.visit_scopeEnd u _ _ hfr
    refine ⟨h.wf, Nat.lt_trans hlt h.current_lt, h.ext, ?_, ?_, ?_, ?_⟩
    · rw [(Brackets.counts_concat_close code rfl).1]
      exact h.opened
    · rw [hrun]
      exact (List.cons.inj hf).2
    · rw [hrun]
      exact h.entered
    · rw [hrun]
      exact h.found

end Follows

namespace Builder

/-! ### Runs -/

/-- The builder a run from `Builder.new o` reaches after its first `n` calls. -/
def afterCalls (o : BuilderOptions) (cs : List Call) (n : Nat) : Builder :=
  (Builder.new o).execAll (cs.take n)

theorem afterCalls_succ {o : BuilderOptions} {cs : List Call} {n : Nat} (hn : n < cs.length) :
    afterCalls o cs (n + 1) = (afterCalls o cs n).exec cs[n] := by
  rw [afterCalls, afterCalls, List.take_succ_eq_append_getElem hn, execAll_append]
  rfl

theorem afterCalls_of_le {o : BuilderOptions} {cs : List Call} {n : Nat} (h : cs.length ≤ n) :
    afterCalls o cs n = (Builder.new o).execAll cs := by
  rw [afterCalls, List.take_of_length_le h]

theorem extends_afterCalls (o : BuilderOptions) (cs : List Call) (n : Nat) :
    (afterCalls o cs n).scopes.Extends ((Builder.new o).execAll cs).scopes := by
  have h := extends_execAll (afterCalls o cs n) (cs.drop n)
  rwa [afterCalls, ← execAll_append, List.take_append_drop] at h

/-- A condition every call of a run keeps holds at the call that comes after the first `n`. -/
theorem AllCalls.get {P : Builder → Call → Prop} :
    ∀ {b : Builder} {cs : List Call}, AllCalls P b cs → ∀ n (hn : n < cs.length),
      P (b.execAll (cs.take n)) cs[n]
  | _, _ :: _, ⟨hc, _⟩, 0, _ => hc
  | _, _ :: _, ⟨_, hcs⟩, n + 1, hn => AllCalls.get hcs n (Nat.lt_of_succ_lt_succ hn)

/-- A call only appends to the stream. -/
theorem instructions_prefix_exec (b : Builder) (c : Call) :
    b.instructions.toList <+: (b.exec c).instructions.toList := by
  cases scopeMove_exec b c with
  | keep _ _ _ extra stream _ => exact ⟨extra.toList, by rw [stream, Array.toList_append]⟩
  | library l _ _ _ _ stream => exact ⟨l.init, by rw [stream, Array.toList_append]⟩
  | enter _ _ _ _ _ stream => exact ⟨_, by rw [stream, Array.toList_push]⟩
  | leave _ _ _ _ stream => exact ⟨_, by rw [stream, Array.toList_push]⟩

theorem instructions_prefix_execAll (b : Builder) (cs : List Call) :
    b.instructions.toList <+: (b.execAll cs).instructions.toList := by
  induction cs generalizing b with
  | nil => exact List.prefix_refl _
  | cons c cs ih => exact (instructions_prefix_exec b c).trans (ih (b.exec c))

theorem instructions_prefix_afterCalls (o : BuilderOptions) (cs : List Call) (n : Nat) :
    (afterCalls o cs n).instructions.toList <+: ((Builder.new o).execAll cs).instructions.toList := by
  have h := instructions_prefix_execAll (afterCalls o cs n) (cs.drop n)
  rwa [afterCalls, ← execAll_append, List.take_append_drop] at h

/-- Up to the length of a state's stream, the finished stream is that state's. -/
theorem take_execAll_of_le (o : BuilderOptions) (cs : List Call) (n : Nat) {i : Nat}
    (hi : i ≤ (afterCalls o cs n).instructions.size) :
    ((Builder.new o).execAll cs).instructions.toList.take i =
      (afterCalls o cs n).instructions.toList.take i := by
  have h := List.prefix_iff_eq_take.mp (instructions_prefix_afterCalls o cs n)
  rw [h, List.take_take, Nat.min_eq_left (by simpa using hi)]

theorem getElem?_execAll_of_lt (o : BuilderOptions) (cs : List Call) (n : Nat) {j : Nat}
    (hj : j < (afterCalls o cs n).instructions.size) :
    ((Builder.new o).execAll cs).instructions[j]? = (afterCalls o cs n).instructions[j]? := by
  obtain ⟨rest, h⟩ := instructions_prefix_afterCalls o cs n
  rw [← Array.getElem?_toList, ← Array.getElem?_toList, ← h,
    List.getElem?_append_left (by simpa using hj)]

/-- Every instruction of a run's stream was appended by one call: the first after which the
stream reaches past it. -/
theorem exists_call_appending (b : Builder) :
    ∀ (cs : List Call) {j : Nat}, b.instructions.size ≤ j → j < (b.execAll cs).instructions.size →
      ∃ n, n < cs.length ∧ (b.execAll (cs.take n)).instructions.size ≤ j ∧
        j < (b.execAll (cs.take (n + 1))).instructions.size
  | [], _, h₁, h₂ => absurd h₂ (Nat.not_lt.mpr h₁)
  | c :: cs, j, h₁, h₂ => by
    by_cases hc : j < (b.exec c).instructions.size
    · exact ⟨0, by simp, h₁, hc⟩
    · obtain ⟨n, hn, hle, hlt⟩ := exists_call_appending (b.exec c) cs (Nat.le_of_not_lt hc) h₂
      exact ⟨n + 1, by simpa using hn, by simpa using hle, by simpa using hlt⟩

/-! ### Each call keeps the replay following the builder -/

variable {u : ScopeTree}

/-- A call whose library brings no code keeps the replay of the stream following the builder,
against a well-formed tree that extends the tree the call leaves. -/
theorem follows_exec (hu : u.WF) {b : Builder} {c : Call} (hc : BringsNoCode c)
    (ext : (b.exec c).scopes.Extends u) (h : Follows u b.scopes b.current b.instructions.toList) :
    Follows u (b.exec c).scopes (b.exec c).current (b.exec c).instructions.toList := by
  cases scopeMove_exec b c with
  | keep _ shape current extra stream flat =>
    rw [current, stream, Array.toList_append]
    exact (h.flats fun i hi => flat i (Array.mem_toList_iff.mp hi)).sameShape shape
  | library l call _ shape current stream =>
    subst call
    rw [current, stream, show l.init = [] from hc, Array.append_empty]
    exact h.sameShape shape
  | enter _ n k shape current stream =>
    rw [current, stream, Array.toList_push]
    exact h.enter hu shape ext _
  | leave _ nested shape current stream =>
    rw [shape, current, stream, Array.toList_push]
    exact h.leave nested _

/-- Along a run whose libraries bring no code, the replay of every state's stream, against the
finished tree, follows that state. -/
theorem follows_afterCalls (o : BuilderOptions) (cs : List Call)
    (hcode : AllCalls (fun _ c => BringsNoCode c) (Builder.new o) cs)
    (hu : ((Builder.new o).execAll cs).scopes.WF) :
    ∀ n, Follows ((Builder.new o).execAll cs).scopes (afterCalls o cs n).scopes
      (afterCalls o cs n).current (afterCalls o cs n).instructions.toList
  | 0 => Follows.start (extends_afterCalls o cs 0)
  | n + 1 => by
    by_cases hn : n < cs.length
    · have ext := extends_afterCalls o cs (n + 1)
      rw [afterCalls_succ hn] at ext ⊢
      exact follows_exec hu (AllCalls.get hcode n hn) ext (follows_afterCalls o cs hcode hu n)
    · -- past the end of the run the state stays
      have hsame : afterCalls o cs (n + 1) = afterCalls o cs n := by
        rw [afterCalls_of_le (Nat.le_of_not_lt hn),
          afterCalls_of_le (Nat.le_succ_of_le (Nat.le_of_not_lt hn))]
      rw [hsame]
      exact follows_afterCalls o cs hcode hu n

/-- The instructions a call appends, when its library brings no code. Up to each of them the
replay has the frames of the cursor before the call; and one that is a `SCOPE_BEGIN` is the
call's last instruction, which opened a new scope and moved the cursor into it. -/
theorem appended_by_call {b : Builder} {c : Call} (hc : BringsNoCode c)
    (h : Follows u b.scopes b.current b.instructions.toList)
    {j : Nat} (hj₁ : b.instructions.size ≤ j) (hj₂ : j < (b.exec c).instructions.size) :
    (Replay.run u ((b.exec c).instructions.toList.take j)).frames.map (·.scope) =
        b.scopes.chain b.current ∧
      ∀ m kd, (b.exec c).instructions.toList[j]?.map (·.op) = some (.scopeBegin m kd) →
        (b.exec c).current = b.scopes.size ∧ (b.exec c).scopes.size = b.scopes.size + 1 ∧
          j + 1 = (b.exec c).instructions.size := by
  have hlen : b.instructions.toList.length = b.instructions.size := Array.length_toList
  cases scopeMove_exec b c with
  | keep _ _ _ extra stream flat =>
    rw [stream, Array.toList_append, List.take_append, List.take_of_length_le (by omega)]
    have hflat : ∀ i ∈ extra.toList, i.isBracket = false := fun i hi =>
      flat i (Array.mem_toList_iff.mp hi)
    refine ⟨(h.flats fun i hi => hflat i (List.mem_of_mem_take hi)).frames, ?_⟩
    -- what the call appended opens nothing
    intro m kd hop
    rw [List.getElem?_append_right (by omega)] at hop
    obtain ⟨i, hi, hiop⟩ := Option.map_eq_some_iff.mp hop
    have hb := hflat i (List.mem_of_getElem? hi)
    simp [Instruction.isBracket, hiop, Operation.opensScope] at hb
  | library l call _ _ _ stream =>
    subst call
    rw [stream, show l.init = [] from hc, Array.append_empty] at hj₂
    omega
  | enter _ n k shape current stream =>
    rw [stream, Array.size_push] at hj₂
    have hj : j = b.instructions.size := by omega
    subst hj
    refine ⟨?_, fun _ _ _ => ⟨current, ?_, by rw [stream, Array.size_push]⟩⟩
    · rw [stream, Array.toList_push, List.take_left' hlen]
      exact h.frames
    · rw [shape.size_eq, ScopeTree.size_createChild]
  | leave _ _ _ _ stream =>
    rw [stream, Array.size_push] at hj₂
    have hj : j = b.instructions.size := by omega
    subst hj
    refine ⟨?_, fun m kd hop => ?_⟩
    · rw [stream, Array.toList_push, List.take_left' hlen]
      exact h.frames
    · -- the instruction is the call's `SCOPE_END`
      rw [stream, Array.toList_push, List.getElem?_append_right (by omega), hlen,
        Nat.sub_self] at hop
      cases hop

/-! ### Finished programs -/

/-- The check re-enters the scopes that the calls `cs`, run from `Builder.new o`, created for
the program `p` they finished. -/
structure ReentersScopes (o : BuilderOptions) (cs : List Call) (p : Program) : Prop where
  /-- No `SCOPE_BEGIN` misses its scope. -/
  found : ∀ f ∈ p.findings, f.problem.isUnknownScope = false
  /-- Every scope the builder created is entered once, in creation order. -/
  entered : (Replay.run p.scopes p.instructions.toList).entered = List.range' 1 (p.scopes.size - 1)
  /-- Each instruction was appended by one call of the run. Before the instruction the frames
  are the scopes open in the builder before that call; and a `SCOPE_BEGIN` was appended by a
  call that opened a scope and moved the cursor into it, and the check pushes a frame for that
  very scope, the `k`-th created for the `k`-th `SCOPE_BEGIN`. -/
  pushed : ∀ j, j < p.instructions.size → ∃ n, n < cs.length ∧
    (afterCalls o cs n).instructions.size ≤ j ∧ j < (afterCalls o cs (n + 1)).instructions.size ∧
    (Replay.run p.scopes (p.instructions.toList.take j)).frames.map (·.scope) =
      (afterCalls o cs n).scopes.chain (afterCalls o cs n).current ∧
    ∀ m kd, p.instructions[j]?.map (·.op) = some (.scopeBegin m kd) →
      (afterCalls o cs (n + 1)).current = (afterCalls o cs n).scopes.size ∧
      (Replay.run p.scopes (p.instructions.toList.take (j + 1))).frames.head?.map (·.scope) =
        some (afterCalls o cs n).scopes.size ∧
      (afterCalls o cs n).scopes.size = opens (p.instructions.toList.take (j + 1))

/-- Along every run from a fresh builder whose libraries bring no code and which finishes, the
check re-enters exactly the builder's scopes: it never misses one, enters each once in creation
order, and before each instruction its frames are the scopes that were open in the builder when
the instruction was pushed, also where sibling scopes share a name and kind. -/
theorem check_reenters_builder_scopes (o : BuilderOptions) (cs : List Call) {p : Program}
    (hfin : ((Builder.new o).execAll cs).finish = .ok p)
    (hcode : AllCalls (fun _ c => BringsNoCode c) (Builder.new o) cs) : ReentersScopes o cs p := by
  obtain ⟨-, hscopes, hins⟩ := finish_ok hfin
  have hw : p.scopes.WF := hscopes ▸ ((ScopeLog.tracks_new o).logAll cs).wf
  have hF := follows_afterCalls o cs hcode (hscopes ▸ hw)
  rw [← hscopes] at hF
  -- the last state holds the finished stream and tree
  have hend := hF cs.length
  rw [afterCalls_of_le (Nat.le_refl _), ← hscopes, ← hins] at hend
  refine ⟨fun f hf => ?_, hend.entered, fun j hj => ?_⟩
  · rw [Program.findings_eq] at hf
    rcases List.mem_append.mp hf with hf | hf
    · exact hend.found f hf
    · exact Problem.isUnknownScope_of_isUnclosed (Program.isUnclosed_of_mem_unclosedFindings hf)
  · obtain ⟨n, hn, h₁, h₂⟩ := exists_call_appending (Builder.new o) cs (Nat.zero_le j)
      (hins ▸ hj)
    change j < (afterCalls o cs (n + 1)).instructions.size at h₂
    -- the finished stream goes on from the stream after the call
    have htake : ∀ i, i ≤ (afterCalls o cs (n + 1)).instructions.size →
        p.instructions.toList.take i = (afterCalls o cs (n + 1)).instructions.toList.take i := by
      intro i hi
      rw [hins]
      exact take_execAll_of_le o cs (n + 1) hi
    have hget : p.instructions[j]? = (afterCalls o cs (n + 1)).instructions[j]? := by
      rw [hins]
      exact getElem?_execAll_of_lt o cs (n + 1) h₂
    have hb := hF (n + 1)
    rw [afterCalls_succ hn] at h₂ htake hget hb
    obtain ⟨hframes, hbegin⟩ := appended_by_call (AllCalls.get hcode n hn) (hF n) h₁ h₂
    refine ⟨n, hn, h₁, by rw [afterCalls_succ hn]; exact h₂,
      by rw [htake j (Nat.le_of_lt h₂)]; exact hframes, fun m kd hop => ?_⟩
    rw [hget, ← Array.getElem?_toList] at hop
    obtain ⟨hcur, hsize, hlast⟩ := hbegin m kd hop
    -- up to and including the `SCOPE_BEGIN` the stream is the one the call left
    have hall : p.instructions.toList.take (j + 1) =
        ((afterCalls o cs n).exec cs[n]).instructions.toList := by
      rw [htake _ (Nat.le_of_eq hlast), List.take_of_length_le (by simp [hlast])]
    rw [afterCalls_succ hn]
    refine ⟨hcur, ?_, ?_⟩
    · rw [hall, ← List.head?_map, hb.frames, hcur]
      rfl
    · have hopened := hb.opened
      rw [hall]
      omega

/-- Two blocks named alike below the global scope, each holding a loop named alike: a run whose
sibling scopes share names and kinds, which the check tells apart. -/
theorem check_reenters_twin_blocks :
    ∃ p, ((Builder.new {}).execAll [.beginScope "b" .block, .beginScope "l" .loop, .endScope,
        .endScope, .beginScope "b" .block, .beginScope "l" .loop, .endScope, .endScope]).finish =
        .ok p ∧
      AllCalls (fun _ c => BringsNoCode c) (Builder.new {}) [.beginScope "b" .block,
        .beginScope "l" .loop, .endScope, .endScope, .beginScope "b" .block,
        .beginScope "l" .loop, .endScope, .endScope] ∧
      ReentersScopes {} [.beginScope "b" .block, .beginScope "l" .loop, .endScope, .endScope,
        .beginScope "b" .block, .beginScope "l" .loop, .endScope, .endScope] p := by
  have hcode : AllCalls (fun _ c => BringsNoCode c) (Builder.new {}) [.beginScope "b" .block,
      .beginScope "l" .loop, .endScope, .endScope, .beginScope "b" .block,
      .beginScope "l" .loop, .endScope, .endScope] :=
    ⟨trivial, trivial, trivial, trivial, trivial, trivial, trivial, trivial, trivial⟩
  cases hfin : ((Builder.new {}).execAll [.beginScope "b" .block, .beginScope "l" .loop,
      .endScope, .endScope, .beginScope "b" .block, .beginScope "l" .loop, .endScope,
      .endScope]).finish with
  | error e =>
    have hok : ((Builder.new {}).execAll [.beginScope "b" .block, .beginScope "l" .loop,
        .endScope, .endScope, .beginScope "b" .block, .beginScope "l" .loop, .endScope,
        .endScope]).finish.isOk = true := by decide +kernel
    rw [hfin] at hok
    cases hok
  | ok p => exact ⟨p, rfl, hcode, check_reenters_builder_scopes {} _ hfin hcode⟩

end Builder

end ScopedIr
