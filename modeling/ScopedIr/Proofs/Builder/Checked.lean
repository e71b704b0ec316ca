import ScopedIr.Proofs.Builder.Visibility
import ScopedIr.Proofs.Check.Agree

/-!
# Built programs pass the check

The builder validates each call against the scope tree as it stands at that call; the check
replays the finished stream against the finished tree. Along a run the two agree (`Agrees`):
the replay of the stream built so far, against the finished tree, raised no finding and keeps
a frame for each open scope, declaring the variables it binds. Each call keeps the agreement,
provided the front end keeps to four conditions at that call (`Disciplined`): a library brings
no initialization code, the variables an emitted instruction uses resolve to variables, a
function body's parameters were announced by the `FUNCTION` before it, and a `BREAK` or
`CONTINUE` target resolves in the finished tree to the scope it resolved to when emitted. At
a successful `finish` only the global frame is left, so the program has no finding.

The last two conditions are needed. The check gives a function scope the parameters of the
last `FUNCTION` instruction, so the body of a function never defined, or not defined last,
starts without its own; and it resolves targets in the finished tree, where a scope opened
later, inside the loop, can take a `BREAK`'s target name.
-/

namespace ScopedIr

namespace Builder

/-! ### What a front end keeps to -/

/-- A library a call registers brings no initialization code. -/
def BringsNoCode : Call → Prop
  | .registerLibrary l => l.init = []
  | _ => True

/-- Every variable an instruction handed to `emit` or `emitCondJump` uses resolves, now, to a
variable. -/
def UsesResolved (b : Builder) : Call → Prop
  | .emit i => ∀ n ∈ i.usedVariables, ∃ dv, b.resolveVariable n = .ok dv
  | .emitCondJump cond _ _ => ∃ dv, b.resolveVariable cond.name = .ok dv
  | _ => True

/-- A function body opens with each of its parameters among those the stream announced last
(`announcedParams`): those of its last `FUNCTION`, with no function scope opened since. -/
def ParamsAnnounced (b : Builder) : Call → Prop
  | .beginFunctionBody f => ∀ p ∈ f.params, p.name ∈ announcedParams b.instructions.toList
  | _ => True

/-- A `BREAK` or `CONTINUE` target resolves, in the finished tree `u`, to the scope it resolves
to now. -/
def TargetKept (u : ScopeTree) (b : Builder) : Call → Prop
  | .emitBreak tgt | .emitContinue tgt =>
    ∀ s, b.scopes.resolveScope b.current tgt = .ok s → u.resolveScope b.current tgt = .ok s
  | _ => True

/-- The four conditions at a call, for a run whose finished tree is `u`. -/
structure Disciplined (u : ScopeTree) (b : Builder) (c : Call) : Prop where
  no_code : BringsNoCode c
  uses : UsesResolved b c
  params : ParamsAnnounced b c
  targets : TargetKept u b c

/-! ### Reading a call's effect on the replay -/

/-- A name that resolves to a variable is bound, as a variable, on the cursor's chain. -/
theorem resolveVariable_ok {b : Builder} {n : String} {dv : Decl × Variable}
    (h : b.resolveVariable n = .ok dv) :
    (b.scopes.chain b.current).findSome? (fun s => (b.scopes.scope s).lookup n) = some dv.1 ∧
      dv.1.symbol.kind = .variable := by
  have hr := (resolvesThrough_typed b n).2.1.found dv.1 dv.2 h
  refine ⟨?_, ?_⟩
  · rw [resolve_eq] at hr
    split at hr
    · next d hd =>
      cases hr
      exact hd
    · cases hr
  · unfold resolveVariable at h
    rw [hr] at h
    cases hs : dv.1.symbol <;>
      simp [hs, Symbol.kind, bind, Except.bind, throw, throwThe, MonadExceptOf.throw] at h ⊢

/-- Appending an instruction takes the replay one instruction further. -/
theorem run_appended (u : ScopeTree) (b : Builder) (i : Instruction) :
    Replay.run u (b.appended i).instructions.toList =
      (Replay.run u b.instructions.toList).visit u b.instructions.size (i.withMeta b.metadata) := by
  rw [appended_instructions, Array.toList_push, Replay.run_concat, Array.length_toList]

/-- An instruction that `emit` accepts is only checked for its variables. -/
theorem visit_of_not_structural (u : ScopeTree) (r : Replay) (k : Nat) {i : Instruction}
    (h : i.op.isStructural = false) : r.visit u k i = r.checkVariables k i := by
  rcases i with ⟨op, m⟩
  cases op <;> simp [Operation.isStructural] at h <;> rfl

/-- Binding a symbol that is no variable binds no new variable. -/
theorem bound_variables (b : Builder) {sym : Symbol} (hsym : sym.kind ≠ .variable) (s : ScopeId)
    (n : String) (d : Decl) (hl : ((b.bound sym).scopes.scope s).lookup n = some d)
    (hv : d.symbol.kind = .variable) : (b.scopes.scope s).lookup n = some d := by
  rcases ScopeTree.lookup_modifyScope_bind hl with ⟨-, rfl⟩ | hl
  · exact absurd hv hsym
  · exact hl

end Builder

/-! ### One call at a time -/

namespace Agrees

variable {u : ScopeTree} {b : Builder}

/-- Appending a jump whose targets resolve and whose variables are declared, or any instruction
that `emit` accepts whose variables are declared, keeps the agreement. -/
theorem appended_quiet {r : Replay} (h : Agrees u b.scopes b.current r) {i : Instruction}
    (hq : r.visit u b.instructions.size (i.withMeta b.metadata) = r) :
    Agrees u (b.appended i).scopes (b.appended i).current
      ((r.visit u b.instructions.size (i.withMeta b.metadata))) := by
  rw [hq]
  exact h

/-- The variables of an instruction handed to `emit` are declared in the replay. -/
theorem usesDeclared {r : Replay} (h : Agrees u b.scopes b.current r) {ns : List String}
    (hns : ∀ n ∈ ns, ∃ dv, b.resolveVariable n = .ok dv) : ∀ n ∈ ns, r.isDeclared n = true := by
  intro n hn
  obtain ⟨dv, hdv⟩ := hns n hn
  obtain ⟨hd, hv⟩ := Builder.resolveVariable_ok hdv
  exact h.isDeclared hd hv

end Agrees

namespace Builder

/-- Each call keeps the agreement between the builder and the replay of its stream, against a
well-formed tree that extends the tree the call leaves, when the call keeps to the discipline. -/
theorem agrees_exec {u : ScopeTree} (hu : u.WF) {b : Builder} {c : Call} (hc : Disciplined u b c)
    (ext : (b.exec c).scopes.Extends u)
    (h : Agrees u b.scopes b.current (Replay.run u b.instructions.toList)) :
    Agrees u (b.exec c).scopes (b.exec c).current
      (Replay.run u (b.exec c).instructions.toList) := by
  cases c with
  | setPosition line column => exact h
  | beginScope n k =>
    rw [exec_beginScope] at ext ⊢
    rw [run_appended]
    refine h.enter hu _ _ (ScopeTree.SameShape.refl _) ext
      (fun s hs => ScopeTree.table_createChild_of_lt _ _ _ _ hs) fun x d hl _ => ?_
    -- the new scope binds nothing yet
    rw [appended_scopes, entered_scopes, ScopeTree.lookup_createChild_self] at hl
    cases hl
  | endScope =>
    rw [exec_endScope]
    by_cases hp : b.scopes.hasParent b.current
    · rw [if_pos hp, left_instructions, run_appended]
      exact h.leave hp _ _
    · rw [if_neg hp]
      exact h
  | declareVariable n ty =>
    rw [exec_declareVariable]
    by_cases hs : b.scopes.hasSymbol b.current n
    · rw [if_pos hs]
      exact h
    · rw [if_neg hs, run_appended]
      exact h.declare ⟨.variable ⟨n, ty⟩, b.nextSerial⟩ rfl _ _
  | declareConstant n ty v =>
    rw [exec_declareConstant]
    by_cases hs : b.scopes.hasSymbol b.current n
    · rw [if_pos hs]
      exact h
    · rw [if_neg hs, run_appended]
      exact h.declare ⟨.constant ⟨n, ty, v⟩, b.nextSerial⟩ rfl _ _
  | releaseVariable n =>
    rw [exec_releaseVariable]
    rcases hl : (b.scopes.scope b.current).lookup n with _ | d
    · exact h
    · dsimp only
      by_cases hk : d.symbol.kind = .variable
      · rw [if_pos hk, run_appended]
        exact h.release hl hk _ _
      · rw [if_neg hk]
        exact h
  | defineFunction f =>
    rw [exec_defineFunction]
    by_cases hs : b.scopes.hasSymbol b.current f.name
    · rw [if_pos hs]
      exact h
    · rw [if_neg hs, run_appended]
      simp only [Instruction.withMeta]
      rw [Replay.visit_function]
      exact (h.of_variables (sameShape_bound b _)
        (bound_variables b (by simp [Symbol.kind]))).with_params _
  | beginFunctionBody f =>
    rw [exec_beginFunctionBody] at ext ⊢
    obtain ⟨hcur, hins⟩ := stateOf_bindParams
      ((b.entered f.name .function).appended ⟨.scopeBegin f.name .function, {}⟩) f.params
    rw [hcur, hins, run_appended]
    refine h.enter hu _ _ (sameShape_bindParams ((b.entered f.name .function).appended
      ⟨.scopeBegin f.name .function, {}⟩) f.params) ext (fun s hs => ?_) fun x d hl _ => ?_
    · rw [table_bindParams _ _ (Nat.ne_of_lt hs)]
      exact ScopeTree.table_createChild_of_lt _ _ _ _ hs
    · -- a variable of the new scope is a parameter, announced before the body opened
      rcases lookup_bindParams _ f.params hl with hl | ⟨p, hp, rfl⟩
      · rw [appended_scopes, entered_scopes, ScopeTree.lookup_createChild_self] at hl
        cases hl
      · rw [Replay.params_run]
        exact ⟨rfl, hc.params p hp⟩
  | defineClass c =>
    rw [exec_defineClass]
    by_cases hs : b.scopes.hasSymbol b.current c.name
    · rw [if_pos hs]
      exact h
    · rw [if_neg hs]
      split
      · exact h
      · rw [run_appended]
        simp only [Instruction.withMeta]
        rw [Replay.visit_classDef]
        exact h.of_variables (sameShape_bound _ _) (bound_variables _ (by simp [Symbol.kind]))
  | setClassParent c p =>
    rw [exec_setClassParent]
    split <;> exact h
  | emit i =>
    rw [exec_emit]
    by_cases hs : i.op.isStructural
    · rw [if_pos hs]
      exact h
    · rw [if_neg hs, run_appended]
      apply h.appended_quiet
      rw [visit_of_not_structural _ _ _
        (show (i.withMeta b.metadata).op.isStructural = false from Bool.eq_false_iff.mpr hs)]
      exact Replay.checkVariables_of_declared _ _ (h.usesDeclared hc.uses)
  | emitJump tgt =>
    rw [exec_emitJump]
    rcases hr : b.scopes.resolveScope b.current tgt with e | s
    · exact h
    · rw [run_appended]
      apply h.appended_quiet
      refine Replay.visit_jump _ _ _ (Or.inl ⟨tgt, rfl⟩) (fun x hx => ?_) (fun n hn => ?_)
      · obtain rfl : x = tgt := by
          simpa [Instruction.targets, Operation.targets, Operation.operands, Operand.target?]
            using hx
        exact h.resolves hu hr
      · simp [Instruction.usedVariables, Operation.usedVariables, Operation.operands,
          Operand.variableName?] at hn
  | emitCondJump cond tt ff =>
    rw [exec_emitCondJump]
    split
    · next hok =>
      rw [run_appended]
      apply h.appended_quiet
      refine Replay.visit_jump _ _ _ (Or.inr ⟨cond, tt, ff, rfl⟩) (fun x hx => ?_) ?_
      · -- both targets were checked to resolve
        have hres : ∃ s, b.scopes.resolveScope b.current x = .ok s := by
          simp [Instruction.withMeta, Instruction.targets, Operation.targets,
            Operation.operands, Operand.target?] at hx
          have hx' : (b.scopes.resolveScope b.current x).isOk = true := by
            rcases hx with rfl | rfl
            · exact hok.1
            · exact hok.2.1 x rfl
          cases hr : b.scopes.resolveScope b.current x with
          | error e =>
            rw [hr] at hx'
            cases hx'
          | ok s => exact ⟨s, rfl⟩
        obtain ⟨s, hs⟩ := hres
        exact h.resolves hu hs
      · refine h.usesDeclared fun n hn => ?_
        have hn : n = cond.name := by
          simpa [Instruction.usedVariables, Operation.usedVariables, Operation.operands,
            Operand.variableName?] using hn
        exact hn ▸ hc.uses
    · exact h
  | emitBreak tgt =>
    rw [exec_emitBreak]
    rcases hr : b.scopes.resolveScope b.current tgt with e | s
    · exact h
    · dsimp only
      by_cases hk : (b.scopes.scope s).kind = .loop
      · rw [if_pos hk, run_appended]
        exact h.appended_quiet (h.loopExit hr hk (hc.targets s hr) _ _).1
      · rw [if_neg hk]
        exact h
  | emitContinue tgt =>
    rw [exec_emitContinue]
    rcases hr : b.scopes.resolveScope b.current tgt with e | s
    · exact h
    · dsimp only
      by_cases hk : (b.scopes.scope s).kind = .loop
      · rw [if_pos hk, run_appended]
        exact h.appended_quiet (h.loopExit hr hk (hc.targets s hr) _ _).2
      · rw [if_neg hk]
        exact h
  | checkpoint =>
    rw [exec_checkpoint]
    by_cases hd : b.options.debug
    · rw [if_pos hd, run_appended]
      apply h.appended_quiet
      rw [visit_of_not_structural _ _ _ rfl]
      exact Replay.checkVariables_of_declared _ _ fun _ hn => absurd hn List.not_mem_nil
    · rw [if_neg hd]
      exact h
  | registerLibrary l =>
    rw [exec_registerLibrary]
    split
    · obtain ⟨shape, hcur, hins⟩ := withLibrary_keeps b l
      rw [hcur, hins, show l.init = [] from hc.no_code]
      exact h.of_variables shape fun s n d hl hv => withLibrary_variables b l hl hv
    · exact h

/-- Along a run that keeps to the discipline, the replay of the stream agrees with the builder
at every state, against a well-formed tree that extends the tree the run ends with. -/
theorem agrees_execAll {u : ScopeTree} (hu : u.WF) : ∀ (cs : List Call) (b : Builder),
    AllCalls (Disciplined u) b cs → (b.execAll cs).scopes.Extends u →
    Agrees u b.scopes b.current (Replay.run u b.instructions.toList) →
    Agrees u (b.execAll cs).scopes (b.execAll cs).current
      (Replay.run u (b.execAll cs).instructions.toList)
  | [], _, _, _, h => h
  | c :: cs, b, ⟨hc, hcs⟩, ext, h =>
    agrees_execAll hu cs (b.exec c) hcs ext
      (agrees_exec hu hc ((extends_execAll (b.exec c) cs).trans ext) h)

/-- A successful `finish` hands over the builder's stream and tree, from the global scope. -/
theorem finish_ok {b : Builder} {p : Program} (h : b.finish = .ok p) :
    b.current = ScopeTree.root ∧ p.scopes = b.scopes ∧ p.instructions = b.instructions := by
  unfold finish at h
  split at h
  · cases h
  · next hroot =>
    cases h
    exact ⟨by simpa using hroot, rfl, rfl⟩

/-- A program a fresh builder finishes passes the check when every call of the run kept to the
discipline: no library brought initialization code, the variables of every instruction handed
to `emit` or `emitCondJump` resolved to variables, every function body opened with its
parameters announced, and every `BREAK` and `CONTINUE` target resolves in the finished tree to
the scope it resolved to when emitted. -/
theorem finished_program_passes_check (o : BuilderOptions) (cs : List Call) {p : Program}
    (hfin : ((Builder.new o).execAll cs).finish = .ok p)
    (hcalls : AllCalls (Disciplined p.scopes) (Builder.new o) cs) : p.findings = [] := by
  obtain ⟨hcur, hscopes, hins⟩ := finish_ok hfin
  have hw : p.scopes.WF := hscopes ▸ ((ScopeLog.tracks_new o).logAll cs).wf
  have h := agrees_execAll hw cs (Builder.new o) hcalls (hscopes ▸ ScopeTree.Extends.refl _)
    (Agrees.start (hscopes ▸ extends_execAll (Builder.new o) cs))
  rw [← hscopes, ← hins] at h
  refine Replay.findings_eq_nil h.clean ?_
  -- only the global frame is left
  rw [← List.length_map (·.scope), h.frames, hcur, h.wf.chain_root]
  rfl

/-- The counting loop of the builder's tests keeps to the discipline, and so passes the check:
`main`'s body declares `i` and `done`, a loop steps `i`, compares it and breaks out, a jump to
a scope that does not exist is refused, and `i` is released before the body closes. -/
theorem counting_loop_passes_check :
    let cs := [Call.defineFunction ⟨"main", .primitive .void, []⟩,
      .beginFunctionBody ⟨"main", .primitive .void, []⟩, .setPosition 2 5,
      .declareVariable "i" (.primitive .int), .declareVariable "done" (.primitive .bool),
      .beginScope "loop" .loop,
      .emit ⟨.binary (.variable ⟨"i", .primitive .int⟩) .add (.variable ⟨"i", .primitive .int⟩)
        (.literal (.int 1)), {}⟩,
      .emit ⟨.compare (.variable ⟨"done", .primitive .bool⟩) .ge (.variable ⟨"i", .primitive .int⟩)
        (.literal (.int 10)), {}⟩,
      .emitCondJump ⟨"done", .primitive .bool⟩ "exit" none, .emitBreak "loop", .endScope,
      .releaseVariable "i", .endScope]
    ∃ p, ((Builder.new {}).execAll cs).finish = .ok p ∧
      AllCalls (Disciplined p.scopes) (Builder.new {}) cs ∧ p.findings = [] := by
  intro cs
  cases hfin : ((Builder.new {}).execAll cs).finish with
  | error e =>
    have hok : ((Builder.new {}).execAll cs).finish.isOk = true := by decide +kernel
    rw [hfin] at hok
    cases hok
  | ok p =>
    have hcalls : AllCalls (Disciplined p.scopes) (Builder.new {}) cs := by
      rw [(finish_ok hfin).2.1]
      refine ⟨⟨trivial, trivial, trivial, trivial⟩,
        ⟨trivial, trivial, fun _ h => absurd h List.not_mem_nil, trivial⟩,
        ⟨trivial, trivial, trivial, trivial⟩, ⟨trivial, trivial, trivial, trivial⟩,
        ⟨trivial, trivial, trivial, trivial⟩, ⟨trivial, trivial, trivial, trivial⟩,
        ⟨trivial, ?_, trivial, trivial⟩, ⟨trivial, ?_, trivial, trivial⟩,
        ⟨trivial, ?_, trivial, trivial⟩, ⟨trivial, trivial, trivial, ?_⟩,
        ⟨trivial, trivial, trivial, trivial⟩, ⟨trivial, trivial, trivial, trivial⟩,
        ⟨trivial, trivial, trivial, trivial⟩, trivial⟩
      · -- `i = i + 1` uses `i`
        intro n hn
        simp [Instruction.usedVariables, Operation.usedVariables, Operation.operands,
          Operand.variableName?] at hn
        rcases hn with rfl | rfl <;>
          exact ⟨(⟨.variable ⟨"i", .primitive .int⟩, 1⟩, ⟨"i", .primitive .int⟩), by decide +kernel⟩
      · -- `done = i >= 10` uses `done` and `i`
        intro n hn
        simp [Instruction.usedVariables, Operation.usedVariables, Operation.operands,
          Operand.variableName?] at hn
        rcases hn with rfl | rfl
        · exact ⟨(⟨.variable ⟨"done", .primitive .bool⟩, 2⟩, ⟨"done", .primitive .bool⟩),
            by decide +kernel⟩
        · exact ⟨(⟨.variable ⟨"i", .primitive .int⟩, 1⟩, ⟨"i", .primitive .int⟩), by decide +kernel⟩
      · exact ⟨(⟨.variable ⟨"done", .primitive .bool⟩, 2⟩, ⟨"done", .primitive .bool⟩),
          by decide +kernel⟩
      · -- the loop is found, from inside it, as the same scope in the finished tree
        intro s hs
        rw [← hs]
        decide +kernel
    exact ⟨p, rfl, hcalls, finished_program_passes_check {} cs hfin hcalls⟩

/-- The two conditions beyond a library's code and the emitted variables are needed. A body
opened for a function never defined uses its own parameter, which the check, giving a function
scope the parameters of the last `FUNCTION`, finds undeclared; and a `BREAK` out of a loop `L`,
followed inside the loop by a block also named `L`, names that block in the finished tree. Each
run keeps to the other conditions and finishes. -/
theorem finished_programs_failing_check :
    (let cs := [Call.beginFunctionBody ⟨"f", .primitive .int, [⟨"n", .primitive .int, 0⟩]⟩,
        .emit ⟨.assign (.variable ⟨"n", .primitive .int⟩) (.literal (.int 1)), {}⟩, .endScope]
      ∃ p, ((Builder.new {}).execAll cs).finish = .ok p ∧
        p.findings.map (·.problem) = [.undeclaredVariable "n"] ∧
        AllCalls (fun b c => BringsNoCode c ∧ UsesResolved b c ∧ TargetKept p.scopes b c)
          (Builder.new {}) cs) ∧
    (let cs := [Call.beginScope "L" .loop, .emitBreak "L", .beginScope "L" .block, .endScope,
        .endScope]
      ∃ p, ((Builder.new {}).execAll cs).finish = .ok p ∧
        p.findings.map (·.problem) = [.notALoop "L"] ∧
        AllCalls (fun b c => BringsNoCode c ∧ UsesResolved b c ∧ ParamsAnnounced b c)
          (Builder.new {}) cs) := by
  constructor
  · intro cs
    have hrun : ((Builder.new {}).execAll cs).finish.map (·.findings.map (·.problem)) =
        .ok [.undeclaredVariable "n"] := by decide +kernel
    cases hfin : ((Builder.new {}).execAll cs).finish with
    | error e =>
      rw [hfin] at hrun
      cases hrun
    | ok p =>
      rw [hfin] at hrun
      refine ⟨p, rfl, Except.ok.inj hrun, ⟨trivial, trivial, trivial⟩, ⟨trivial, ?_, trivial⟩,
        ⟨trivial, trivial, trivial⟩, trivial⟩
      intro n hn
      simp [Instruction.usedVariables, Operation.usedVariables, Operation.operands,
        Operand.variableName?] at hn
      subst hn
      exact ⟨(⟨.variable ⟨"n", .primitive .int⟩, 0⟩, ⟨"n", .primitive .int⟩), by decide +kernel⟩
  · intro cs
    have hrun : ((Builder.new {}).execAll cs).finish.map (·.findings.map (·.problem)) =
        .ok [.notALoop "L"] := by decide +kernel
    cases hfin : ((Builder.new {}).execAll cs).finish with
    | error e =>
      rw [hfin] at hrun
      cases hrun
    | ok p =>
      rw [hfin] at hrun
      exact ⟨p, rfl, Except.ok.inj hrun, ⟨trivial, trivial, trivial⟩, ⟨trivial, trivial, trivial⟩,
        ⟨trivial, trivial, trivial⟩, ⟨trivial, trivial, trivial⟩, ⟨trivial, trivial, trivial⟩,
        trivial⟩

end Builder

end ScopedIr
