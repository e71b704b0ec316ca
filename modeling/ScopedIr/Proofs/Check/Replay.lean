import ScopedIr.Check.Replay
import ScopedIr.Proofs.Scope.Tree

/-!
# The replay of a growing stream

The check folds `Replay.visit` over the numbered stream. Cut after any prefix, the fold is the
replay of that prefix, so a replay can follow a stream as it grows, one instruction at a time.
Each kind of instruction is read off here as the change it makes to a replay when it raises no
finding. Which parameters the next function scope starts with depends on the stream alone.
-/

namespace ScopedIr

/-- How an instruction changes the parameters the next function scope starts with. -/
def Instruction.announce (ps : List String) (i : Instruction) : List String :=
  match i.op with
  | .function f => f.params.map (·.name)
  | .scopeBegin _ .function => []
  | _ => ps

/-- The parameter names a function scope opened after the stream `l` starts with: those of its
last `FUNCTION`, unless a function scope opened since took them. -/
def announcedParams (l : List Instruction) : List String := l.foldl Instruction.announce []

namespace Replay

/-- The replay after the stream `l`, against the tree `t`. -/
def run (t : ScopeTree) (l : List Instruction) : Replay :=
  l.zipIdx.foldl (fun r p => r.visit t p.2 p.1) start

/-- Replaying one more instruction visits it at its index. -/
theorem run_concat (t : ScopeTree) (l : List Instruction) (i : Instruction) :
    run t (l ++ [i]) = (run t l).visit t l.length i := by
  simp [run, List.zipIdx_append, List.foldl_append]

/-- The findings of a program: the replay's, then one for each frame above the global one. -/
theorem findings_eq_nil {p : Program} (h : (run p.scopes p.instructions.toList).findings = #[])
    (hf : (run p.scopes p.instructions.toList).frames.length = 1) : p.findings = [] := by
  obtain ⟨f, hf⟩ := List.length_eq_one_iff.mp hf
  simp only [run] at h hf
  simp [Program.findings, h, hf]

section Visit

variable (t : ScopeTree) (r : Replay) (k : Nat)

/-- Checking variables only ever adds findings. -/
theorem checkVariables_eq (i : Instruction) :
    ∃ fs, r.checkVariables k i = { r with findings := fs } := by
  unfold checkVariables
  induction i.usedVariables generalizing r with
  | nil => exact ⟨r.findings, rfl⟩
  | cons n ns ih =>
    rw [List.foldl_cons]
    split
    · exact ih r
    · obtain ⟨fs, hfs⟩ := ih (r.report ⟨k, i.origin, .undeclaredVariable n⟩)
      exact ⟨fs, hfs⟩

/-- Variables that some frame declares raise nothing. -/
theorem checkVariables_of_declared {i : Instruction}
    (h : ∀ n ∈ i.usedVariables, r.isDeclared n = true) : r.checkVariables k i = r := by
  unfold checkVariables
  revert h
  generalize i.usedVariables = ns
  intro h
  induction ns with
  | nil => rfl
  | cons n ns ih =>
    rw [List.foldl_cons, if_pos (h n List.mem_cons_self)]
    exact ih fun m hm => h m (List.mem_cons_of_mem _ hm)

/-- Entering takes the parameters, when the scope is a function's. -/
theorem params_enter (m : Metadata) (n : String) (kd : ScopeKind) :
    (r.enter t k m n kd).params = if kd = .function then [] else r.params := by
  unfold enter
  by_cases hk : kd = .function
  · simp [hk]
  · simp only [hk, if_false, beq_iff_eq]
    split <;> rfl

/-- A `SCOPE_BEGIN` whose scope is found pushes a frame for it, marks it entered and raises
nothing; a function scope starts with the parameters announced. -/
theorem enter_of_find {m : Metadata} {n : String} {kd : ScopeKind} {c : ScopeId}
    (h : (t.children r.current).find? (fun c => (t.scope c).name == n && (t.scope c).kind == kd &&
      !r.entered.contains c) = some c) :
    r.enter t k m n kd =
      { r with
        entered := r.entered ++ [c]
        params := if kd = .function then [] else r.params
        frames := ⟨c, k, if kd = .function then r.params.eraseDups else []⟩ :: r.frames } := by
  simp only [enter, h]
  by_cases hk : kd = .function <;> simp [hk]

theorem params_checkVariables (i : Instruction) : (r.checkVariables k i).params = r.params := by
  obtain ⟨fs, h⟩ := checkVariables_eq r k i
  rw [h]

/-- The parameters a replay holds move as the stream announces them. -/
theorem params_visit (i : Instruction) : (r.visit t k i).params = i.announce r.params := by
  rcases i with ⟨op, m⟩
  cases op with
  | scopeBegin n kd =>
    simp only [visit]
    rw [params_enter]
    cases kd <;> rfl
  | scopeEnd =>
    simp only [visit, Instruction.announce]
    split <;> rfl
  | declare s =>
    simp only [visit, Instruction.announce]
    split <;> rfl
  | release n =>
    simp only [visit, Instruction.announce]
    split
    · split <;> rfl
    · rfl
  | breakLoop tgt | continueLoop tgt =>
    simp only [visit, Instruction.announce]
    rw [params_checkVariables]
    split
    · split <;> rfl
    · rfl
  | jump tgt | condJump c tt ff =>
    simp only [visit, Instruction.announce]
    rw [params_checkVariables]
    generalize Instruction.targets _ = ts
    induction ts generalizing r with
    | nil => rfl
    | cons x xs ih =>
      rw [List.foldl_cons]
      split
      · exact ih _
      · exact ih _
  | function f => rfl
  | _ => exact params_checkVariables r k _

/-- A `SCOPE_END` with a frame below the current one pops it. -/
theorem visit_scopeEnd {m : Metadata} {f g : Frame} {below : List Frame}
    (h : r.frames = f :: g :: below) :
    r.visit t k ⟨.scopeEnd, m⟩ = { r with frames := g :: below } := by
  simp [visit, h]

theorem visit_function (m : Metadata) (f : Function) :
    r.visit t k ⟨.function f, m⟩ = { r with params := f.params.map (·.name) } := rfl

/-- A `DECLARE` declares its name in the current frame. -/
theorem visit_declare {m : Metadata} {s : Slot} {top : Frame} {below : List Frame}
    (h : r.frames = top :: below) : r.visit t k ⟨.declare s, m⟩ =
      { r with frames := { top with declared := top.declared.insert s.name } :: below } := by
  simp [visit, h]

/-- A `VAR_RELEASE` of a name the current frame declares removes it there. -/
theorem visit_release {m : Metadata} {n : String} {top : Frame} {below : List Frame}
    (h : r.frames = top :: below) (hn : n ∈ top.declared) : r.visit t k ⟨.release n, m⟩ =
      { r with frames := { top with declared := top.declared.erase n } :: below } := by
  simp [visit, h, hn]

/-- A `BREAK` or `CONTINUE` whose target resolves to a loop raises nothing. -/
theorem visit_loopExit {m : Metadata} {tgt : String} {s : ScopeId}
    (h : t.resolveScope r.current tgt = .ok s) (hk : (t.scope s).kind = .loop) :
    r.visit t k ⟨.breakLoop tgt, m⟩ = r ∧ r.visit t k ⟨.continueLoop tgt, m⟩ = r := by
  simp [visit, h, hk, checkVariables, Instruction.usedVariables, Operation.usedVariables,
    Operation.operands, List.filterMap_cons, Operand.variableName?]

/-- Targets that all resolve raise nothing, whatever a failed one would raise. -/
theorem foldl_targets {G : Replay → String → Replay}
    (hG : ∀ x, (∃ s, t.resolveScope r.current x = .ok s) → G r x = r) :
    ∀ ts : List String, (∀ x ∈ ts, ∃ s, t.resolveScope r.current x = .ok s) → ts.foldl G r = r
  | [], _ => rfl
  | x :: xs, h => by
    rw [List.foldl_cons, hG x (h x List.mem_cons_self)]
    exact foldl_targets hG xs fun y hy => h y (List.mem_cons_of_mem _ hy)

/-- A jump whose targets all resolve, and whose variables are declared, raises nothing. -/
theorem visit_jump {i : Instruction}
    (hi : (∃ tgt, i.op = .jump tgt) ∨ ∃ c tt ff, i.op = .condJump c tt ff)
    (ht : ∀ tgt ∈ i.targets, ∃ s, t.resolveScope r.current tgt = .ok s)
    (hv : ∀ n ∈ i.usedVariables, r.isDeclared n = true) : r.visit t k i = r := by
  rcases i with ⟨op, m⟩
  rcases hi with ⟨tgt, rfl⟩ | ⟨c, tt, ff, rfl⟩ <;>
  · simp only [visit]
    rw [foldl_targets t r ?_ _ ht]
    · exact checkVariables_of_declared r k hv
    · rintro x ⟨s, hs⟩
      simp only [hs]

theorem visit_classDef (m : Metadata) (c : ClassRef) : r.visit t k ⟨.classDef c, m⟩ = r := rfl

end Visit

theorem params_foldl (t : ScopeTree) : ∀ (l : List Instruction) (r : Replay) (k : Nat),
    ((l.zipIdx k).foldl (fun r p => r.visit t p.2 p.1) r).params =
      l.foldl Instruction.announce r.params
  | [], _, _ => rfl
  | i :: l, r, k => by
    rw [List.zipIdx_cons, List.foldl_cons, List.foldl_cons, params_foldl t l, params_visit]

/-- The parameters a replay holds are those its stream announced. -/
theorem params_run (t : ScopeTree) (l : List Instruction) : (run t l).params = announcedParams l :=
  params_foldl t l start 0

end Replay

end ScopedIr
