import ScopedIr.Proofs.Check.Brackets

/-!
# The order of the findings

The check reports in two passes. The first visits the instructions in stream order, and every
finding it raises while visiting an instruction points at that instruction, so its findings
come in program order. Only a `SCOPE_BEGIN` looks for a scope to enter, so only a `SCOPE_BEGIN`
enters one or reports one it could not find. The second pass
reports the scopes left open, innermost first, each at the `SCOPE_BEGIN` that opened it: those
indices go down. So the findings are in program order exactly when at most one scope is left
open and no finding of the first pass comes after the `SCOPE_BEGIN` that opened it.
-/

namespace ScopedIr

/-- Whether a problem is a `SCOPE_BEGIN` that found no scope to enter. -/
def Problem.isUnknownScope : Problem → Bool
  | .unknownScope .. => true
  | _ => false

/-- A scope left open is no scope missed. -/
theorem Problem.isUnknownScope_of_isUnclosed {q : Problem} (h : q.isUnclosed = true) :
    q.isUnknownScope = false := by
  cases q <;> simp_all [Problem.isUnclosed, Problem.isUnknownScope]

namespace Replay

/-! ### What one instruction reports -/

/-- What visiting the instruction at `k` does beside the frames, taking `r` to `r'`: the
findings it adds all point at `k`, and unless the instruction opens a scope (`opening`) it
neither enters a scope nor reports one it could not find. -/
structure VisitsAt (k : Nat) (opening : Bool) (r r' : Replay) : Prop where
  findings : ∃ fs, r'.findings.toList = r.findings.toList ++ fs ∧
    ∀ f ∈ fs, f.index = k ∧ (f.problem.isUnknownScope = true → opening = true)
  entered : opening = false → r'.entered = r.entered

namespace VisitsAt

variable {k : Nat} {opening : Bool}

/-- A visit that reports nothing and enters nothing, whatever it does to the frames. -/
theorem of_same {r r' : Replay} (hf : r'.findings = r.findings) (he : r'.entered = r.entered) :
    VisitsAt k opening r r' :=
  ⟨⟨[], by simp [hf], by simp⟩, fun _ => he⟩

theorem refl (r : Replay) : VisitsAt k opening r r := of_same rfl rfl

theorem trans {r₁ r₂ r₃ : Replay} (h₁ : VisitsAt k opening r₁ r₂)
    (h₂ : VisitsAt k opening r₂ r₃) : VisitsAt k opening r₁ r₃ := by
  obtain ⟨fs₁, hf₁, hk₁⟩ := h₁.findings
  obtain ⟨fs₂, hf₂, hk₂⟩ := h₂.findings
  refine ⟨⟨fs₁ ++ fs₂, by rw [hf₂, hf₁, List.append_assoc], fun f hf => ?_⟩,
    fun ho => (h₂.entered ho).trans (h₁.entered ho)⟩
  rcases List.mem_append.mp hf with hf | hf
  · exact hk₁ f hf
  · exact hk₂ f hf

theorem report (r : Replay) {f : Finding} (hk : f.index = k)
    (hu : f.problem.isUnknownScope = true → opening = true) :
    VisitsAt k opening r (r.report f) :=
  ⟨⟨[f], by simp [Replay.report], by simpa using ⟨hk, hu⟩⟩, fun _ => rfl⟩

/-- Reporting anything but a missed scope is a visit of every instruction. -/
theorem report_other (r : Replay) {f : Finding} (hk : f.index = k)
    (hu : f.problem.isUnknownScope = false) : VisitsAt k opening r (r.report f) :=
  report r hk fun h => absurd (hu ▸ h) Bool.false_ne_true

/-- A fold whose every step visits at `k` visits at `k`. -/
theorem foldl {α : Type} {G : Replay → α → Replay} (hG : ∀ r x, VisitsAt k opening r (G r x)) :
    ∀ (l : List α) (r : Replay), VisitsAt k opening r (l.foldl G r)
  | [], r => refl r
  | x :: l, r => (hG r x).trans (foldl hG l (G r x))

theorem checkVariables (r : Replay) (i : Instruction) :
    VisitsAt k opening r (r.checkVariables k i) := by
  unfold Replay.checkVariables
  refine foldl (fun r n => ?_) _ r
  split
  · exact refl r
  · exact report_other r rfl rfl

theorem enter (t : ScopeTree) (r : Replay) (m : Metadata) (n : String) (kd : ScopeKind) :
    VisitsAt k true r (r.enter t k m n kd) := by
  cases hfind : (t.children r.current).find? fun c =>
      (t.scope c).name == n && (t.scope c).kind == kd && !r.entered.contains c with
  | none =>
    refine ⟨⟨[⟨k, m, .unknownScope n kd⟩], ?_, by simp⟩, by simp⟩
    simp only [Replay.enter, hfind]
    split <;> simp [Replay.report]
  | some c =>
    refine ⟨⟨[], ?_, by simp⟩, by simp⟩
    simp only [Replay.enter, hfind]
    split <;> simp

end VisitsAt

/-- Every finding the replay raises while visiting the instruction at `k` points at `k`, and
only a `SCOPE_BEGIN` enters a scope or reports one it could not find. -/
theorem visitsAt_visit (t : ScopeTree) (r : Replay) (k : Nat) (i : Instruction) :
    VisitsAt k i.op.opensScope r (r.visit t k i) := by
  rcases i with ⟨op, m⟩
  cases op with
  | scopeBegin n kd => exact VisitsAt.enter t r m n kd
  | scopeEnd =>
    simp only [visit]
    split
    · exact VisitsAt.of_same rfl rfl
    · exact VisitsAt.report_other r rfl rfl
  | function f => exact VisitsAt.of_same rfl rfl
  | declare s =>
    simp only [visit]
    split
    · exact VisitsAt.of_same rfl rfl
    · exact VisitsAt.refl r
  | release n =>
    simp only [visit]
    split
    · split
      · exact VisitsAt.of_same rfl rfl
      · exact VisitsAt.report_other r rfl rfl
    · exact VisitsAt.report_other r rfl rfl
  | breakLoop tgt | continueLoop tgt =>
    simp only [visit]
    refine VisitsAt.trans ?_ (VisitsAt.checkVariables _ _)
    split
    · split
      · exact VisitsAt.refl r
      · exact VisitsAt.report_other r rfl rfl
    · exact VisitsAt.report_other r rfl rfl
  | jump tgt | condJump c tt ff =>
    simp only [visit]
    refine VisitsAt.trans (VisitsAt.foldl (fun r x => ?_) _ r) (VisitsAt.checkVariables _ _)
    split
    · exact VisitsAt.refl r
    · exact VisitsAt.report_other r rfl rfl
  | _ => exact VisitsAt.checkVariables r _

/-- The replay of a stream reports in program order, each finding at an instruction of the
stream. -/
theorem findings_run_ordered (t : ScopeTree) (code : List Instruction) :
    (run t code).findings.toList.Pairwise (fun f g => f.index ≤ g.index) ∧
      ∀ f ∈ (run t code).findings.toList, f.index < code.length := by
  induction code using List.reverseRecOn with
  | nil => simp [run, start]
  | append_singleton code i ih =>
    obtain ⟨fs, hfs, hk⟩ := (visitsAt_visit t (run t code) code.length i).findings
    rw [run_concat, hfs, List.length_append, List.length_singleton]
    -- the new findings point at the new instruction, after every earlier one
    refine ⟨List.pairwise_append.mpr ⟨ih.1, ?_, fun f hf g hg => ?_⟩, fun f hf => ?_⟩
    · exact List.pairwise_of_forall_mem_list fun f hf g hg => by
        rw [(hk f hf).1, (hk g hg).1]
    · rw [(hk g hg).1]
      exact Nat.le_of_lt (ih.2 f hf)
    · rcases List.mem_append.mp hf with hf | hf
      · exact Nat.lt_succ_of_lt (ih.2 f hf)
      · rw [(hk f hf).1]
        exact Nat.lt_succ_self _

end Replay

namespace Brackets

/-- The `SCOPE_BEGIN`s left pending, innermost first, were opened at decreasing indices. -/
theorem pending_decreasing (code : List Instruction) :
    (matching code).pending.Pairwise (fun b c => c.1 < b.1) := by
  induction code using List.reverseRecOn with
  | nil => simp [matching]
  | append_singleton code i ih =>
    rw [matching_concat]
    rcases bracket_cases i with ⟨n, kd, hi⟩ | hi | hi
    · -- the new opening is innermost, after every pending one
      rw [Matching.step_of_scopeBegin hi]
      refine List.Pairwise.cons (fun b hb => ?_) ih
      have hsite := matching_sites code b (List.mem_append_right _ hb)
      exact (List.getElem?_eq_some_iff.mp hsite).1
    · cases hp : (matching code).pending with
      | nil =>
        rw [Matching.step_of_stray hi hp]
        exact hp ▸ ih
      | cons b rest =>
        rw [Matching.step_of_close hi hp]
        exact (hp ▸ ih).of_cons
    · rw [Matching.step_of_flat hi]
      exact ih

end Brackets

namespace Program

open Brackets Replay

/-- A list whose indices go down is in program order only when it has at most one element. -/
theorem pairwise_index_le_iff {l : List Finding} (h : l.Pairwise (fun f g => g.index < f.index)) :
    l.Pairwise (fun f g => f.index ≤ g.index) ↔ l.length ≤ 1 := by
  rcases l with _ | ⟨f, _ | ⟨g, rest⟩⟩
  · simp
  · simp
  · -- two findings in program order would contradict the first index being the larger
    have hlt : g.index < f.index := List.rel_of_pairwise_cons h List.mem_cons_self
    simp only [List.length_cons, Nat.reduceLeDiff, iff_false]
    intro hle
    exact absurd (List.rel_of_pairwise_cons hle List.mem_cons_self) (Nat.not_le_of_lt hlt)

/-- The scopes left open are reported at decreasing indices, each at a `SCOPE_BEGIN` of the
program. -/
theorem unclosed_decreasing (p : Program) :
    (p.unclosedFindings (run p.scopes p.instructions.toList)).Pairwise
        (fun f g => g.index < f.index) ∧
      ∀ f ∈ p.unclosedFindings (run p.scopes p.instructions.toList),
        f.index < p.instructions.size ∧ f.problem.isUnclosed = true := by
  have hidx : (p.unclosedFindings (run p.scopes p.instructions.toList)).map (·.index) =
      (matching p.instructions.toList).pending.map (·.1) := by
    have hfst := congrArg (List.map Prod.fst) (unclosed_sites p)
    rw [List.map_map, List.map_map] at hfst
    exact hfst
  refine ⟨?_, fun f hf => ⟨?_, isUnclosed_of_mem_unclosedFindings hf⟩⟩
  · have hdec : ((matching p.instructions.toList).pending.map (·.1)).Pairwise (fun a b => b < a) :=
      List.pairwise_map.mpr (pending_decreasing p.instructions.toList)
    rw [← hidx] at hdec
    exact List.pairwise_map.mp hdec
  · -- the index is that of a pending `SCOPE_BEGIN`, an instruction of the program
    have hm : f.index ∈ (matching p.instructions.toList).pending.map (·.1) :=
      hidx ▸ List.mem_map_of_mem hf
    obtain ⟨b, hb, hbf⟩ := List.mem_map.mp hm
    have hsite := matching_sites p.instructions.toList b (List.mem_append_right _ hb)
    rw [← hbf, ← Array.length_toList]
    exact (List.getElem?_eq_some_iff.mp hsite).1

/-- The check's findings are those of its pass over the instructions, in program order, followed
by the scopes left open, innermost first at decreasing indices. So they are in program order
exactly when at most one scope is left open and nothing the pass reports comes after the
`SCOPE_BEGIN` that opened it. -/
theorem findings_in_program_order_then_unclosed (p : Program) :
    ∃ pass unclosed, p.findings = pass ++ unclosed ∧
      pass.Pairwise (fun f g => f.index ≤ g.index) ∧
      (∀ f ∈ pass, f.index < p.instructions.size ∧ f.problem.isUnclosed = false) ∧
      unclosed.Pairwise (fun f g => g.index < f.index) ∧
      (∀ f ∈ unclosed, f.index < p.instructions.size ∧ f.problem.isUnclosed = true) ∧
      (p.findings.Pairwise (fun f g => f.index ≤ g.index) ↔
        unclosed.length ≤ 1 ∧ ∀ f ∈ pass, ∀ g ∈ unclosed, f.index ≤ g.index) := by
  obtain ⟨hpass, hlt⟩ := findings_run_ordered p.scopes p.instructions.toList
  obtain ⟨hdec, hun⟩ := unclosed_decreasing p
  refine ⟨_, _, findings_eq p, hpass, fun f hf => ⟨?_, isUnclosed_run _ _ f hf⟩, hdec, hun, ?_⟩
  · simpa using hlt f hf
  · rw [findings_eq, List.pairwise_append, pairwise_index_le_iff hdec]
    exact ⟨fun h => ⟨h.2.1, h.2.2⟩, fun h => ⟨hpass, h⟩⟩

/-- A block whose `SCOPE_BEGIN` is never closed and which releases a name it never declared: the
release is reported at index 1, then the open block at index 0. -/
example : (⟨#[⟨.scopeBegin "a" .block, {}⟩, ⟨.release "x", {}⟩],
    (ScopeTree.empty.createChild ScopeTree.root "a" .block).2, {}, {}⟩ : Program).findings.map
      (·.index) = [1, 0] := by
  decide +kernel

end Program

end ScopedIr
