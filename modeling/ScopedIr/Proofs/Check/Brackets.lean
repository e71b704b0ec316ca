import Mathlib.Data.List.Induction
import ScopedIr.Proofs.Check.Replay
import ScopedIr.Proofs.Builder.Lockstep

/-!
# Scope findings are the unmatched brackets

Read as brackets, a stream's `SCOPE_BEGIN`s open and its `SCOPE_END`s close. The usual
matching pairs each `SCOPE_END` with the innermost `SCOPE_BEGIN` still open before it; a
`SCOPE_END` with nothing open is *stray*, and the `SCOPE_BEGIN`s still open at the end are
*pending*. The brackets balance exactly when nothing is stray and nothing is pending.

The check's frame stack is this matching. Below its permanent frame for the global scope it
holds one frame for each pending `SCOPE_BEGIN`, opened at that instruction, whatever scope the
frame found; a `SCOPE_END` with only the bottom frame left is reported as closing nothing, and
every other instruction leaves the openings of the frames alone and reports nothing about
brackets. So the check reports `unmatchedScopeEnd` exactly at the stray `SCOPE_END`s, and
`unclosedScope` once for each pending `SCOPE_BEGIN`, innermost first, at its index and with its
metadata. Against a well-formed tree, every frame stands for a scope of the tree.
-/

namespace ScopedIr

/-- Whether a problem is about scope brackets: a `SCOPE_END` that closes nothing, or a scope
never closed. -/
def Problem.isBracket : Problem → Bool
  | .unmatchedScopeEnd | .unclosedScope _ => true
  | _ => false

/-- Whether a problem is a scope never closed. -/
def Problem.isUnclosed : Problem → Bool
  | .unclosedScope _ => true
  | _ => false

/-- Where a finding points: the index of the instruction and its metadata. -/
def Finding.site (f : Finding) : Nat × Metadata := (f.index, f.origin)

/-- Findings about something else than brackets add no finding about brackets. -/
theorem filter_isBracket_append (l : List Finding) {fs : List Finding}
    (hb : ∀ f ∈ fs, f.problem.isBracket = false) :
    (l ++ fs).filter (·.problem.isBracket) = l.filter (·.problem.isBracket) := by
  have hnil : fs.filter (·.problem.isBracket) = [] :=
    List.filter_eq_nil_iff.mpr fun f hf => by simp [hb f hf]
  rw [List.filter_append, hnil, List.append_nil]

theorem Problem.isBracket_of_isUnclosed {p : Problem} (h : p.isUnclosed = true) :
    p.isBracket = true := by
  cases p <;> simp_all [isUnclosed, isBracket]

namespace Brackets

/-- The usual matching of a stream's scope brackets, each bracket with its index. -/
structure Matching where
  /-- `SCOPE_END`s that found nothing open, in stream order. -/
  stray : List (Nat × Instruction) := []
  /-- `SCOPE_BEGIN`s not closed yet, innermost first. -/
  pending : List (Nat × Instruction) := []

/-- Matches the instruction `i`, found at index `k`: a `SCOPE_END` closes the innermost pending
`SCOPE_BEGIN`, or is stray when none is pending. -/
def Matching.step (M : Matching) (k : Nat) (i : Instruction) : Matching :=
  match i.op with
  | .scopeBegin .. => { M with pending := (k, i) :: M.pending }
  | .scopeEnd =>
    match M.pending with
    | [] => { M with stray := M.stray ++ [(k, i)] }
    | _ :: rest => { M with pending := rest }
  | _ => M

/-- The matching of a whole stream. -/
def matching (code : List Instruction) : Matching :=
  code.zipIdx.foldl (fun M p => M.step p.2 p.1) {}

/-- Where a bracket stands: its index and metadata. -/
def site (b : Nat × Instruction) : Nat × Metadata := (b.1, b.2.origin)

theorem matching_concat (code : List Instruction) (i : Instruction) :
    matching (code ++ [i]) = (matching code).step code.length i := by
  simp [matching, List.zipIdx_append, List.foldl_append]

/-- An instruction opens a scope, closes one, or is no bracket. -/
theorem bracket_cases (i : Instruction) :
    (∃ n kd, i.op = .scopeBegin n kd) ∨ i.op = .scopeEnd ∨ i.isBracket = false := by
  rcases i with ⟨op, m⟩
  cases op <;> simp [Instruction.isBracket, Operation.opensScope, Operation.closesScope]

section Step

variable {M : Matching} {k : Nat} {i : Instruction}

theorem Matching.step_of_scopeBegin {n : String} {kd : ScopeKind} (h : i.op = .scopeBegin n kd) :
    M.step k i = { M with pending := (k, i) :: M.pending } := by
  simp [step, h]

theorem Matching.step_of_stray (h : i.op = .scopeEnd) (hp : M.pending = []) :
    M.step k i = { M with stray := M.stray ++ [(k, i)] } := by
  simp [step, h, hp]

theorem Matching.step_of_close (h : i.op = .scopeEnd) {b : Nat × Instruction}
    {rest : List (Nat × Instruction)} (hp : M.pending = b :: rest) :
    M.step k i = { M with pending := rest } := by
  simp [step, h, hp]

theorem Matching.step_of_flat (h : i.isBracket = false) : M.step k i = M := by
  rcases i with ⟨op, m⟩
  cases op <;> simp_all [step, Instruction.isBracket, Operation.opensScope, Operation.closesScope]

/-- A step records no bracket but the one it matches. -/
theorem Matching.mem_step {b : Nat × Instruction}
    (h : b ∈ (M.step k i).stray ++ (M.step k i).pending) : b = (k, i) ∨ b ∈ M.stray ++ M.pending := by
  rcases bracket_cases i with ⟨n, kd, hi⟩ | hi | hi
  · rw [step_of_scopeBegin hi] at h
    simp only [List.mem_append, List.mem_cons] at h ⊢
    tauto
  · cases hp : M.pending with
    | nil =>
      rw [step_of_stray hi hp] at h
      simp only [List.mem_append, List.mem_singleton, hp, List.not_mem_nil, or_false] at h ⊢
      tauto
    | cons c rest =>
      rw [step_of_close hi hp] at h
      simp only [List.mem_append, List.mem_cons] at h ⊢
      tauto
  · rw [step_of_flat hi] at h
    exact Or.inr h

end Step

/-- Every bracket the matching records is the instruction at its index. -/
theorem matching_sites (code : List Instruction) :
    ∀ b ∈ (matching code).stray ++ (matching code).pending, code[b.1]? = some b.2 := by
  induction code using List.reverseRecOn with
  | nil => simp [matching]
  | append_singleton code i ih =>
    intro b hb
    rw [matching_concat] at hb
    rcases Matching.mem_step hb with rfl | hb
    · simp
    · -- a bracket recorded before keeps its index in the longer stream
      have hlt : b.1 < code.length := (List.getElem?_eq_some_iff.mp (ih b hb)).1
      rw [List.getElem?_append_left hlt, ih b hb]

/-! ### Matching and balance -/

theorem counts_concat_open (code : List Instruction) {i : Instruction} {n : String}
    {kd : ScopeKind} (h : i.op = .scopeBegin n kd) :
    opens (code ++ [i]) = opens code + 1 ∧ closes (code ++ [i]) = closes code := by
  simp [opens, closes, h, Operation.opensScope, Operation.closesScope]

theorem counts_concat_close (code : List Instruction) {i : Instruction} (h : i.op = .scopeEnd) :
    opens (code ++ [i]) = opens code ∧ closes (code ++ [i]) = closes code + 1 := by
  simp [opens, closes, h, Operation.opensScope, Operation.closesScope]

/-- What the stream opens beyond what it closes is what the matching leaves pending, less
what it found stray. -/
theorem opens_add_stray (code : List Instruction) :
    opens code + (matching code).stray.length = closes code + (matching code).pending.length := by
  induction code using List.reverseRecOn with
  | nil => rfl
  | append_singleton code i ih =>
    rw [matching_concat]
    rcases bracket_cases i with ⟨n, kd, hi⟩ | hi | hi
    · obtain ⟨ho, hc⟩ := counts_concat_open code hi
      simp only [Matching.step_of_scopeBegin hi, ho, hc, List.length_cons]
      omega
    · obtain ⟨ho, hc⟩ := counts_concat_close code hi
      cases hp : (matching code).pending with
      | nil =>
        simp only [hp, List.length_nil] at ih
        simp only [Matching.step_of_stray hi hp, ho, hc, hp, List.length_append,
          List.length_singleton, List.length_nil]
        omega
      | cons b rest =>
        simp only [hp, List.length_cons] at ih
        simp only [Matching.step_of_close hi hp, ho, hc]
        omega
    · obtain ⟨ho, hc⟩ := counts_concat_flat code hi
      rw [Matching.step_of_flat hi, ho, hc]
      exact ih

/-- Nothing is stray exactly when no prefix of the stream closes more scopes than it opened. -/
theorem stray_eq_nil_iff (code : List Instruction) :
    (matching code).stray = [] ↔ ∀ p, p <+: code → closes p ≤ opens p := by
  induction code using List.reverseRecOn with
  | nil => simp [matching, opens, closes]
  | append_singleton code i ih =>
    have hcount := opens_add_stray code
    -- the prefixes of the longer stream are itself and those of the shorter one
    have hpre : (∀ p, p <+: code ++ [i] → closes p ≤ opens p) ↔
        closes (code ++ [i]) ≤ opens (code ++ [i]) ∧ ∀ p, p <+: code → closes p ≤ opens p := by
      simp only [List.prefix_concat_iff]
      constructor
      · intro h
        exact ⟨h _ (Or.inl rfl), fun p hp => h p (Or.inr hp)⟩
      · rintro ⟨h₁, h₂⟩ p (rfl | hp)
        · exact h₁
        · exact h₂ p hp
    rw [hpre, ← ih, matching_concat]
    rcases bracket_cases i with ⟨n, kd, hi⟩ | hi | hi
    · -- opening keeps every prefix within bounds
      obtain ⟨ho, hc⟩ := counts_concat_open code hi
      simp only [Matching.step_of_scopeBegin hi, ho, hc]
      refine iff_and_self.mpr fun h => ?_
      simp only [h, List.length_nil] at hcount
      omega
    · obtain ⟨ho, hc⟩ := counts_concat_close code hi
      cases hp : (matching code).pending with
      | nil =>
        -- closing with nothing open goes below zero, and is stray
        simp only [Matching.step_of_stray hi hp, ho, hc, List.append_eq_nil_iff, List.cons_ne_nil,
          and_false, false_iff, not_and]
        intro hle hs
        simp only [hs, hp, List.length_nil] at hcount
        omega
      | cons b rest =>
        -- closing a pending opening leaves the stream within bounds
        simp only [Matching.step_of_close hi hp, ho, hc]
        refine iff_and_self.mpr fun h => ?_
        simp only [h, hp, List.length_nil, List.length_cons] at hcount
        omega
    · obtain ⟨ho, hc⟩ := counts_concat_flat code hi
      rw [Matching.step_of_flat hi, ho, hc]
      refine iff_and_self.mpr fun h => ?_
      simp only [h, List.length_nil] at hcount
      omega

/-- The brackets balance exactly when the matching finds nothing stray and leaves nothing
pending. -/
theorem balanced_iff (code : List Instruction) :
    Balanced code ↔ (matching code).stray = [] ∧ (matching code).pending = [] := by
  have hcount := opens_add_stray code
  constructor
  · rintro ⟨hle, heq⟩
    have hs := (stray_eq_nil_iff code).mpr hle
    refine ⟨hs, ?_⟩
    rw [hs, heq] at hcount
    simpa using hcount
  · rintro ⟨hs, hp⟩
    refine ⟨(stray_eq_nil_iff code).mp hs, ?_⟩
    rw [hs, hp] at hcount
    simpa using hcount.symm

end Brackets

namespace Replay

open Brackets

/-! ### What an instruction does to the frames -/

/-- `r'` agrees with `r` on all that scope brackets touch: the same frames, each standing for
the same scope and opened at the same instruction, and the same findings, with findings about
something else than brackets after them. -/
structure Quiet (r r' : Replay) : Prop where
  frames : r'.frames.map (fun f => (f.scope, f.openedAt)) =
    r.frames.map (fun f => (f.scope, f.openedAt))
  findings : ∃ fs, r'.findings.toList = r.findings.toList ++ fs ∧
    ∀ f ∈ fs, f.problem.isBracket = false

theorem Quiet.refl (r : Replay) : Quiet r r := ⟨rfl, [], by simp, by simp⟩

theorem Quiet.trans {r₁ r₂ r₃ : Replay} (h₁ : Quiet r₁ r₂) (h₂ : Quiet r₂ r₃) : Quiet r₁ r₃ := by
  obtain ⟨fs₁, hf₁, hb₁⟩ := h₁.findings
  obtain ⟨fs₂, hf₂, hb₂⟩ := h₂.findings
  refine ⟨h₂.frames.trans h₁.frames, fs₁ ++ fs₂, by rw [hf₂, hf₁, List.append_assoc], ?_⟩
  intro f hf
  rcases List.mem_append.mp hf with hf | hf
  · exact hb₁ f hf
  · exact hb₂ f hf

theorem quiet_report (r : Replay) {f : Finding} (hf : f.problem.isBracket = false) :
    Quiet r (r.report f) :=
  ⟨rfl, [f], by simp [report], by simpa using hf⟩

/-- A fold whose every step is quiet is quiet. -/
theorem quiet_foldl {α : Type} {G : Replay → α → Replay} (hG : ∀ r x, Quiet r (G r x)) :
    ∀ (l : List α) (r : Replay), Quiet r (l.foldl G r)
  | [], r => Quiet.refl r
  | x :: l, r => (hG r x).trans (quiet_foldl hG l (G r x))

theorem quiet_checkVariables (r : Replay) (k : Nat) (i : Instruction) :
    Quiet r (r.checkVariables k i) := by
  unfold checkVariables
  refine quiet_foldl (fun r n => ?_) _ r
  split
  · exact Quiet.refl r
  · exact quiet_report r rfl

/-- Changing what the innermost frame declares is quiet. -/
theorem quiet_declared (r : Replay) {top : Frame} {below : List Frame}
    (h : r.frames = top :: below) (ds : List String) :
    Quiet r { r with frames := { top with declared := ds } :: below } :=
  ⟨by simp [h], [], by simp, by simp⟩

/-- An instruction that is no bracket leaves the frames standing where they were, and reports
nothing about brackets. -/
theorem quiet_visit (t : ScopeTree) (r : Replay) (k : Nat) {i : Instruction}
    (hi : i.isBracket = false) : Quiet r (r.visit t k i) := by
  rcases i with ⟨op, m⟩
  cases op with
  | scopeBegin n kd => simp [Instruction.isBracket, Operation.opensScope] at hi
  | scopeEnd => simp [Instruction.isBracket, Operation.opensScope, Operation.closesScope] at hi
  | function f => exact ⟨rfl, [], by simp [visit], by simp⟩
  | declare s =>
    simp only [visit]
    split
    · next top below h => exact quiet_declared r h _
    · exact Quiet.refl r
  | release n =>
    simp only [visit]
    split
    · next top below h =>
      split
      · exact quiet_declared r h _
      · exact quiet_report r rfl
    · exact quiet_report r rfl
  | breakLoop tgt | continueLoop tgt =>
    simp only [visit]
    refine Quiet.trans ?_ (quiet_checkVariables _ k _)
    split
    · split
      · exact Quiet.refl r
      · exact quiet_report r rfl
    · exact quiet_report r rfl
  | jump tgt | condJump c tt ff =>
    simp only [visit]
    refine Quiet.trans (quiet_foldl (fun r x => ?_) _ r) (quiet_checkVariables _ k _)
    split
    · exact Quiet.refl r
    · exact quiet_report r rfl
  | _ => exact quiet_checkVariables r k _

/-- Entering pushes one frame, opened at the `SCOPE_BEGIN`, for a child of the current scope
or, when none is fresh, for the current scope itself, and reports nothing about brackets. -/
theorem enter_frames (t : ScopeTree) (r : Replay) (k : Nat) (m : Metadata) (n : String)
    (kd : ScopeKind) :
    ∃ f, (r.enter t k m n kd).frames = f :: r.frames ∧ f.openedAt = k ∧
      (f.scope = r.current ∨ f.scope ∈ t.children r.current) ∧
      ∃ fs, (r.enter t k m n kd).findings.toList = r.findings.toList ++ fs ∧
        ∀ g ∈ fs, g.problem.isBracket = false := by
  cases hfind : (t.children r.current).find? fun c =>
      (t.scope c).name == n && (t.scope c).kind == kd && !r.entered.contains c with
  | none =>
    refine ⟨⟨r.current, k, if kd = .function then r.params.eraseDups else []⟩, ?_, rfl, Or.inl rfl,
      [⟨k, m, .unknownScope n kd⟩], ?_, by simp [Problem.isBracket]⟩ <;>
    · simp only [enter, hfind]
      split <;> simp_all [report]
  | some c =>
    refine ⟨⟨c, k, if kd = .function then r.params.eraseDups else []⟩, ?_, rfl,
      Or.inr (List.mem_of_find?_eq_some hfind), [], ?_, by simp⟩ <;>
    · simp only [enter, hfind]
      split <;> simp_all

end Replay

namespace Replay

open Brackets

variable {t : ScopeTree} {r : Replay}

theorem visit_of_scopeBegin {k : Nat} {i : Instruction} {n : String} {kd : ScopeKind}
    (h : i.op = .scopeBegin n kd) : r.visit t k i = r.enter t k i.origin n kd := by
  rcases i with ⟨op, m⟩
  simp only at h
  subst h
  rfl

/-! ### The frames follow the matching -/

/-- The replay `r` follows the matching `M`: its frames were opened, innermost first, at the
pending `SCOPE_BEGIN`s, above the global scope's frame, and its findings about brackets are one
for each stray `SCOPE_END`, in stream order. -/
structure Tracks (r : Replay) (M : Matching) : Prop where
  openings : r.frames.map (·.openedAt) = M.pending.map (·.1) ++ [0]
  brackets : r.findings.toList.filter (·.problem.isBracket) =
    M.stray.map fun b => ⟨b.1, b.2.origin, .unmatchedScopeEnd⟩

theorem tracks_start : Tracks start {} := ⟨rfl, rfl⟩

theorem Tracks.quiet {r' : Replay} {M : Matching} (h : Tracks r M) (hq : Quiet r r') :
    Tracks r' M where
  openings := by
    have hmap := congrArg (List.map Prod.snd) hq.frames
    simp only [List.map_map] at hmap
    exact hmap.trans h.openings
  brackets := by
    obtain ⟨fs, hfs, hb⟩ := hq.findings
    rw [hfs, filter_isBracket_append _ hb]
    exact h.brackets

/-- One instruction moves the frames as the matching moves. -/
theorem Tracks.visit {M : Matching} (h : Tracks r M) (t : ScopeTree) (k : Nat) (i : Instruction) :
    Tracks (r.visit t k i) (M.step k i) := by
  rcases bracket_cases i with ⟨n, kd, hi⟩ | hi | hi
  · -- a `SCOPE_BEGIN` pushes a frame opened there, whatever scope the frame found
    obtain ⟨f, hf, hk, -, fs, hfs, hb⟩ := enter_frames t r k i.origin n kd
    rw [visit_of_scopeBegin hi, Matching.step_of_scopeBegin hi]
    constructor
    · rw [hf, List.map_cons, h.openings, hk]
      rfl
    · rw [hfs, filter_isBracket_append _ hb]
      exact h.brackets
  · rcases i with ⟨op, m⟩
    simp only at hi
    subst hi
    have ho := h.openings
    cases hp : M.pending with
    | nil =>
      -- only the global scope's frame is left, so the `SCOPE_END` is stray
      rw [hp] at ho
      obtain ⟨g, hg⟩ : ∃ g, r.frames = [g] :=
        List.length_eq_one_iff.mp (by simpa using congrArg List.length ho)
      have hv : r.visit t k ⟨.scopeEnd, m⟩ = r.report ⟨k, m, .unmatchedScopeEnd⟩ := by
        simp [Replay.visit, hg]
      rw [hv, Matching.step_of_stray rfl hp]
      refine ⟨h.openings, ?_⟩
      simp only [report, Array.toList_push, List.filter_append, h.brackets]
      simp [Problem.isBracket]
    | cons b rest =>
      -- the frame of the innermost pending `SCOPE_BEGIN` is closed
      rw [hp] at ho
      rcases hfr : r.frames with _ | ⟨f, _ | ⟨g, below⟩⟩
      · simp [hfr] at ho
      · simp [hfr] at ho
      · rw [visit_scopeEnd t r k hfr, Matching.step_of_close rfl hp]
        simp only [hfr, List.map_cons, List.cons_append, List.cons.injEq] at ho
        exact ⟨by simpa using ho.2, h.brackets⟩
  · rw [Matching.step_of_flat hi]
    exact h.quiet (quiet_visit t r k hi)

/-- Among the findings of a replay that follows a matching, those about brackets are the
stray `SCOPE_END`s: so is any narrower selection of them. -/
theorem Tracks.filter_findings {M : Matching} (h : Tracks r M) (q : Problem → Bool)
    (hq : ∀ x, q x = true → x.isBracket = true) :
    r.findings.toList.filter (fun f => q f.problem) =
      (M.stray.map fun b => (⟨b.1, b.2.origin, .unmatchedScopeEnd⟩ : Finding)).filter
        fun f => q f.problem := by
  rw [← h.brackets, List.filter_filter]
  exact List.filter_congr fun f _ => by
    cases hf : q f.problem
    · rfl
    · simp [hq _ hf]

/-- After every stream, the replay's frames follow the matching of its brackets. -/
theorem tracks_run (t : ScopeTree) (code : List Instruction) :
    Tracks (run t code) (matching code) := by
  induction code using List.reverseRecOn with
  | nil => exact tracks_start
  | append_singleton code i ih =>
    rw [run_concat, matching_concat]
    exact ih.visit t code.length i

/-- The replay never reports a scope left open: that is reported after it. -/
theorem isUnclosed_run (t : ScopeTree) (code : List Instruction) :
    ∀ f ∈ (run t code).findings.toList, f.problem.isUnclosed = false := by
  intro f hf
  cases hu : f.problem.isUnclosed
  · rfl
  · -- it would be among the findings about brackets, which are all stray `SCOPE_END`s
    have hmem : f ∈ (run t code).findings.toList.filter (·.problem.isUnclosed) :=
      List.mem_filter.mpr ⟨hf, hu⟩
    rw [(tracks_run t code).filter_findings Problem.isUnclosed
      fun x hx => Problem.isBracket_of_isUnclosed hx] at hmem
    obtain ⟨b, -, rfl⟩ := List.mem_map.mp (List.mem_filter.mp hmem).1
    cases hu

/-! ### Frames stand for scopes of the tree -/

theorem current_lt (hw : t.WF) (h : ∀ f ∈ r.frames, f.scope < t.size) : r.current < t.size := by
  unfold current
  cases hfr : r.frames with
  | nil => exact hw.root_lt
  | cons f _ => exact h f (by simp [hfr])

/-- Against a well-formed tree, an instruction keeps every frame on a scope of the tree: a new
frame stands for the current scope or one of its children. -/
theorem frames_lt_visit (hw : t.WF) (h : ∀ f ∈ r.frames, f.scope < t.size) (k : Nat)
    (i : Instruction) : ∀ f ∈ (r.visit t k i).frames, f.scope < t.size := by
  rcases bracket_cases i with ⟨n, kd, hi⟩ | hi | hi
  · obtain ⟨f, hf, -, hs, -⟩ := enter_frames t r k i.origin n kd
    rw [visit_of_scopeBegin hi, hf]
    intro g hg
    rcases List.mem_cons.mp hg with rfl | hg
    · rcases hs with hs | hs
      · exact hs ▸ current_lt hw h
      · exact (hw.of_mem_children hs).2.1
    · exact h g hg
  · rcases i with ⟨op, m⟩
    simp only at hi
    subst hi
    simp only [Replay.visit]
    split
    · next f below hfr =>
      intro g hg
      exact h g (by rw [hfr]; exact List.mem_cons_of_mem _ hg)
    · exact h
  · -- the frames keep their scopes
    have hscopes := congrArg (List.map Prod.fst) (quiet_visit t r k hi).frames
    simp only [List.map_map] at hscopes
    intro g hg
    have hmem : g.scope ∈ r.frames.map (·.scope) := by
      rw [← show (r.visit t k i).frames.map (·.scope) = r.frames.map (·.scope) from hscopes]
      exact List.mem_map_of_mem hg
    obtain ⟨f, hf, hfg⟩ := List.mem_map.mp hmem
    exact hfg ▸ h f hf

theorem frames_lt_run (hw : t.WF) (code : List Instruction) :
    ∀ f ∈ (run t code).frames, f.scope < t.size := by
  induction code using List.reverseRecOn with
  | nil =>
    intro f hf
    obtain rfl := List.mem_singleton.mp hf
    exact hw.root_lt
  | append_singleton code i ih =>
    rw [run_concat]
    exact frames_lt_visit hw ih code.length i

end Replay

namespace Program

open Brackets Replay

/-- The findings the check adds after the replay `r`: for each frame above the global scope's,
innermost first, a scope never closed, at the `SCOPE_BEGIN` that opened the frame. -/
def unclosedFindings (p : Program) (r : Replay) : List Finding :=
  r.frames.dropLast.map fun f =>
    ⟨f.openedAt, (p.instructions[f.openedAt]?.map (·.origin)).getD {},
      .unclosedScope (p.scopes.uniqueName f.scope)⟩

theorem findings_eq (p : Program) :
    p.findings = (run p.scopes p.instructions.toList).findings.toList ++
      p.unclosedFindings (run p.scopes p.instructions.toList) := rfl

theorem isUnclosed_of_mem_unclosedFindings {p : Program} {r : Replay} {f : Finding}
    (hf : f ∈ p.unclosedFindings r) : f.problem.isUnclosed = true := by
  obtain ⟨g, -, rfl⟩ := List.mem_map.mp hf
  rfl

/-- A scope never closed is reported at each pending `SCOPE_BEGIN`, innermost first, with the
metadata of that instruction. -/
theorem unclosed_sites (p : Program) :
    (p.unclosedFindings (run p.scopes p.instructions.toList)).map Finding.site =
      (matching p.instructions.toList).pending.map site := by
  -- the frames above the global scope's were opened at the pending `SCOPE_BEGIN`s
  have hopen : (run p.scopes p.instructions.toList).frames.dropLast.map (·.openedAt) =
      (matching p.instructions.toList).pending.map (·.1) := by
    rw [List.map_dropLast, (tracks_run p.scopes p.instructions.toList).openings,
      List.dropLast_concat]
  have hsites := matching_sites p.instructions.toList
  calc (p.unclosedFindings (run p.scopes p.instructions.toList)).map Finding.site
      = ((run p.scopes p.instructions.toList).frames.dropLast.map (·.openedAt)).map
          fun k => (k, (p.instructions[k]?.map (·.origin)).getD {}) := by
        rw [unclosedFindings, List.map_map, List.map_map]
        rfl
    _ = (matching p.instructions.toList).pending.map site := by
        rw [hopen, List.map_map]
        refine List.map_congr_left fun b hb => ?_
        have hb := hsites b (List.mem_append_right _ hb)
        rw [Array.getElem?_toList] at hb
        simp [site, hb]

/-- `unmatchedScopeEnd` is reported exactly at the stray `SCOPE_END`s, in stream order. -/
theorem stray_sites (p : Program) :
    (p.findings.filter (·.problem == .unmatchedScopeEnd)).map Finding.site =
      (matching p.instructions.toList).stray.map site := by
  have hR : (run p.scopes p.instructions.toList).findings.toList.filter
      (·.problem == .unmatchedScopeEnd) = _ :=
    (tracks_run p.scopes p.instructions.toList).filter_findings (· == .unmatchedScopeEnd)
      fun x hx => by cases x <;> simp_all [Problem.isBracket]
  -- a scope never closed is no stray `SCOPE_END`
  have hU : (p.unclosedFindings (run p.scopes p.instructions.toList)).filter
      (·.problem == .unmatchedScopeEnd) = [] :=
    List.filter_eq_nil_iff.mpr fun f hf => by
      obtain ⟨g, -, rfl⟩ := List.mem_map.mp hf
      simp
  rw [findings_eq, List.filter_append, hR, hU, List.append_nil,
    List.filter_eq_self.mpr fun f hf => by obtain ⟨b, -, rfl⟩ := List.mem_map.mp hf; simp,
    List.map_map]
  rfl

/-- `unclosedScope` is reported once for each pending `SCOPE_BEGIN`, innermost first. -/
theorem unclosed_findings_sites (p : Program) :
    (p.findings.filter (·.problem.isUnclosed)).map Finding.site =
      (matching p.instructions.toList).pending.map site := by
  have hR : (run p.scopes p.instructions.toList).findings.toList.filter
      (·.problem.isUnclosed) = [] :=
    List.filter_eq_nil_iff.mpr fun f hf => by simp [isUnclosed_run _ _ f hf]
  rw [findings_eq, List.filter_append, hR, List.nil_append,
    List.filter_eq_self.mpr fun f hf => isUnclosed_of_mem_unclosedFindings hf, unclosed_sites]

/-- The check reports nothing about brackets exactly when they balance. -/
theorem clean_iff_balanced (p : Program) :
    (∀ f ∈ p.findings, f.problem.isBracket = false) ↔ Balanced p.instructions.toList := by
  have htr := tracks_run p.scopes p.instructions.toList
  have hU := unclosed_sites p
  rw [balanced_iff, findings_eq]
  constructor
  · intro h
    constructor
    · -- a stray `SCOPE_END` would be reported
      have hnil : (run p.scopes p.instructions.toList).findings.toList.filter
          (·.problem.isBracket) = [] :=
        List.filter_eq_nil_iff.mpr fun f hf => by simp [h f (List.mem_append_left _ hf)]
      rw [htr.brackets] at hnil
      exact List.map_eq_nil_iff.mp hnil
    · -- a pending `SCOPE_BEGIN` would be reported as never closed
      have hnil : p.unclosedFindings (run p.scopes p.instructions.toList) = [] :=
        List.eq_nil_iff_forall_not_mem.mpr fun f hf => by
          have hb := Problem.isBracket_of_isUnclosed (isUnclosed_of_mem_unclosedFindings hf)
          rw [h f (List.mem_append_right _ hf)] at hb
          cases hb
      rw [hnil, List.map_nil] at hU
      exact List.map_eq_nil_iff.mp hU.symm
  · rintro ⟨hs, hp⟩ f hf
    rcases List.mem_append.mp hf with hf | hf
    · cases hb : f.problem.isBracket
      · rfl
      · have hmem : f ∈ (run p.scopes p.instructions.toList).findings.toList.filter
            (·.problem.isBracket) := List.mem_filter.mpr ⟨hf, hb⟩
        rw [htr.brackets, hs] at hmem
        cases hmem
    · rw [hp, List.map_nil, List.map_eq_nil_iff] at hU
      rw [hU] at hf
      cases hf

/-- What the check reports about the scope brackets of a program. -/
structure ReportsBrackets (p : Program) : Prop where
  /-- `unmatchedScopeEnd` is reported exactly at the stray `SCOPE_END`s, in stream order. -/
  stray : (p.findings.filter (·.problem == .unmatchedScopeEnd)).map Finding.site =
    (matching p.instructions.toList).stray.map site
  /-- `unclosedScope` is reported once for each pending `SCOPE_BEGIN`, innermost first. -/
  unclosed : (p.findings.filter (·.problem.isUnclosed)).map Finding.site =
    (matching p.instructions.toList).pending.map site
  /-- Those brackets are the instructions of the program at their indices. -/
  sites : ∀ b ∈ (matching p.instructions.toList).stray ++ (matching p.instructions.toList).pending,
    p.instructions[b.1]? = some b.2
  /-- Neither is reported exactly when the brackets balance. -/
  clean_iff : (∀ f ∈ p.findings, f.problem.isBracket = false) ↔ Balanced p.instructions.toList
  /-- Before each instruction, every frame stands for a scope of the tree. -/
  frames_in_tree : ∀ n, ∀ f ∈ (run p.scopes (p.instructions.toList.take n)).frames,
    f.scope < p.scopes.size

/-- The check reports exactly the unmatched brackets of every program over a well-formed tree,
and so over every tree a session reaches: `unmatchedScopeEnd` at each `SCOPE_END` the usual
matching leaves stray, `unclosedScope` once for each `SCOPE_BEGIN` it leaves pending, innermost
first, with that instruction's index and metadata, and neither exactly when the brackets
balance. It never reads an instruction or a scope outside the program or the tree. -/
theorem scope_findings_are_unmatched_brackets (p : Program) (hw : p.scopes.WF) :
    p.ReportsBrackets where
  stray := stray_sites p
  unclosed := unclosed_findings_sites p
  sites b hb := by
    rw [← Array.getElem?_toList]
    exact matching_sites _ b hb
  clean_iff := clean_iff_balanced p
  frames_in_tree _ := frames_lt_run hw _

/-- A program whose stream closes a scope before opening any, then leaves two open: the first
`SCOPE_END` is stray and the `SCOPE_BEGIN`s at indices 3 and 1 are pending. -/
theorem reports_brackets_of_stray_end :
    ScopeTree.empty.WF ∧
      ReportsBrackets ⟨#[⟨.scopeEnd, {}⟩, ⟨.scopeBegin "f" .function, {}⟩,
        ⟨.scopeBegin "l" .loop, {}⟩, ⟨.scopeEnd, {}⟩, ⟨.scopeBegin "b" .block, {}⟩],
        ScopeTree.empty, {}, {}⟩ :=
  ⟨ScopeTree.WF.empty, scope_findings_are_unmatched_brackets _ ScopeTree.WF.empty⟩

end Program

end ScopedIr
