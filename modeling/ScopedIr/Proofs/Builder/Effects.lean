import ScopedIr.Proofs.Builder.Shape
import ScopedIr.Proofs.Class.Links

/-!
# What a call does beside the scopes

Beside its scope tree and cursor, a builder holds a stream of instructions, a seal, a class
table, a native registry, the last source position and its options. A call changes them in one
of three ways. A library that passes its checks is registered: its initialization code is
appended to the stream as it is, its classes to the class table, and its natives are recorded.
A library that fails its checks changes nothing. Any other call pushes program code: the
instructions it appends carry the metadata the builder had when the call was made, pushing
anything seals the builder, the natives and options stay, only `setPosition` moves the
position, and the class table stays, gains a class whose links name registered classes, or has
a parent relinked.

So the class table of every run stays well linked, as a class table session keeps it.
-/

namespace ScopedIr

/-- The library a call registers, if it registers one. -/
def Call.library? : Call → Option Library
  | .registerLibrary l => some l
  | _ => none

/-- The source position, line and column, a builder has after a call, from the one it had
before: `setPosition` sets it and every other call keeps it. -/
def Call.position : Call → Option Nat × Option Nat → Option Nat × Option Nat
  | .setPosition line column, _ => (some line, some column)
  | _, pos => pos

namespace Builder

open ClassTable (ClassMove)

/-- The fields program code leaves alone, the class table apart. -/
private structure Quiet (b b' : Builder) : Prop where
  instructions : b'.instructions = b.instructions
  sealed : b'.sealed = b.sealed
  natives : b'.natives = b.natives
  options : b'.options = b.options
  line : b'.line = b.line
  column : b'.column = b.column

private theorem Quiet.refl (b : Builder) : Quiet b b := ⟨rfl, rfl, rfl, rfl, rfl, rfl⟩

private theorem Quiet.trans {b₁ b₂ b₃ : Builder} (h₁ : Quiet b₁ b₂) (h₂ : Quiet b₂ b₃) :
    Quiet b₁ b₃ :=
  ⟨h₂.1.trans h₁.1, h₂.2.trans h₁.2, h₂.3.trans h₁.3, h₂.4.trans h₁.4, h₂.5.trans h₁.5,
    h₂.6.trans h₁.6⟩

private theorem Quiet.metadata {b b' : Builder} (h : Quiet b b') : b'.metadata = b.metadata := by
  simp [Builder.metadata, h.options, h.line, h.column]

section Quiet

variable (b : Builder)

private theorem quiet_bound (s : Symbol) : Quiet b (b.bound s) := ⟨rfl, rfl, rfl, rfl, rfl, rfl⟩
private theorem quiet_unbound (n : String) : Quiet b (b.unbound n) := ⟨rfl, rfl, rfl, rfl, rfl, rfl⟩
private theorem quiet_entered (n : String) (k : ScopeKind) : Quiet b (b.entered n k) :=
  ⟨rfl, rfl, rfl, rfl, rfl, rfl⟩
private theorem quiet_left : Quiet b b.left := ⟨rfl, rfl, rfl, rfl, rfl, rfl⟩
private theorem quiet_classes (t : ClassTable) : Quiet b { b with classes := t } :=
  ⟨rfl, rfl, rfl, rfl, rfl, rfl⟩
private theorem quiet_boundGlobal (s : Symbol) : Quiet b (b.boundGlobal s) :=
  ⟨rfl, rfl, rfl, rfl, rfl, rfl⟩

end Quiet

private theorem quiet_bindParams (b : Builder) (ps : List Parameter) :
    Quiet b (stateOf (bindParams b ps)) ∧ (stateOf (bindParams b ps)).classes = b.classes := by
  induction ps generalizing b with
  | nil => exact ⟨Quiet.refl b, rfl⟩
  | cons p ps ih =>
    simp only [bindParams]
    split
    · exact ⟨Quiet.refl b, rfl⟩
    · exact ⟨(quiet_bound b _).trans (ih _).1, (ih _).2⟩

/-- Binding parameters leaves the class table alone, whether it succeeds or fails. -/
theorem classes_bindParams (b : Builder) (ps : List Parameter) :
    (stateOf (bindParams b ps)).classes = b.classes :=
  (quiet_bindParams b ps).2

/-! ### Registering a library -/

private theorem quiet_libraryFolds (b : Builder) (l : Library) :
    Quiet b (l.classes.foldl classRegistered (l.constants.foldl
      (fun b kv => b.boundGlobal (.constant kv.1)) (l.functions.foldl
        (fun b f => b.boundGlobal (.function f)) b))) := by
  have fold := fun {α : Type} (g : Builder → α → Builder) (hg : ∀ b x, Quiet b (g b x)) =>
    foldl_rel Quiet Quiet.refl (fun _ _ _ => Quiet.trans) g hg
  exact ((fold _ fun b _ => quiet_boundGlobal b _) _ _).trans
    (((fold _ fun b _ => quiet_boundGlobal b _) _ _).trans
      ((fold classRegistered fun b _ => (quiet_classes b _).trans (quiet_boundGlobal _ _)) _ _))

/-- Registering library classes appends them to the class table, links and all. -/
theorem classes_foldl_classRegistered (cs : List ClassDef) (b : Builder) :
    (cs.foldl classRegistered b).classes = ⟨b.classes.classes ++ cs.toArray⟩ := by
  induction cs generalizing b with
  | nil => simp
  | cons c cs ih =>
    rw [List.foldl_cons, ih]
    congr 1
    simp [classRegistered]

section WithLibrary

variable (b : Builder) (l : Library)

@[simp] theorem withLibrary_instructions :
    (b.withLibrary l).instructions = b.instructions ++ l.init.toArray :=
  (withLibrary_keeps b l).2.2

@[simp] theorem withLibrary_natives : (b.withLibrary l).natives = b.natives.record l := by
  simp only [withLibrary, (quiet_libraryFolds b l).natives]

@[simp] theorem withLibrary_sealed : (b.withLibrary l).sealed = b.sealed :=
  (quiet_libraryFolds b l).sealed

@[simp] theorem withLibrary_options : (b.withLibrary l).options = b.options :=
  (quiet_libraryFolds b l).options

@[simp] theorem withLibrary_line : (b.withLibrary l).line = b.line :=
  (quiet_libraryFolds b l).line

@[simp] theorem withLibrary_column : (b.withLibrary l).column = b.column :=
  (quiet_libraryFolds b l).column

theorem withLibrary_classes :
    (b.withLibrary l).classes = ⟨b.classes.classes ++ l.classes.toArray⟩ := by
  simp only [withLibrary]
  rw [classes_foldl_classRegistered, classes_foldl_boundGlobal, classes_foldl_boundGlobal]

end WithLibrary

/-! ### The three ways -/

/-- How a call changes the stream, the seal, the natives, the options, the position and the
class table. -/
inductive OuterMove (b : Builder) (c : Call) (b' : Builder) : Prop where
  /-- A library passes its checks and is registered. -/
  | library (l : Library) (call : c = .registerLibrary l) (ok : c.run.run b = .ok () b')
      (unsealed : b.sealed = false)
      (links : ∀ d ∈ l.classes, ∀ k ∈ d.links, k < b.classes.size)
      (state : b' = b.withLibrary l)
  /-- A library fails its checks and changes nothing. -/
  | refused (l : Library) (call : c = .registerLibrary l) (fails : ∃ e, c.run.run b = .error e b')
      (same : b' = b)
  /-- Any other call pushes program code, each instruction stamped with the metadata the
  builder had when the call was made. -/
  | code (notLibrary : c.library? = none) (pushed : List Instruction)
      (stream : b'.instructions = b.instructions ++ pushed.toArray)
      (stamped : ∀ i ∈ pushed, i.origin = b.metadata)
      (sealed : b'.sealed = (b.sealed || !pushed.isEmpty))
      (natives : b'.natives = b.natives) (options : b'.options = b.options)
      (position : (b'.line, b'.column) = c.position (b.line, b.column))
      (classes : ClassMove b.classes b'.classes)

section Moves

variable {b : Builder} {c : Call}

/-- A call that pushes nothing. -/
private theorem OuterMove.still {b' : Builder} (nl : c.library? = none)
    (np : c.position (b.line, b.column) = (b.line, b.column)) (h : Quiet b b')
    (hc : ClassMove b.classes b'.classes) : OuterMove b c b' :=
  .code nl [] (by simp [h.instructions]) (by simp) (by simp [h.sealed]) h.natives h.options
    (by rw [h.line, h.column, np]) hc

/-- A call that pushes one instruction between changes that push nothing. -/
private theorem OuterMove.push {b₁ b' : Builder} (nl : c.library? = none)
    (np : c.position (b.line, b.column) = (b.line, b.column)) (h₁ : Quiet b b₁) (i : Instruction)
    (h₂ : Quiet (b₁.appended i) b') (hc : ClassMove b.classes b'.classes) : OuterMove b c b' :=
  .code nl [i.withMeta b₁.metadata] (by simp [h₂.instructions, h₁.instructions])
    (by simp [Instruction.withMeta, h₁.metadata]) (by rw [h₂.sealed]; simp [appended])
    (h₂.natives.trans h₁.natives) (h₂.options.trans h₁.options)
    (by rw [h₂.line, h₂.column]; exact (congrArg₂ Prod.mk h₁.line h₁.column).trans np.symm) hc

end Moves

/-- No link is missing exactly when every link names a class of the table. -/
theorem firstMissing_eq_none_iff (t : ClassTable) (cs : List ClassDef) :
    t.firstMissing cs = none ↔ ∀ d ∈ cs, ∀ k ∈ d.links, k < t.size := by
  simp only [ClassTable.firstMissing, List.find?_eq_none, List.mem_flatMap, decide_eq_true_eq,
    Nat.not_le]
  constructor
  · intro h d hd k hk
    exact h k ⟨d, hd, hk⟩
  · rintro h k ⟨d, hd, hk⟩
    exact h d hd k hk

/-- Every call changes what lies beside the scopes in one of the three ways. -/
theorem outerMove_exec (b : Builder) (c : Call) : OuterMove b c (b.exec c) := by
  cases c with
  | setPosition line column =>
    rw [exec_setPosition]
    exact .code rfl [] (by simp) (by simp) (by simp) rfl rfl rfl (.keep rfl)
  | beginScope n k =>
    rw [exec_beginScope]
    exact .push rfl rfl (quiet_entered b n k) _ (Quiet.refl _) (.keep rfl)
  | endScope =>
    rw [exec_endScope]
    split
    · exact .push rfl rfl (Quiet.refl b) _ (quiet_left _) (.keep rfl)
    · exact .still rfl rfl (Quiet.refl b) (.keep rfl)
  | declareVariable n t =>
    rw [exec_declareVariable]
    split
    · exact .still rfl rfl (Quiet.refl b) (.keep rfl)
    · exact .push rfl rfl (quiet_bound b _) _ (Quiet.refl _) (.keep rfl)
  | declareConstant n t v =>
    rw [exec_declareConstant]
    split
    · exact .still rfl rfl (Quiet.refl b) (.keep rfl)
    · exact .push rfl rfl (quiet_bound b _) _ (Quiet.refl _) (.keep rfl)
  | releaseVariable n =>
    rw [exec_releaseVariable]
    split
    · split
      · exact .push rfl rfl (quiet_unbound b n) _ (Quiet.refl _) (.keep rfl)
      · exact .still rfl rfl (Quiet.refl b) (.keep rfl)
    · exact .still rfl rfl (Quiet.refl b) (.keep rfl)
  | defineFunction f =>
    rw [exec_defineFunction]
    split
    · exact .still rfl rfl (Quiet.refl b) (.keep rfl)
    · exact .push rfl rfl (quiet_bound b _) _ (Quiet.refl _) (.keep rfl)
  | beginFunctionBody f =>
    rw [exec_beginFunctionBody]
    obtain ⟨hq, hc⟩ := quiet_bindParams
      ((b.entered f.name .function).appended ⟨.scopeBegin f.name .function, {}⟩) f.params
    exact .push rfl rfl (quiet_entered b _ _) _ hq (.keep hc)
  | defineClass d =>
    rw [exec_defineClass]
    split
    · exact .still rfl rfl (Quiet.refl b) (.keep rfl)
    · split
      · exact .still rfl rfl (Quiet.refl b) (.keep rfl)
      · next hfind =>
        have hlinks : ∀ k ∈ d.links, k < b.classes.size := fun k hk => by
          simpa using List.find?_eq_none.mp hfind k hk
        exact .push rfl rfl ((quiet_classes b _).trans (quiet_bound _ _)) _ (Quiet.refl _)
          (.register d hlinks rfl)
  | setClassParent d p =>
    rw [exec_setClassParent]
    split
    · next classes h =>
      exact .still rfl rfl (quiet_classes b classes) (.relink _ _ h)
    · exact .still rfl rfl (Quiet.refl b) (.keep rfl)
  | emit i =>
    rw [exec_emit]
    split
    · exact .still rfl rfl (Quiet.refl b) (.keep rfl)
    · exact .push rfl rfl (Quiet.refl b) _ (Quiet.refl _) (.keep rfl)
  | emitJump t =>
    rw [exec_emitJump]
    split
    · exact .push rfl rfl (Quiet.refl b) _ (Quiet.refl _) (.keep rfl)
    · exact .still rfl rfl (Quiet.refl b) (.keep rfl)
  | emitCondJump cond t f =>
    rw [exec_emitCondJump]
    split
    · exact .push rfl rfl (Quiet.refl b) _ (Quiet.refl _) (.keep rfl)
    · exact .still rfl rfl (Quiet.refl b) (.keep rfl)
  | emitBreak t =>
    rw [exec_emitBreak]
    split
    · split
      · exact .push rfl rfl (Quiet.refl b) _ (Quiet.refl _) (.keep rfl)
      · exact .still rfl rfl (Quiet.refl b) (.keep rfl)
    · exact .still rfl rfl (Quiet.refl b) (.keep rfl)
  | emitContinue t =>
    rw [exec_emitContinue]
    split
    · split
      · exact .push rfl rfl (Quiet.refl b) _ (Quiet.refl _) (.keep rfl)
      · exact .still rfl rfl (Quiet.refl b) (.keep rfl)
    · exact .still rfl rfl (Quiet.refl b) (.keep rfl)
  | checkpoint =>
    rw [exec_checkpoint]
    split
    · exact .push rfl rfl (Quiet.refl b) _ (Quiet.refl _) (.keep rfl)
    · exact .still rfl rfl (Quiet.refl b) (.keep rfl)
  | registerLibrary l =>
    have hrun := run_registerLibrary b l
    rw [exec_registerLibrary]
    split
    · next h =>
      obtain ⟨hs, hc, hm⟩ := h
      have hok : (Call.registerLibrary l).run.run b = .ok () (b.withLibrary l) := by
        rw [Call.run, hrun]
        simp [hs, hc, hm]
      exact .library l rfl hok hs ((firstMissing_eq_none_iff _ _).mp hm) rfl
    · next h =>
      refine .refused l rfl ?_ rfl
      rw [Call.run, hrun]
      by_cases hs : b.sealed
      · exact ⟨.lateLibraryRegistration l.name, by simp [hs]⟩
      · cases hc : firstClash b.scopes ScopeTree.root [] l.declaredNames with
        | some n => exact ⟨.redefinition n (b.scopes.uniqueName ScopeTree.root), by simp [hs]⟩
        | none =>
          cases hm : b.classes.firstMissing l.classes with
          | some k => exact ⟨.cls (.unknownClass k), by simp [hs]⟩
          | none => exact absurd ⟨by simpa using hs, hc, hm⟩ h

/-- Every call moves the class table in one of the ways a class table session does, or
appends a library's classes whose links name registered classes. -/
theorem OuterMove.classMove {b b' : Builder} {c : Call} (h : OuterMove b c b') :
    ClassMove b.classes b'.classes := by
  cases h with
  | library l _ _ _ links state =>
    exact .append l.classes links (by rw [state, withLibrary_classes])
  | refused _ _ _ same => exact .keep (by rw [same])
  | code _ _ _ _ _ _ _ _ classes => exact classes

/-! ### The class table of a run -/

/-- Every call keeps the class table of a builder well linked. -/
theorem wellLinked_exec {b : Builder} (hw : b.classes.WellLinked) (c : Call) :
    (b.exec c).classes.WellLinked :=
  hw.classMove (outerMove_exec b c).classMove

/-- A failed call leaves the class table as it was, even when it opened a function body. -/
theorem classes_of_error {b b' : Builder} {c : Call} {e : BuildError}
    (h : c.run.run b = .error e b') : b'.classes = b.classes := by
  by_cases hc : ∃ f, c = .beginFunctionBody f
  · obtain ⟨f, rfl⟩ := hc
    have hb : b' = b.exec (.beginFunctionBody f) := by simp [exec, h]
    rw [hb, exec_beginFunctionBody]
    exact classes_bindParams _ f.params
  · rw [run_error_eq b c e b' h fun f hf => hc ⟨f, hf⟩]

/-- Class links never form a cycle. Every class table that a session reaches from the empty
table, failed calls included, and the class table of every builder run, have sound links:
every link names a registered class, no class is its own parent or interface, and the walk up
from any class along parent links ends, meets no class twice, never meets the class it started
from, and is what `ancestors` returns. A failed call changes no class table, neither a call of
the table's own operations nor a builder call. -/
theorem class_links_never_cycle :
    (∀ cs : List ClassCall, (ClassTable.empty.execAll cs).SoundLinks) ∧
    (∀ (o : BuilderOptions) (cs : List Call), ((Builder.new o).execAll cs).classes.SoundLinks) ∧
    (∀ (t : ClassTable) (c : ClassCall) (e : ClassError), c.run t = .error e → t.exec c = t) ∧
    ∀ (b b' : Builder) (c : Call) (e : BuildError),
      c.run.run b = .error e b' → b'.classes = b.classes := by
  refine ⟨fun cs => (ClassTable.wellLinked_empty.execAll cs).sound, fun o cs => ?_,
    fun t c e h => by simp [ClassTable.exec, h], fun _ _ _ _ h => classes_of_error h⟩
  -- a fresh builder starts from the empty table, and every call keeps it well linked
  exact (execAll_induction (fun b => b.classes.WellLinked) (fun b c hw => wellLinked_exec hw c) cs
    (Builder.new o) ClassTable.wellLinked_empty).sound

end Builder

end ScopedIr
