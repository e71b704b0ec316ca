import ScopedIr.Proofs.Builder.Effects

/-!
# Library code first, program code stamped

A builder's stream holds two kinds of code. Library code is the initialization code of the
libraries registered, appended as it is, each instruction with the metadata its library gave
it. Program code is what every other call appends, each instruction stamped with the builder's
file name and debug flag and with the position the last `setPosition` before the call set.
A library can only be registered while no program code has been pushed, so the stream of every
run is all of its library code, in registration order, followed by all of its program code, in
call order; and registering a library fails as too late exactly when program code has been
pushed.
-/

namespace ScopedIr

namespace Builder

/-- What a call appends to the stream. -/
def appendedBy (b : Builder) (c : Call) : List Instruction :=
  (b.exec c).instructions.toList.drop b.instructions.size

/-- The initialization code a call registers: its library's, when it registers one and
succeeds. -/
def libraryInit (b : Builder) (c : Call) : List Instruction :=
  match c.library?, c.run.run b with
  | some l, .ok .. => l.init
  | _, _ => []

/-- The initialization code of the libraries a run registers, in call order. -/
def libraryCode : Builder → List Call → List Instruction
  | _, [] => []
  | b, c :: cs => b.libraryInit c ++ libraryCode (b.exec c) cs

/-- The program code a call pushes: what it appends, unless it registers a library. -/
def pushedBy (b : Builder) (c : Call) : List Instruction :=
  if c.library?.isSome then [] else b.appendedBy c

/-- The program code a run pushes, in call order. -/
def programCode : Builder → List Call → List Instruction
  | _, [] => []
  | b, c :: cs => b.pushedBy c ++ programCode (b.exec c) cs

end Builder

/-- The source position, line and column, that a sequence of calls leaves a fresh builder. -/
def lastPosition (cs : List Call) : Option Nat × Option Nat :=
  cs.foldl (fun pos c => c.position pos) (none, none)

/-- The metadata program code is stamped with, under the options `o` at the position `pos`. -/
def BuilderOptions.stamp (o : BuilderOptions) (pos : Option Nat × Option Nat) : Metadata :=
  { line := pos.1, column := pos.2, filename := o.filename, debug := o.debug }

namespace Builder

/-- A stream that is `lib` followed by `prog`, sealed exactly when `prog` is not empty. -/
def Layout (b : Builder) (lib prog : List Instruction) : Prop :=
  b.instructions.toList = lib ++ prog ∧ (b.sealed = true ↔ prog ≠ [])

theorem appendedBy_of_stream {b : Builder} {c : Call} {extra : List Instruction}
    (h : (b.exec c).instructions = b.instructions ++ extra.toArray) : b.appendedBy c = extra := by
  simp [appendedBy, h]

/-- Each call extends the layout: a library's code goes to the library part, which is only
possible while the program part is empty, and everything else to the program part. -/
theorem Layout.exec {b : Builder} {lib prog : List Instruction} (h : b.Layout lib prog) (c : Call) :
    (b.exec c).Layout (lib ++ b.libraryInit c) (prog ++ b.pushedBy c) := by
  cases outerMove_exec b c with
  | library l call ok unsealed _ state =>
    subst call
    -- registering is only possible while nothing has been pushed
    have hprog : prog = [] := by simpa [unsealed] using h.2
    have hinit : b.libraryInit (.registerLibrary l) = l.init := by simp [libraryInit, Call.library?, ok]
    have hpush : b.pushedBy (.registerLibrary l) = [] := by simp [pushedBy, Call.library?]
    rw [hinit, hpush, hprog, state]
    refine ⟨?_, ?_⟩
    · simp [h.1, hprog]
    · simp [unsealed]
  | refused l call fails same =>
    subst call
    obtain ⟨e, he⟩ := fails
    have hinit : b.libraryInit (.registerLibrary l) = [] := by
      simp [libraryInit, Call.library?, he]
    have hpush : b.pushedBy (.registerLibrary l) = [] := by simp [pushedBy, Call.library?]
    rw [hinit, hpush, same, List.append_nil, List.append_nil]
    exact h
  | code nl pushed stream _ sealed _ _ _ _ =>
    have hinit : b.libraryInit c = [] := by simp [libraryInit, nl]
    have hpush : b.pushedBy c = pushed := by simp [pushedBy, nl, appendedBy_of_stream stream]
    rw [hinit, hpush, List.append_nil]
    refine ⟨by simp [stream, h.1], ?_⟩
    rw [sealed, Bool.or_eq_true, h.2]
    cases pushed <;> simp

theorem Layout.execAll {b : Builder} {lib prog : List Instruction} (h : b.Layout lib prog)
    (cs : List Call) :
    (b.execAll cs).Layout (lib ++ libraryCode b cs) (prog ++ programCode b cs) := by
  induction cs generalizing b lib prog with
  | nil => simpa [libraryCode, programCode] using h
  | cons c cs ih =>
    have := ih (h.exec c)
    simpa [libraryCode, programCode] using this

/-- A fresh builder after a sequence of calls holds its library code followed by its program
code, and is sealed exactly when there is program code. -/
theorem layout_execAll (o : BuilderOptions) (cs : List Call) :
    ((Builder.new o).execAll cs).Layout (libraryCode (Builder.new o) cs)
      (programCode (Builder.new o) cs) := by
  simpa using (show (Builder.new o).Layout [] [] by simp [Layout, Builder.new]).execAll cs

/-- The position after a call is the one the call leaves. -/
theorem position_exec (b : Builder) (c : Call) :
    ((b.exec c).line, (b.exec c).column) = c.position (b.line, b.column) := by
  cases outerMove_exec b c with
  | library l call _ _ _ state => subst call; simp [state, Call.position]
  | refused l call _ same => subst call; simp [same, Call.position]
  | code _ _ _ _ _ _ _ position _ => exact position

theorem options_exec (b : Builder) (c : Call) : (b.exec c).options = b.options := by
  cases outerMove_exec b c with
  | library _ _ _ _ _ state => simp [state]
  | refused _ _ _ same => rw [same]
  | code _ _ _ _ _ _ options _ _ => exact options

/-- A fresh builder after a sequence of calls is at the position the last `setPosition` set,
and still has its options. -/
theorem metadata_execAll (o : BuilderOptions) (cs : List Call) :
    ((Builder.new o).execAll cs).metadata = o.stamp (lastPosition cs) := by
  have key : ∀ (b : Builder), ((b.execAll cs).line, (b.execAll cs).column) =
      cs.foldl (fun pos c => c.position pos) (b.line, b.column) ∧ (b.execAll cs).options = b.options := by
    induction cs with
    | nil => intro b; exact ⟨rfl, rfl⟩
    | cons c cs ih =>
      intro b
      obtain ⟨hp, ho⟩ := ih (b.exec c)
      refine ⟨?_, ho.trans (options_exec b c)⟩
      rw [execAll_cons, hp, position_exec, List.foldl_cons]
  obtain ⟨hp, ho⟩ := key (Builder.new o)
  -- a fresh builder has no position yet
  have hpos : (((Builder.new o).execAll cs).line, ((Builder.new o).execAll cs).column) =
      lastPosition cs := hp
  simp only [Prod.ext_iff] at hpos
  simp only [metadata, BuilderOptions.stamp, hpos.1, hpos.2, ho]
  rfl

/-- Registering a library fails as too late exactly when the builder is sealed. -/
theorem late_iff_sealed (b : Builder) (l : Library) :
    (∃ b', (Call.registerLibrary l).run.run b = .error (.lateLibraryRegistration l.name) b') ↔
      b.sealed = true := by
  rw [Call.run, run_registerLibrary]
  by_cases hs : b.sealed
  · simp [hs]
  · rw [if_neg hs]
    constructor
    · rintro ⟨b', h⟩
      split at h
      · cases h
      · split at h <;> cases h
    · exact fun h => absurd h hs

/-- A run's stream is the initialization code of the libraries it registered, in call order
and as the libraries gave it, followed by the program code its other calls pushed, in call
order. Every instruction a call other than a library registration pushes is stamped with the
builder's file name and debug flag and with the line and column of the last `setPosition`
before it (none if there was none). And registering a library fails as too late exactly when
some program code has been pushed. -/
theorem stream_is_library_code_then_program_code (o : BuilderOptions) (cs : List Call) :
    ((Builder.new o).execAll cs).instructions.toList =
        libraryCode (Builder.new o) cs ++ programCode (Builder.new o) cs ∧
      (∀ pre c post, cs = pre ++ c :: post → c.library? = none →
        ∀ i ∈ ((Builder.new o).execAll pre).appendedBy c, i.origin = o.stamp (lastPosition pre)) ∧
      ∀ l : Library,
        (∃ b', (Call.registerLibrary l).run.run ((Builder.new o).execAll cs) =
          .error (.lateLibraryRegistration l.name) b') ↔ programCode (Builder.new o) cs ≠ [] := by
  have hl := layout_execAll o cs
  refine ⟨hl.1, fun pre c _ _ hc i hi => ?_, fun l => (late_iff_sealed _ l).trans hl.2⟩
  -- a call that registers no library pushes code stamped with the metadata it found
  cases outerMove_exec ((Builder.new o).execAll pre) c with
  | library l call => subst call; cases hc
  | refused l call => subst call; cases hc
  | code _ pushed stream stamped =>
    rw [appendedBy_of_stream stream] at hi
    rw [stamped i hi, metadata_execAll]

end Builder

end ScopedIr
