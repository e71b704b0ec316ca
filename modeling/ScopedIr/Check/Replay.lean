import ScopedIr.Program
import ScopedIr.Check.Finding

/-!
# Checking a program

The check replays the instruction stream against the finished scope tree. It keeps a stack
of frames, the global scope's frame at the bottom for good; each frame records the scope it
stands for, the index of the `SCOPE_BEGIN` that opened it and the names declared in it.

* `SCOPE_BEGIN` enters the first child of the current scope with that name and kind that has
  not been entered yet; when there is none it reports `unknownScope` and stays in the
  current scope, still pushing a frame. A `function` scope starts with the parameters of the
  last `FUNCTION` instruction declared, and uses them up.
* `SCOPE_END` pops a frame, or reports `unmatchedScopeEnd` when only the bottom frame is left.
* `DECLARE` declares its slot's name in the innermost frame; `VAR_RELEASE` removes a name
  declared there or reports `releaseUndeclared`.
* `BREAK`, `CONTINUE`, `JUMP` and `COND_JUMP` resolve their targets from the current scope.
* Every other instruction, jumps included, must use only variables declared in some frame.

After the stream, every frame above the bottom one is reported as `unclosedScope`, innermost
first, at the index and with the metadata of its `SCOPE_BEGIN`.
-/

namespace ScopedIr

/-- One open scope of the replay. -/
structure Frame where
  scope : ScopeId
  /-- Index of the `SCOPE_BEGIN` that opened it. -/
  openedAt : Nat
  declared : List String := []
  deriving Repr, Inhabited

/-- The state of a replay. -/
structure Replay where
  /-- Open frames, innermost first; the last one is the global scope's. -/
  frames : List Frame
  /-- Scopes entered so far. -/
  entered : List ScopeId := []
  /-- Parameters of the last `FUNCTION`, for the next function scope. -/
  params : List String := []
  findings : Array Finding := #[]
  deriving Repr, Inhabited

namespace Replay

/-- The replay before the first instruction. -/
def start : Replay := { frames := [{ scope := ScopeTree.root, openedAt := 0 }] }

/-- The scope of the innermost frame. -/
def current (r : Replay) : ScopeId := (r.frames.head?.map (·.scope)).getD ScopeTree.root

/-- Whether some open frame declares `n`. -/
def isDeclared (r : Replay) (n : String) : Bool := r.frames.any (·.declared.contains n)

/-- Records a finding. -/
def report (r : Replay) (f : Finding) : Replay := { r with findings := r.findings.push f }

/-- Enters the scope a `SCOPE_BEGIN` names. -/
def enter (t : ScopeTree) (r : Replay) (index : Nat) (m : Metadata) (n : String)
    (k : ScopeKind) : Replay :=
  let parent := r.current
  let fresh := (t.children parent).find? fun c =>
    (t.scope c).name == n && (t.scope c).kind == k && !r.entered.contains c
  let (r, scope) := match fresh with
    | some c => ({ r with entered := r.entered ++ [c] }, c)
    | none => (r.report ⟨index, m, .unknownScope n k⟩, parent)
  let (r, declared) := if k == ScopeKind.function then ({ r with params := [] }, r.params.eraseDups)
    else (r, [])
  { r with frames := { scope, openedAt := index, declared } :: r.frames }

/-- Reports every variable of `i` that no open frame declares. -/
def checkVariables (r : Replay) (index : Nat) (i : Instruction) : Replay :=
  i.usedVariables.foldl (fun r n =>
    if r.isDeclared n then r else r.report ⟨index, i.origin, .undeclaredVariable n⟩) r

/-- Replays one instruction. -/
def visit (t : ScopeTree) (r : Replay) (index : Nat) (i : Instruction) : Replay :=
  let m := i.origin
  match i.op with
  | .scopeBegin n k => r.enter t index m n k
  | .scopeEnd =>
    match r.frames with
    | _ :: below@(_ :: _) => { r with frames := below }
    | _ => r.report ⟨index, m, .unmatchedScopeEnd⟩
  | .function f => { r with params := f.params.map (·.name) }
  | .declare s =>
    match r.frames with
    | top :: below =>
      { r with frames := { top with declared := top.declared.insert s.name } :: below }
    | [] => r
  | .release n =>
    match r.frames with
    | top :: below =>
      if top.declared.contains n then
        { r with frames := { top with declared := top.declared.erase n } :: below }
      else r.report ⟨index, m, .releaseUndeclared n⟩
    | [] => r.report ⟨index, m, .releaseUndeclared n⟩
  | .breakLoop target | .continueLoop target =>
    let r := match t.resolveScope r.current target with
      | .ok s => if (t.scope s).kind == ScopeKind.loop then r else r.report ⟨index, m, .notALoop target⟩
      | .error _ => r.report ⟨index, m, .unresolvedTarget target⟩
    r.checkVariables index i
  | .jump .. | .condJump .. =>
    let r := i.targets.foldl (fun r target =>
      match t.resolveScope r.current target with
      | .ok _ => r
      | .error _ => r.report ⟨index, m, .unresolvedTarget target⟩) r
    r.checkVariables index i
  | _ => r.checkVariables index i

end Replay

/-- Runs every check and returns the findings in program order, unclosed scopes last and
innermost first. -/
def Program.findings (p : Program) : List Finding :=
  let r := p.instructions.toList.zipIdx.foldl (fun r (i, k) => r.visit p.scopes k i) Replay.start
  let unclosed := r.frames.dropLast.map fun f =>
    ⟨f.openedAt, (p.instructions[f.openedAt]?.map (·.origin)).getD {},
      .unclosedScope (p.scopes.uniqueName f.scope)⟩
  r.findings.toList ++ unclosed

end ScopedIr
