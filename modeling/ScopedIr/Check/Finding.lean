import ScopedIr.Instr.Basic

/-!
# Findings

What the well-formedness check reports about a program: the index of the offending
instruction, that instruction's metadata, and the problem. Each problem has a code (its
name), a message, and the label a report puts under the offending token.
-/

namespace ScopedIr

/-- A problem the check finds at one instruction. -/
inductive Problem where
  /-- A `SCOPE_END` with no open scope. -/
  | unmatchedScopeEnd
  /-- A `SCOPE_BEGIN` never closed; `name` is the path name of the scope it entered. -/
  | unclosedScope (name : String)
  /-- A `SCOPE_BEGIN` naming no fresh child scope of that name and kind. -/
  | unknownScope (name : String) (kind : ScopeKind)
  /-- A jump target that does not resolve. -/
  | unresolvedTarget (target : String)
  /-- A `BREAK` or `CONTINUE` target that is not a loop scope. -/
  | notALoop (target : String)
  /-- A variable used where no open scope declares it. -/
  | undeclaredVariable (name : String)
  /-- A `VAR_RELEASE` of a name the innermost scope does not declare. -/
  | releaseUndeclared (name : String)
  deriving DecidableEq, Repr

/-- One finding: where, with which metadata, and what. -/
structure Finding where
  index : Nat
  origin : Metadata
  problem : Problem
  deriving DecidableEq, Repr

namespace Finding

/-- The name of the problem. -/
def code (f : Finding) : String :=
  match f.problem with
  | .unmatchedScopeEnd => "UnmatchedScopeEnd"
  | .unclosedScope .. => "UnclosedScope"
  | .unknownScope .. => "UnknownScope"
  | .unresolvedTarget .. => "UnresolvedTarget"
  | .notALoop .. => "NotALoop"
  | .undeclaredVariable .. => "UndeclaredVariable"
  | .releaseUndeclared .. => "ReleaseUndeclared"

/-- The message of the finding. -/
def message (f : Finding) : String :=
  match f.problem with
  | .unmatchedScopeEnd => "SCOPE_END at " ++ toString f.index ++ " closes no scope"
  | .unclosedScope name => "scope " ++ Text.quote name ++ " is never closed"
  | .unknownScope name kind =>
    "no " ++ kind.name ++ " scope " ++ Text.quote name ++ " under the current scope"
  | .unresolvedTarget t => "jump target " ++ Text.quote t ++ " does not resolve"
  | .notALoop t => Text.quote t ++ " is not a loop"
  | .undeclaredVariable name => "variable " ++ Text.quote name ++ " is used before being declared"
  | .releaseUndeclared name =>
    "variable " ++ Text.quote name ++ " is released but not declared in this scope"

/-- The label a report puts under the offending token. -/
def label (f : Finding) : String :=
  match f.problem with
  | .unmatchedScopeEnd => "This closes a scope that was never opened"
  | .unclosedScope name => "Scope " ++ Text.quote name ++ " opened here"
  | .unknownScope name kind => "No " ++ kind.name ++ " scope " ++ Text.quote name ++ " was created here"
  | .unresolvedTarget t => "Target " ++ Text.quote t ++ " not found"
  | .notALoop t => Text.quote t ++ " is not a loop"
  | .undeclaredVariable name => "Variable " ++ Text.quote name ++ " not declared"
  | .releaseUndeclared name => "Variable " ++ Text.quote name ++ " is not declared in this scope"

end Finding

end ScopedIr
