import ScopedIr.Instr.Operand
import ScopedIr.Scope.Tree
import ScopedIr.Class.Table
import ScopedIr.Library

/-!
# Programs

A finished compilation unit: the instruction stream together with the scope tree, the class
table and the native registry it was built against. Its listing shows one instruction per
line, indented by two spaces per open scope: a `SCOPE_END` is dedented before it is written
(never below the margin) and a `SCOPE_BEGIN` indents what follows it.
-/

namespace ScopedIr

/-- A finished compilation unit. -/
structure Program where
  instructions : Array Instruction
  scopes : ScopeTree
  classes : ClassTable := {}
  natives : NativeRegistry := {}

namespace Program

/-- The lines of the listing, each with its indentation depth. -/
def indented (is : List Instruction) : List (Nat × Instruction) :=
  go 0 is
where
  /-- Walks the stream at scope depth `d`. -/
  go : Nat → List Instruction → List (Nat × Instruction)
    | _, [] => []
    | d, i :: rest =>
      let d := if i.op matches .scopeEnd then d - 1 else d
      (d, i) :: go (if i.op matches .scopeBegin .. then d + 1 else d) rest

/-- One instruction per line, each line ending in a newline. -/
def listing (p : Program) : String :=
  String.join <| (indented p.instructions.toList).map fun (d, i) =>
    String.ofList (List.replicate (2 * d) ' ') ++ i.render ++ "\n"

/-- Functions bound in the global scope, library ones included, ordered by name. -/
def globalFunctions (p : Program) : List Function :=
  ((p.scopes.scope ScopeTree.root).bindingsByName.filterMap fun d =>
    match d.symbol with
    | .function f => some f
    | _ => none)

end Program

end ScopedIr
