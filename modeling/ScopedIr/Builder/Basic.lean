import ScopedIr.Program

/-!
# Builders

A builder grows a program while keeping its instruction stream, scope tree and cursor (the
current scope) in step, and binds every symbol in its scope before any instruction refers to
it. Every instruction it appends is stamped with the builder's options (file name, debug
flag) and its last source position; appending program code seals the builder against later
library registration.

A builder operation runs in `BuildM`: it either succeeds with a value or fails with a
`BuildError`, and in both cases leaves the builder as its steps made it. Most operations
check everything before changing anything, so a failure leaves the builder as it was.
-/

namespace ScopedIr

/-- What a builder stamps on every instruction it appends. -/
structure BuilderOptions where
  filename : Option String := none
  debug : Bool := false
  deriving Repr, Inhabited

/-- Why a builder operation failed. Scope, class and instruction errors pass through as
they are. -/
inductive BuildError where
  | scope (e : ScopeError)
  | cls (e : ClassError)
  | instr (e : InstrError)
  | redefinition (name scope : String)
  | unexpectedSymbol (name : String) (expected found : SymbolKind)
  | structuralInstruction (opcode : String)
  | unbalancedScopeEnd
  | unclosedScope (scope : String)
  | notALoop (name : String)
  | lateLibraryRegistration (library : String)
  deriving DecidableEq, Repr

namespace BuildError

/-- The family and name of the error, as `Family::Name`. -/
def kindName : BuildError → String
  | scope e => "ScopeError::" ++ e.kindName
  | cls e => "ClassError::" ++ e.kindName
  | instr e => "InstructionError::" ++ e.kindName
  | redefinition .. => "BuilderError::Redefinition"
  | unexpectedSymbol .. => "BuilderError::UnexpectedSymbol"
  | structuralInstruction .. => "BuilderError::StructuralInstruction"
  | unbalancedScopeEnd => "BuilderError::UnbalancedScopeEnd"
  | unclosedScope .. => "BuilderError::UnclosedScope"
  | notALoop .. => "BuilderError::NotALoop"
  | lateLibraryRegistration .. => "BuilderError::LateLibraryRegistration"

/-- The message of the error. -/
def message : BuildError → String
  | scope e => e.message
  | cls e => e.message
  | instr e => e.message
  | redefinition name path =>
    "symbol " ++ Text.quote name ++ " is already defined in scope " ++ Text.quote path
  | unexpectedSymbol name expected found =>
    "expected " ++ expected.name ++ " " ++ Text.quote name ++ ", found " ++ found.name
  | structuralInstruction opcode =>
    opcode ++ " can only be emitted through its dedicated builder method"
  | unbalancedScopeEnd => "scope end without an open scope"
  | unclosedScope path => "scope " ++ Text.quote path ++ " was never closed"
  | notALoop name => Text.quote name ++ " is not a loop scope"
  | lateLibraryRegistration library =>
    "library " ++ Text.quote library ++ " must be registered before any program code"

end BuildError

/-- The state of a builder. -/
structure Builder where
  scopes : ScopeTree := .empty
  classes : ClassTable := {}
  natives : NativeRegistry := {}
  instructions : Array Instruction := #[]
  /-- The scope new symbols and instructions belong to. -/
  current : ScopeId := ScopeTree.root
  options : BuilderOptions := {}
  line : Option Nat := none
  column : Option Nat := none
  /-- Set once the first program instruction is appended. -/
  sealed : Bool := false
  /-- The serial the next declaration gets. -/
  nextSerial : Nat := 0
  deriving Inhabited

/-- A builder operation. -/
abbrev BuildM := EStateM BuildError Builder

namespace Builder

/-- A fresh builder with the given options. -/
def new (options : BuilderOptions) : Builder := { options }

/-- The metadata stamped on the next instruction. -/
def metadata (b : Builder) : Metadata :=
  { line := b.line, column := b.column, filename := b.options.filename, debug := b.options.debug }

/-- Path name of the current scope. -/
def currentName (b : Builder) : String := b.scopes.uniqueName b.current

/-- Sets the source position stamped on the following instructions. -/
def setPosition (line column : Nat) : BuildM Unit :=
  modify fun b => { b with line := some line, column := some column }

/-- Appends program code at the current position and seals the builder. -/
def push (i : Instruction) : BuildM Unit :=
  modify fun b =>
    { b with sealed := true, instructions := b.instructions.push (i.withMeta b.metadata) }

/-- Fails with `e`, lifted into the builder's errors. -/
def liftScope {α} : Except ScopeError α → BuildM α
  | .ok a => pure a
  | .error e => throw (.scope e)

/-- Fails with `e`, lifted into the builder's errors. -/
def liftClass {α} : Except ClassError α → BuildM α
  | .ok a => pure a
  | .error e => throw (.cls e)

/-- Fails with `e`, lifted into the builder's errors. -/
def liftInstr {α} : Except InstrError α → BuildM α
  | .ok a => pure a
  | .error e => throw (.instr e)

/-- The nearest binding of `n`, seen from the current scope. -/
def resolve (b : Builder) (n : String) : Except BuildError Decl :=
  match b.scopes.resolveSymbol b.current n with
  | .ok d => .ok d
  | .error e => .error (.scope e)

/-- The nearest binding of `n`, which must name a value: a literal, constant or variable. -/
def resolveValue (b : Builder) (n : String) : Except BuildError (Decl × Value) := do
  let d ← b.resolve n
  match d.symbol with
  | .literal v => return (d, .literal v)
  | .constant c => return (d, .constant c)
  | .variable v => return (d, .variable v)
  | s => throw (.unexpectedSymbol n .variable s.kind)

/-- The nearest binding of `n`, which must be a variable. -/
def resolveVariable (b : Builder) (n : String) : Except BuildError (Decl × Variable) := do
  let d ← b.resolve n
  match d.symbol with
  | .variable v => return (d, v)
  | s => throw (.unexpectedSymbol n .variable s.kind)

/-- The nearest binding of `n`, which must be a function. -/
def resolveFunction (b : Builder) (n : String) : Except BuildError (Decl × Function) := do
  let d ← b.resolve n
  match d.symbol with
  | .function f => return (d, f)
  | s => throw (.unexpectedSymbol n .function s.kind)

/-- The nearest binding of `n`, which must be a class. -/
def resolveClass (b : Builder) (n : String) : Except BuildError (Decl × ClassRef) := do
  let d ← b.resolve n
  match d.symbol with
  | .classRef c => return (d, c)
  | s => throw (.unexpectedSymbol n .classRef s.kind)

/-- Binds `s` in the current scope as a fresh declaration; refused when the name is already
bound there. -/
def register (s : Symbol) : BuildM Decl := do
  let b ← get
  if b.scopes.hasSymbol b.current s.name then throw (.redefinition s.name b.currentName)
  let d : Decl := ⟨s, b.nextSerial⟩
  set { b with scopes := (b.scopes.addSymbol b.current d false).2, nextSerial := b.nextSerial + 1 }
  return d

end Builder

end ScopedIr
