import ScopedIr.Builder.Basic

/-!
# Scopes and declarations in a builder

Opening a scope creates it below the current scope, appends its `SCOPE_BEGIN` and moves the
cursor into it; closing appends `SCOPE_END` and moves the cursor back to the parent.
Declarations bind their symbol in the current scope and then append their instruction. A
function body is a `function` scope named after the function in which each parameter is
bound as a variable, one after the other: a clash between two parameter names fails after the
scope is already open and the earlier parameters are bound.
-/

namespace ScopedIr

namespace Builder

/-- Opens a child scope of the current scope and enters it. -/
def beginScope (name : String) (kind : ScopeKind) : BuildM ScopeId := do
  let b ← get
  let (c, scopes) := b.scopes.createChild b.current name kind
  set { b with scopes }
  push ⟨.scopeBegin name kind, {}⟩
  modify fun b => { b with current := c }
  return c

/-- Closes the current scope and returns to its parent; refused at the global scope. -/
def endScope : BuildM ScopeId := do
  let b ← get
  if !b.scopes.hasParent b.current then throw .unbalancedScopeEnd
  push ⟨.scopeEnd, {}⟩
  modify fun b => { b with current := b.scopes.parentOf b.current }
  return b.current

/-- Declares a variable in the current scope. -/
def declareVariable (name : String) (type : DataType) : BuildM Decl := do
  let d ← register (.variable ⟨name, type⟩)
  push ⟨.declare (.variable ⟨name, type⟩), {}⟩
  return d

/-- Declares a constant in the current scope. -/
def declareConstant (name : String) (type : DataType) (value : ConstValue) : BuildM Decl := do
  let d ← register (.constant ⟨name, type, value⟩)
  push ⟨.declare (.constant ⟨name, type, value⟩), {}⟩
  return d

/-- Ends the lifetime of a variable bound in exactly the current scope. -/
def releaseVariable (name : String) : BuildM Unit := do
  let b ← get
  let d ← liftScope (b.scopes.findSymbol b.current name)
  if d.symbol.kind != .variable then throw (.unexpectedSymbol name .variable d.symbol.kind)
  let (_, scopes) ← liftScope (b.scopes.releaseSymbol b.current name)
  set { b with scopes }
  push ⟨.release name, {}⟩

/-- Binds a function in the current scope and appends its `FUNCTION` instruction. -/
def defineFunction (f : Function) : BuildM Decl := do
  let d ← register (.function f)
  push ⟨.function f, {}⟩
  return d

/-- Opens the body scope of `f` and binds its parameters there, in order. -/
def beginFunctionBody (f : Function) : BuildM ScopeId := do
  let body ← beginScope f.name .function
  for p in f.params do
    discard (register (.variable p.toVariable))
  return body

/-- Registers a class in the class table, binds it in the current scope and appends its
`CLASS` instruction. -/
def defineClass (c : ClassDef) : BuildM Decl := do
  let b ← get
  if b.scopes.hasSymbol b.current c.name then throw (.redefinition c.name b.currentName)
  let (r, classes) ← liftClass (b.classes.register c)
  set { b with classes }
  let d ← register (.classRef r)
  push ⟨.classDef r, {}⟩
  return d

/-- Links a registered class to a parent, or unlinks it. -/
def setClassParent (c : ClassRef) (p : Option ClassRef) : BuildM Unit := do
  let b ← get
  let classes ← liftClass (b.classes.setParent c.index (p.map (·.index)))
  set { b with classes }

end Builder

end ScopedIr
