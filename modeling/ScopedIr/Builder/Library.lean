import ScopedIr.Builder.Basic

/-!
# Libraries in a builder and finishing

A library is registered into the global scope before any program code. Registration checks
everything first: the builder must not be sealed, the names the library declares (functions,
then constants, then classes) must differ from each other and from every global binding, and
every class link must name a registered class. Only then does it bind the functions and
constants globally, register and bind the classes, append the initialization code as it is
(without stamping it and without sealing), and record the natives.

Finishing hands out the program, and fails while a scope is still open.
-/

namespace ScopedIr

namespace Builder

/-- The first name of `names` that occurs earlier in the list or is bound in `scope`. -/
def firstClash (t : ScopeTree) (scope : ScopeId) : List String → List String → Option String
  | _, [] => none
  | seen, n :: rest =>
    if seen.contains n || t.hasSymbol scope n then some n else firstClash t scope (n :: seen) rest

/-- Binds `d` in the global scope with a fresh serial. -/
def bindGlobal (s : Symbol) : BuildM Unit :=
  modify fun b =>
    { b with scopes := (b.scopes.addSymbol ScopeTree.root ⟨s, b.nextSerial⟩ false).2,
             nextSerial := b.nextSerial + 1 }

/-- Registers a library before any program code. -/
def registerLibrary (l : Library) : BuildM Unit := do
  let b ← get
  if b.sealed then throw (.lateLibraryRegistration l.name)
  if let some n := firstClash b.scopes ScopeTree.root [] l.declaredNames then
    throw (.redefinition n (b.scopes.uniqueName ScopeTree.root))
  for c in l.classes do
    for link in c.parent.toList ++ c.interface.toList do
      discard (liftClass (b.classes.tryGet link))
  for f in l.functions do bindGlobal (.function f)
  for (k, _) in l.constants do bindGlobal (.constant k)
  for c in l.classes do
    let b ← get
    let (r, classes) ← liftClass (b.classes.register c)
    set { b with classes }
    bindGlobal (.classRef r)
  modify fun b =>
    { b with instructions := b.instructions ++ l.init.toArray, natives := b.natives.record l }

/-- The finished program; fails while a scope other than the global one is open. -/
def finish (b : Builder) : Except BuildError Program :=
  if b.current != ScopeTree.root then .error (.unclosedScope b.currentName)
  else .ok { instructions := b.instructions, scopes := b.scopes, classes := b.classes,
             natives := b.natives }

end Builder

end ScopedIr
