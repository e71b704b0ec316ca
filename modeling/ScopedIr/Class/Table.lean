import ScopedIr.Class.Basic

/-!
# Class tables

The arena of every class of a compilation unit. A class is named by its index, the order of
registration; nothing is ever removed. Registration and relinking check that links name
registered classes, that no class links to itself, and that a new parent does not already
descend from the class, so the parent links never form a cycle.

The ancestors of a class are its parent chain, nearest first. Method resolution takes the
first class of the class and its ancestors that declares a method of the name, and there
the least such method.
-/

namespace ScopedIr

/-- Why a class table operation failed. -/
inductive ClassError where
  | unknownClass (index : Nat)
  | selfReference (name : String)
  | cyclicParent (name parent : String)
  deriving DecidableEq, Repr

namespace ClassError

/-- The name of the error variant. -/
def kindName : ClassError → String
  | unknownClass .. => "UnknownClass"
  | selfReference .. => "SelfReference"
  | cyclicParent .. => "CyclicParent"

/-- The message of the error. -/
def message : ClassError → String
  | unknownClass index => "class index " ++ toString index ++ " is not registered"
  | selfReference name => "class " ++ Text.quote name ++ " can't be its own parent or interface"
  | cyclicParent name parent =>
    "setting " ++ Text.quote parent ++ " as parent of " ++ Text.quote name ++
      " would create an inheritance cycle"

end ClassError

/-- Every class of a compilation unit, by index. -/
structure ClassTable where
  classes : Array ClassDef := #[]
  deriving Repr, Inhabited

namespace ClassTable

/-- The empty table. -/
def empty : ClassTable := {}

/-- Number of classes. -/
def size (t : ClassTable) : Nat := t.classes.size

/-- The class with index `i`, if registered. -/
def get? (t : ClassTable) (i : Nat) : Option ClassDef := t.classes[i]?

/-- The class with index `i`, or `unknownClass`. -/
def tryGet (t : ClassTable) (i : Nat) : Except ClassError ClassDef :=
  match t.get? i with
  | some c => .ok c
  | none => .error (.unknownClass i)

/-- The parent link of class `i`, if it is registered and has one. -/
def parentOf? (t : ClassTable) (i : Nat) : Option Nat := (t.get? i).bind (·.parent)

/-- The parent chain of `i`, nearest first, without `i`. A chain of an acyclic table visits
each class at most once, so it has fewer links than the table has classes. -/
def ancestors (t : ClassTable) (i : Nat) : List Nat := go t.size (t.parentOf? i)
where
  /-- Follows parent links from `next`, at most `fuel` of them. -/
  go : Nat → Option Nat → List Nat
    | 0, _ => []
    | _, none => []
    | fuel + 1, some p => p :: go fuel (t.parentOf? p)

/-- Whether `i` is `j` or descends from it. -/
def isSubclassOf (t : ClassTable) (i j : Nat) : Bool := i == j || (t.ancestors i).contains j

/-- The method named `n` of the first class among `i` and its ancestors that declares one. -/
def resolveMethod (t : ClassTable) (i : Nat) (n : String) : Option Function :=
  (i :: t.ancestors i).findSome? fun k => (t.get? k).bind (·.method? n)

/-- The lowest index of a class named `n`. -/
def find? (t : ClassTable) (n : String) : Option ClassRef :=
  (t.classes.toList.zipIdx.find? (·.1.name == n)).map fun (c, i) => ⟨c.name, i⟩

/-- The table with class `i` changed by `f`. -/
def modify (t : ClassTable) (i : Nat) (f : ClassDef → ClassDef) : ClassTable :=
  ⟨t.classes.modify i f⟩

/-- Registers a class whose links name registered classes (the parent is checked first), and
returns the reference a scope binds for it. -/
def register (t : ClassTable) (c : ClassDef) : Except ClassError (ClassRef × ClassTable) := do
  if let some p := c.parent then discard (t.tryGet p)
  if let some k := c.interface then discard (t.tryGet k)
  return (⟨c.name, t.size⟩, ⟨t.classes.push c⟩)

/-- Links class `i` to a parent, or unlinks it. Refuses a link to itself, to an unknown class,
and to a class that already descends from `i`. -/
def setParent (t : ClassTable) (i : Nat) (p : Option Nat) : Except ClassError ClassTable := do
  let c ← t.tryGet i
  if let some p := p then
    if p = i then throw (.selfReference c.name)
    let pc ← t.tryGet p
    if (t.ancestors p).contains i then throw (.cyclicParent c.name pc.name)
  return t.modify i ({ · with parent := p })

/-- Links class `i` to an interface, or unlinks it. Refuses a link to itself or to an unknown
class. -/
def setInterface (t : ClassTable) (i : Nat) (k : Option Nat) : Except ClassError ClassTable := do
  let c ← t.tryGet i
  if let some k := k then
    if k = i then throw (.selfReference c.name)
    discard (t.tryGet k)
  return t.modify i ({ · with interface := k })

/-- Adds a member to class `i` with `add`, reporting whether it was new. -/
def addMember (t : ClassTable) (i : Nat) (add : ClassDef → Bool × ClassDef) :
    Except ClassError (Bool × ClassTable) := do
  let c ← t.tryGet i
  let (fresh, c) := add c
  return (fresh, t.modify i fun _ => c)

end ClassTable

end ScopedIr
