import ScopedIr.Class.Table

/-!
# Class table sessions

A client drives a class table through its updating operations, one call after another:
registering classes, relinking parents and interfaces, and adding members. A call that fails
leaves the table as it was, and the session goes on from there.
-/

namespace ScopedIr

/-- A call of a class table operation that may change the table, with its arguments. -/
inductive ClassCall where
  | register (c : ClassDef)
  | setParent (i : Nat) (parent : Option Nat)
  | setInterface (i : Nat) (interface : Option Nat)
  | addMethod (i : Nat) (m : Function)
  | addConstant (i : Nat) (k : Constant)
  | addVariable (i : Nat) (v : Variable)

/-- The table a call leaves when it succeeds, or why it fails. -/
def ClassCall.run : ClassCall → ClassTable → Except ClassError ClassTable
  | register c, t => (·.2) <$> t.register c
  | setParent i p, t => t.setParent i p
  | setInterface i k, t => t.setInterface i k
  | addMethod i m, t => (·.2) <$> t.addMember i (·.addMethod m)
  | addConstant i k, t => (·.2) <$> t.addMember i (·.addConstant k)
  | addVariable i v, t => (·.2) <$> t.addMember i (·.addVariable v)

namespace ClassTable

/-- The table after a call; a failed call leaves it as it was. -/
def exec (t : ClassTable) (c : ClassCall) : ClassTable :=
  match c.run t with
  | .ok t' => t'
  | .error _ => t

/-- The table after a sequence of calls. -/
def execAll (t : ClassTable) : List ClassCall → ClassTable
  | [] => t
  | c :: cs => (t.exec c).execAll cs

end ClassTable

end ScopedIr
