import ScopedIr.Symbol.Basic

/-!
# Classes

A class has a name, a kind (a plain class or an interface), optional links to a parent and
an interface (indices into the class table), and three ordered sets of members: methods,
constants and variables. A member set is a list kept strictly increasing in the member
type's order, so it holds each member once and lists members in that order; `insert`
reports whether the member was new.
-/

namespace ScopedIr

namespace OrderedSet

/-- Inserts `x` into the strictly increasing list `xs`; `false` when it was already there. -/
def insert {α} [Ord α] (x : α) : List α → Bool × List α
  | [] => (true, [x])
  | y :: ys =>
    match compare x y with
    | .lt => (true, x :: y :: ys)
    | .eq => (false, y :: ys)
    | .gt => let (fresh, rest) := insert x ys; (fresh, y :: rest)

/-- The strictly increasing list of the members of `xs`. -/
def ofList {α} [Ord α] (xs : List α) : List α :=
  xs.foldl (fun acc x => (insert x acc).2) []

theorem insert_nil {α} [Ord α] (x : α) : insert x [] = (true, [x]) := rfl

end OrderedSet

/-- Whether a class is a plain class or a capability contract other classes point at. -/
inductive ClassKind where
  | plain
  | interface
  deriving DecidableEq, Repr, Inhabited

/-- The name of a class kind. -/
def ClassKind.name : ClassKind → String
  | plain => "class"
  | interface => "interface"

/-- A class definition. Links are class table indices; members are ordered sets. -/
structure ClassDef where
  name : String
  kind : ClassKind := .plain
  /-- Single implementation inheritance. -/
  parent : Option Nat := none
  interface : Option Nat := none
  methods : List Function := []
  constants : List Constant := []
  fields : List Variable := []
  deriving DecidableEq, Repr, Inhabited

namespace ClassDef

/-- The method named `n` declared on this class, the least in method order. -/
def method? (c : ClassDef) (n : String) : Option Function := c.methods.find? (·.name == n)

/-- Adds a method; `false` when the class already declares this exact method. -/
def addMethod (c : ClassDef) (m : Function) : Bool × ClassDef :=
  let (fresh, ms) := OrderedSet.insert m c.methods
  (fresh, { c with methods := ms })

/-- Adds a constant; `false` when it is already there. -/
def addConstant (c : ClassDef) (k : Constant) : Bool × ClassDef :=
  let (fresh, ks) := OrderedSet.insert k c.constants
  (fresh, { c with constants := ks })

/-- Adds a variable; `false` when it is already there. -/
def addVariable (c : ClassDef) (v : Variable) : Bool × ClassDef :=
  let (fresh, vs) := OrderedSet.insert v c.fields
  (fresh, { c with fields := vs })

/-- A class with the given members, each set built from its list. -/
def make (name : String) (kind : ClassKind) (parent interface : Option Nat)
    (methods : List Function) (constants : List Constant) (fields : List Variable) :
    ClassDef :=
  { name, kind, parent, interface, methods := OrderedSet.ofList methods,
    constants := OrderedSet.ofList constants, fields := OrderedSet.ofList fields }

end ClassDef

end ScopedIr
