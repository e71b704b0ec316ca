import ScopedIr.Symbol.Basic
import ScopedIr.Scope.Kind

/-!
# Scope trees

All scopes of a compilation unit live in one arena; a scope is named by its index there, the
global scope is `0`, and every other scope records its parent, which was created before it
(so a parent's index is below its child's). Each scope binds names to declarations and lists
its children in creation order.

Two families of lookups exist. Single-level lookups (`findSymbol`, `findScope`) look at one
scope. Climbing lookups (`resolveSymbol`, `resolveScope`) walk the chain of a scope and its
ancestors, nearest first, and take the first level that has an answer: for symbols the
level's own table, for scopes the level's children, first in creation order. The path name
of a scope (`uniqueName`) joins the names from the global scope down, restarting below any
scope of kind `global`.
-/

namespace ScopedIr

/-- Handle of a scope: its index in the tree's arena. The global scope is `0`. -/
abbrev ScopeId := Nat

/-- Name of the global scope, and the first segment of every path name. -/
def globalScopeName : String := "global"

/-- Why a scope lookup or update failed. `scope` is the path name of the scope where the
search started. -/
inductive ScopeError where
  | missingSymbol (name scope : String)
  | undefinedSymbol (name scope : String)
  | undefinedScope (name scope : String)
  deriving DecidableEq, Repr

namespace ScopeError

/-- The name of the error variant. -/
def kindName : ScopeError → String
  | missingSymbol .. => "MissingSymbol"
  | undefinedSymbol .. => "UndefinedSymbol"
  | undefinedScope .. => "UndefinedScope"

/-- The message of the error. -/
def message : ScopeError → String
  | missingSymbol name scope =>
    "symbol " ++ Text.quote name ++ " does not exist in scope " ++ Text.quote scope
  | undefinedSymbol name _ => "undefined symbol " ++ Text.quote name
  | undefinedScope name _ => "undefined scope " ++ Text.quote name

end ScopeError

/-- One lexical region. -/
structure Scope where
  /-- Unique only among siblings, if at all. -/
  name : String
  /-- `none` only for the global scope. -/
  parent : Option ScopeId
  kind : ScopeKind
  /-- The bindings of this scope, at most one per name. -/
  table : List Decl := []
  /-- Children in creation order. -/
  children : List ScopeId := []
  deriving Repr, Inhabited

namespace Scope

/-- The binding of `n` in this scope. -/
def lookup (s : Scope) (n : String) : Option Decl := s.table.find? (·.name == n)

/-- The table with `d` bound under its name, replacing an earlier binding of that name. -/
def bind (s : Scope) (d : Decl) : Scope :=
  { s with table := d :: s.table.filter (·.name != d.name) }

/-- The table without a binding of `n`. -/
def unbind (s : Scope) (n : String) : Scope :=
  { s with table := s.table.filter (·.name != n) }

/-- The bindings ordered by name. -/
def bindingsByName (s : Scope) : List Decl :=
  s.table.mergeSort fun a b => decide (a.name ≤ b.name)

theorem lookup_bind_self (s : Scope) (d : Decl) : (s.bind d).lookup d.name = some d := by
  simp [lookup, bind]

theorem lookup_bind_of_ne (s : Scope) (d : Decl) {n : String} (h : n ≠ d.name) :
    (s.bind d).lookup n = s.lookup n := by
  simp only [lookup, bind, List.find?_cons, List.find?_filter]
  have : (d.name == n) = false := by simp [Ne.symm h]
  simp only [this]
  congr 1
  funext x
  by_cases hx : x.name = n <;> simp [hx, h]

end Scope

/-- The arena of every scope of a compilation unit, rooted at the global scope. -/
structure ScopeTree where
  scopes : Array Scope
  deriving Repr, Inhabited

namespace ScopeTree

/-- A tree holding only the global scope. -/
def empty : ScopeTree := ⟨#[{ name := globalScopeName, parent := none, kind := .global }]⟩

/-- The global scope. -/
def root : ScopeId := 0

/-- Number of scopes. -/
def size (t : ScopeTree) : Nat := t.scopes.size

/-- The scope with handle `s`, if the tree created it. -/
def get? (t : ScopeTree) (s : ScopeId) : Option Scope := t.scopes[s]?

/-- Whether the tree created the scope `s`. -/
def contains (t : ScopeTree) (s : ScopeId) : Bool := s < t.size

/-- The scope with handle `s`; a handle the tree never created reads as an empty scope. -/
def scope (t : ScopeTree) (s : ScopeId) : Scope := (t.get? s).getD default

/-- The parent of `s`, if it has one. -/
def parent? (t : ScopeTree) (s : ScopeId) : Option ScopeId := (t.scope s).parent

/-- The enclosing scope; the global scope is its own parent. -/
def parentOf (t : ScopeTree) (s : ScopeId) : ScopeId := (t.parent? s).getD s

/-- Whether `s` has a parent. -/
def hasParent (t : ScopeTree) (s : ScopeId) : Bool := (t.parent? s).isSome

/-- Children of `s`, in creation order. -/
def children (t : ScopeTree) (s : ScopeId) : List ScopeId := (t.scope s).children

/-- Enclosing scopes of `s`, nearest first, without `s`. A parent is always created before
its child, so the chain descends through smaller handles and ends. -/
def ancestors (t : ScopeTree) (s : ScopeId) : List ScopeId :=
  match t.parent? s with
  | some p => if p < s then p :: t.ancestors p else []
  | none => []
termination_by s

/-- `s` followed by its ancestors: the levels a climbing lookup visits, nearest first. -/
def chain (t : ScopeTree) (s : ScopeId) : List ScopeId := s :: t.ancestors s

/-- Number of enclosing scopes; zero for the global scope. -/
def depth (t : ScopeTree) (s : ScopeId) : Nat := (t.ancestors s).length

/-- The path name of `s`: `global` followed by the names of the scopes from the nearest
enclosing scope of kind `global` (excluded) down to `s`, joined by `/`. -/
def uniqueName (t : ScopeTree) (s : ScopeId) : String :=
  let names := ((t.chain s).map t.scope).takeWhile (·.kind != .global) |>.map (·.name)
  "/".intercalate (globalScopeName :: names.reverse)

/-- Opens a child scope below `p`, after its existing children, and returns its handle. -/
def createChild (t : ScopeTree) (p : ScopeId) (name : String) (kind : ScopeKind) :
    ScopeId × ScopeTree :=
  let c := t.size
  let scopes := t.scopes.modify p fun s => { s with children := s.children ++ [c] }
  (c, ⟨scopes.push { name, parent := some p, kind }⟩)

/-- The tree with the scope `s` changed by `f`. -/
def modifyScope (t : ScopeTree) (s : ScopeId) (f : Scope → Scope) : ScopeTree :=
  ⟨t.scopes.modify s f⟩

/-- Whether `n` is bound in exactly the scope `s`. -/
def hasSymbol (t : ScopeTree) (s : ScopeId) (n : String) : Bool :=
  ((t.scope s).lookup n).isSome

/-- Binds `d` in `s`. Refused, with the tree untouched, when its name is already bound in
`s` itself and `force` is off; shadowing a binding of an enclosing scope is always allowed. -/
def addSymbol (t : ScopeTree) (s : ScopeId) (d : Decl) (force : Bool) : Bool × ScopeTree :=
  if t.hasSymbol s d.name && !force then (false, t)
  else (true, t.modifyScope s (·.bind d))

/-- Rebinds a name bound in `s`; with `force` on, also binds a name that is not yet bound. -/
def setSymbol (t : ScopeTree) (s : ScopeId) (d : Decl) (force : Bool) :
    Except ScopeError ScopeTree :=
  if !t.hasSymbol s d.name && !force then .error (.missingSymbol d.name (t.uniqueName s))
  else .ok (t.modifyScope s (·.bind d))

/-- Removes the binding of `n` from exactly the scope `s` and returns it. -/
def releaseSymbol (t : ScopeTree) (s : ScopeId) (n : String) :
    Except ScopeError (Decl × ScopeTree) :=
  match (t.scope s).lookup n with
  | some d => .ok (d, t.modifyScope s (·.unbind n))
  | none => .error (.missingSymbol n (t.uniqueName s))

/-- The binding of `n` in `s` only. -/
def findSymbol (t : ScopeTree) (s : ScopeId) (n : String) : Except ScopeError Decl :=
  match (t.scope s).lookup n with
  | some d => .ok d
  | none => .error (.undefinedSymbol n (t.uniqueName s))

/-- The nearest binding of `n`: in `s`, else in the nearest ancestor that binds it. -/
def resolveSymbol (t : ScopeTree) (s : ScopeId) (n : String) : Except ScopeError Decl :=
  match (t.chain s).findSome? (fun i => (t.scope i).lookup n) with
  | some d => .ok d
  | none => .error (.undefinedSymbol n (t.uniqueName s))

/-- The first child of `s` named `n`, in creation order. -/
def childNamed? (t : ScopeTree) (s : ScopeId) (n : String) : Option ScopeId :=
  (t.children s).find? fun c => (t.scope c).name == n

/-- The first child of `s` named `n`. -/
def findScope (t : ScopeTree) (s : ScopeId) (n : String) : Except ScopeError ScopeId :=
  match t.childNamed? s n with
  | some c => .ok c
  | none => .error (.undefinedScope n (t.uniqueName s))

/-- The first child named `n` of `s`, else of the nearest ancestor that has one. A level's own
name is never compared, only the names of its children. -/
def resolveScope (t : ScopeTree) (s : ScopeId) (n : String) : Except ScopeError ScopeId :=
  match (t.chain s).findSome? (fun i => t.childNamed? i n) with
  | some c => .ok c
  | none => .error (.undefinedScope n (t.uniqueName s))

/-- Every scope, in pre-order from the global scope with children in creation order, each
with its depth. The walk is bounded by the number of scopes. -/
def preorder (t : ScopeTree) : List (ScopeId × Nat) :=
  go t.size [(root, 0)]
where
  /-- Visits the pending scopes, a scope's children before its later siblings. -/
  go : Nat → List (ScopeId × Nat) → List (ScopeId × Nat)
    | 0, _ => []
    | _, [] => []
    | fuel + 1, (s, d) :: rest =>
      (s, d) :: go fuel ((t.children s).map (·, d + 1) ++ rest)

end ScopeTree

end ScopedIr
