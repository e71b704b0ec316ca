import ScopedIr.Scope.Tree

/-!
# Scope tree sessions

A client drives a scope tree through its updating operations, one call after another: it
opens children, and binds, rebinds and releases symbols. Each call names a scope by a handle
the tree handed out before it. A call that fails leaves the tree as it was, and the session
goes on from there.
-/

namespace ScopedIr

/-- A call of a scope tree operation that may change the tree, with its arguments. -/
inductive ScopeCall where
  | createChild (parent : ScopeId) (name : String) (kind : ScopeKind)
  | addSymbol (scope : ScopeId) (d : Decl) (force : Bool)
  | setSymbol (scope : ScopeId) (d : Decl) (force : Bool)
  | releaseSymbol (scope : ScopeId) (name : String)

/-- The scope a call names. -/
def ScopeCall.target : ScopeCall → ScopeId
  | createChild p .. | addSymbol p .. | setSymbol p .. | releaseSymbol p _ => p

namespace ScopeTree

/-- The tree after a call; a failed call leaves it as it was. -/
def exec (t : ScopeTree) : ScopeCall → ScopeTree
  | .createChild p n k => (t.createChild p n k).2
  | .addSymbol s d force => (t.addSymbol s d force).2
  | .setSymbol s d force =>
    match t.setSymbol s d force with
    | .ok t' => t'
    | .error _ => t
  | .releaseSymbol s n =>
    match t.releaseSymbol s n with
    | .ok (_, t') => t'
    | .error _ => t

/-- The tree after a sequence of calls. -/
def execAll (t : ScopeTree) : List ScopeCall → ScopeTree
  | [] => t
  | c :: cs => (t.exec c).execAll cs

/-- Every call of the sequence names a scope that exists when the call is made. -/
def Handed : ScopeTree → List ScopeCall → Prop
  | _, [] => True
  | t, c :: cs => c.target < t.size ∧ Handed (t.exec c) cs

instance decidableHanded : (t : ScopeTree) → (cs : List ScopeCall) → Decidable (t.Handed cs)
  | _, [] => isTrue trivial
  | t, c :: cs =>
    have := decidableHanded (t.exec c) cs
    inferInstanceAs (Decidable (c.target < t.size ∧ Handed (t.exec c) cs))

end ScopeTree

end ScopedIr
