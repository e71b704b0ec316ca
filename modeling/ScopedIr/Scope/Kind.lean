/-!
# Scope kinds

The lexical construct a scope was opened for. The kind decides how a scope takes part in
lookups: only `loop` scopes are targets of `BREAK` and `CONTINUE`, a `function` scope binds
the parameters of the function before it, and the path name of a scope starts again below
a scope of kind `global`.
-/

namespace ScopedIr

/-- The lexical construct a scope was opened for. -/
inductive ScopeKind where
  | global
  | function
  | classBody
  | conditional
  | loop
  | block
  deriving DecidableEq, Repr, Ord, Hashable, Inhabited

namespace ScopeKind

/-- The name of a scope kind, as written in listings and messages. -/
def name : ScopeKind → String
  | global => "global"
  | function => "function"
  | classBody => "class"
  | conditional => "conditional"
  | loop => "loop"
  | block => "block"

/-- All scope kinds. -/
def all : List ScopeKind := [global, function, classBody, conditional, loop, block]

/-- The scope kind with the given name. -/
def ofName? (s : String) : Option ScopeKind := all.find? (·.name == s)

end ScopeKind

end ScopedIr
