import ScopedIr.Instr.Basic
import ScopedIr.Class.Basic

/-!
# Libraries

A library provides native functions, constants, events, annotations and classes, and may
bring initialization code. It is described once by a `Library` value and registered into the
global scope before any program code. The native registry keeps, across all registered
libraries, which native functions, constants, events and annotations exist, and the value
each native constant stands for; a later library's entry replaces an earlier equal one.
-/

namespace ScopedIr

/-- A library as handed to the builder. Functions, events and annotations are sets and the
constants a map from constant to native value; `Library.make` builds them from lists. -/
structure Library where
  name : String
  /-- Initialization code, placed before any program code. -/
  init : List Instruction := []
  functions : List Function := []
  constants : List (Constant × Value) := []
  events : List String := []
  annotations : List String := []
  /-- Classes, which may only link to classes registered before. -/
  classes : List ClassDef := []

namespace Library

/-- Adds `k ↦ v` to an association list, replacing an earlier entry for `k` in place. -/
def upsert {κ ν} [BEq κ] (m : List (κ × ν)) (k : κ) (v : ν) : List (κ × ν) :=
  if m.any (·.1 == k) then m.map fun e => if e.1 == k then (k, v) else e else m ++ [(k, v)]

/-- A library from lists; repeated functions, events and annotations count once, and a
repeated constant keeps its last native value. -/
def make (name : String) (init : List Instruction) (functions : List Function)
    (constants : List (Constant × Value)) (events annotations : List String)
    (classes : List ClassDef) : Library :=
  { name, init, functions := functions.eraseDups,
    constants := constants.foldl (fun m (k, v) => upsert m k v) [],
    events := events.eraseDups, annotations := annotations.eraseDups, classes }

/-- The names the library declares in the global scope: functions, then constants, then
classes. -/
def declaredNames (l : Library) : List String :=
  l.functions.map (·.name) ++ l.constants.map (·.1.name) ++ l.classes.map (·.name)

end Library

/-- What every registered library provides, looked up by the backend. -/
structure NativeRegistry where
  /-- Library names in registration order. -/
  libraries : List String := []
  functions : List Function := []
  constants : List (Constant × Value) := []
  events : List String := []
  annotations : List String := []
  deriving Inhabited

namespace NativeRegistry

/-- Records a library's natives; an entry equal to an earlier one replaces it. -/
def record (r : NativeRegistry) (l : Library) : NativeRegistry :=
  { libraries := r.libraries ++ [l.name]
    functions := r.functions ++ l.functions.filter (!r.functions.contains ·)
    constants := l.constants.foldl (fun m (k, v) => Library.upsert m k v) r.constants
    events := r.events ++ l.events.filter (!r.events.contains ·)
    annotations := r.annotations ++ l.annotations.filter (!r.annotations.contains ·) }

/-- Whether some registered library provides the native function `f`. -/
def hasFunction (r : NativeRegistry) (f : Function) : Bool := r.functions.contains f

/-- The native value of constant `c`, if some registered library provides it. -/
def constant? (r : NativeRegistry) (c : Constant) : Option Value :=
  (r.constants.find? (·.1 == c)).map (·.2)

/-- Whether some registered library provides the event `e`. -/
def hasEvent (r : NativeRegistry) (e : String) : Bool := r.events.contains e

/-- Whether some registered library provides the annotation `a`. -/
def hasAnnotation (r : NativeRegistry) (a : String) : Bool := r.annotations.contains a

end NativeRegistry

end ScopedIr
