/-!
# TOML documents as trees

A TOML document is a table of keyed nodes. A node is a scalar, a static array, a table or
an array of tables. Every table remembers where it came from, because that decides which
later lines may still add to it:

* a table opened by a `[header]` (the root counts as one) takes keys only in its own
  section and refuses a second header and dotted keys from outside;
* a table created on the way to a header (`a` in `[a.b]`) may still be opened once by its
  own header, but not reached by dotted keys;
* a table created by a dotted key (`a` in `a.b = 1`) may be extended by further dotted keys
  but never opened by a header;
* an inline table `{ ... }` is a value: nothing outside its braces may add to it. Inside the
  braces, dotted keys may extend the tables they created, but not a nested `{ ... }`.

`update` walks a key path under these rules and edits the table it reaches; the document
reader and the inline-table reader are both built on it.
-/

namespace ScopedIr.Toml

/-- How a table came into being. -/
inductive Origin where
  /-- Opened by a `[header]`, or the root table, or an element of an array of tables. -/
  | header
  /-- Created on the way to a header's table. -/
  | implicit
  /-- Created by a dotted key outside inline tables. -/
  | dotted
  /-- Written as an inline table. -/
  | inline
  /-- Created by a dotted key inside an inline table. -/
  | inlineDotted
  deriving DecidableEq, Repr

/-- A TOML node: a scalar, an array, a table or an array of tables. -/
inductive Node where
  | string (s : String)
  | integer (i : Int)
  /-- A float, kept as its source text. -/
  | float (text : String)
  | boolean (b : Bool)
  /-- A date, time or date-time, kept as its source text. -/
  | datetime (text : String)
  /-- An array written with brackets; it is a value and never extended. -/
  | array (items : List Node)
  | table (origin : Origin) (entries : List (String × Node))
  /-- An array of tables, one element per `[[header]]`; never empty. -/
  | tables (elems : List (List (String × Node)))
  deriving Repr

/-- The keyed entries of a table, in the order they were first written. -/
abbrev Entries := List (String × Node)

/-- The node stored under `k`. -/
def lookup (es : Entries) (k : String) : Option Node :=
  (es.find? (fun e => e.1 == k)).map (·.2)

/-- Stores `v` under `k`, in place when `k` is present and at the end otherwise. -/
def store (es : Entries) (k : String) (v : Node) : Entries :=
  if es.any (fun e => e.1 == k) then es.map (fun e => if e.1 == k then (k, v) else e)
  else es ++ [(k, v)]

theorem lookup_nil (k : String) : lookup [] k = none := rfl

/-- Which set of rules a walk follows: the document's lines, or the inside of `{ ... }`. -/
inductive Walk where
  | document
  | inline
  deriving DecidableEq, Repr

/-- A table of this origin is a value here: no walk may enter it. -/
def Origin.frozenIn : Walk → Origin → Bool
  | .document, .inline | .document, .inlineDotted => true
  | _, _ => false

/-- A table of this origin was defined outright, so dotted keys may not reach into it. -/
def Origin.definedIn : Walk → Origin → Bool
  | .document, .header | .inline, .inline => true
  | _, _ => false

/-- A table of this origin was made by dotted keys under these rules. -/
def Origin.isDottedIn : Walk → Origin → Bool
  | .document, .dotted | .inline, .inlineDotted => true
  | _, _ => false

/-- Walks `path` down from a table with entries `es` and origin `o`, creating each missing
table with origin `fresh`, entering the last element of an array of tables, and refusing
values, frozen tables and (on a `dotted` walk) defined tables; then edits the table reached
with `f`, which sees its entries and origin. -/
def update (w : Walk) (dotted : Bool) (fresh : Origin) (f : Entries → Origin → Option Entries) :
    List String → Entries → Origin → Option Entries
  | [], es, o => f es o
  | k :: rest, es, _ =>
    match lookup es k with
    | none => do
      let sub ← update w dotted fresh f rest [] fresh
      return store es k (.table fresh sub)
    | some (.table o' sub) =>
      if o'.frozenIn w || (dotted && o'.definedIn w) then none
      else do
        let sub ← update w dotted fresh f rest sub o'
        return store es k (.table o' sub)
    | some (.tables elems) =>
      match w, elems.getLast? with
      | .document, some last => do
        let sub ← update w dotted fresh f rest last .header
        return store es k (.tables (elems.dropLast ++ [sub]))
      | _, _ => none
    | some _ => none

/-- Binds the dotted key `path ++ [k]` to `v` in a table with entries `es` and origin `o`:
the tables on `path` are created or extended as dotted tables, the table that takes `k`
must be a dotted one exactly when `path` is not empty, and `k` must be new there. -/
def bindKey (w : Walk) (path : List String) (k : String) (v : Node) (es : Entries)
    (o : Origin) : Option Entries :=
  let fresh := match w with | .document => Origin.dotted | .inline => Origin.inlineDotted
  update w true fresh (fun es' o' =>
    if o'.isDottedIn w == path.isEmpty then none
    else if (lookup es' k).isSome then none
    else some (store es' k v)) path es o

/-- Opens the table `[path.k]` in the root entries: a new table, or one so far only
created on the way to another header. -/
def openTable (path : List String) (k : String) (root : Entries) : Option Entries :=
  update .document false .implicit (fun es _ =>
    match lookup es k with
    | none => some (store es k (.table .header []))
    | some (.table .implicit sub) => some (store es k (.table .header sub))
    | some _ => none) path root .header

/-- Opens a new element of the array of tables `[[path.k]]` in the root entries. -/
def openArrayTable (path : List String) (k : String) (root : Entries) : Option Entries :=
  update .document false .implicit (fun es _ =>
    match lookup es k with
    | none => some (store es k (.tables [[]]))
    | some (.tables elems) => some (store es k (.tables (elems ++ [[]])))
    | some _ => none) path root .header

/-- Binds a dotted key inside the section whose header named the table at `current`. -/
def bindInSection (current : List String) (path : List String) (k : String) (v : Node)
    (root : Entries) : Option Entries :=
  update .document false .implicit (fun es o => bindKey .document path k v es o) current root
    .header

end ScopedIr.Toml
