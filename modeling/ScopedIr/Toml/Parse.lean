import ScopedIr.Toml.Lexical

/-!
# Reading a TOML document

A document is read line by line. A line is blank, a comment, a `[table]` or `[[array]]`
header, or `key = value`; anything after the item may only be blanks and a comment. Each
header names the section that later keys go to, and each key is bound under the rules of
`Toml.Tree`. A value is a string, a number, a boolean, a date or time, an array (which may
span lines and hold comments) or an inline table (which may not); arrays and inline tables
nest fewer than `depthLimit` levels deep.

`parse` answers the root table's entries, or `none` for a malformed document.
-/

namespace ScopedIr.Toml

mutual

/-- A value at `depth` levels of nesting, starting at its first character. -/
def value : Nat → Nat → Scan Node
  | 0, _, _ => none
  | n + 1, depth, cs =>
    match cs with
    | '"' :: _ | '\'' :: _ => (string? (n + 1) cs).map fun (s, r) => (.string s, r)
    | '[' :: r => if depth + 1 < depthLimit then arrayItems n (depth + 1) [] r else none
    | '{' :: r => if depth + 1 < depthLimit then inlineTable n (depth + 1) r else none
    | 't' :: 'r' :: 'u' :: 'e' :: r => some (.boolean true, r)
    | 'f' :: 'a' :: 'l' :: 's' :: 'e' :: r => some (.boolean false, r)
    | _ =>
      match datetime? cs with
      | some (t, r) => some (.datetime t, r)
      | none =>
        match float? cs with
        | some (t, r) => some (.float t, r)
        | none => (integer? cs).map fun (i, r) => (.integer i, r)

/-- The items of an array after `[` or after a comma, past the closing `]`; `acc` holds the
items read so far, last first. -/
def arrayItems : Nat → Nat → List Node → Scan Node
  | 0, _, _, _ => none
  | n + 1, depth, acc, cs =>
    match skipWsCommentNl false cs with
    | ']' :: r => some (.array acc.reverse, r)
    | cs' => do
      let (v, r) ← value n depth cs'
      match skipWsCommentNl false r with
      | ',' :: r' => arrayItems n depth (v :: acc) r'
      | ']' :: r' => some (.array (v :: acc).reverse, r')
      | _ => none

/-- An inline table after its `{`, past the closing `}`. -/
def inlineTable : Nat → Nat → Scan Node
  | 0, _, _ => none
  | n + 1, depth, cs =>
    match skipWs cs with
    | '}' :: r => some (.table .inline [], r)
    | cs' => inlineEntries n depth [] cs'

/-- The `key = value` entries of an inline table, separated by commas, past the `}`. -/
def inlineEntries : Nat → Nat → Entries → Scan Node
  | 0, _, _, _ => none
  | n + 1, depth, es, cs => do
    let ((path, k), r) ← key? (n + 1) cs
    match r with
    | '=' :: r => do
      let (v, r) ← value n depth (skipWs r)
      let es ← bindKey .inline path k v es .inline
      match skipWs r with
      | ',' :: r => inlineEntries n depth es r
      | '}' :: r => some (.table .inline es, r)
      | _ => none
    | _ => none

end

/-- The lines of a document from `cs` on, with the root entries so far and the path of the
table the current section's header named (empty for the root's own section). -/
def lines (fuel : Nat) : Nat → Entries → List String → List Char → Option Entries
  | 0, _, _, _ => none
  | n + 1, root, current, cs =>
    match skipWs cs with
    | [] => some root
    | '#' :: r => do
      let r ← lineEnd? ('#' :: r)
      lines fuel n root current r
    | '\n' :: r => lines fuel n root current r
    | '\r' :: '\n' :: r => lines fuel n root current r
    | '[' :: '[' :: r => do
      let ((path, k), r) ← key? fuel r
      match r with
      | ']' :: ']' :: r => do
        let r ← lineEnd? r
        let root ← openArrayTable path k root
        lines fuel n root (path ++ [k]) r
      | _ => none
    | '[' :: r => do
      let ((path, k), r) ← key? fuel r
      match r with
      | ']' :: r => do
        let r ← lineEnd? r
        let root ← openTable path k root
        lines fuel n root (path ++ [k]) r
      | _ => none
    | cs' => do
      let ((path, k), r) ← key? fuel cs'
      match r with
      | '=' :: r => do
        let (v, r) ← value fuel 0 (skipWs r)
        let r ← lineEnd? r
        let root ← bindInSection current path k v root
        lines fuel n root current r
      | _ => none

/-- Drops a byte order mark at the start of a document. -/
def dropByteOrderMark : List Char → List Char
  | '\uFEFF' :: r => r
  | cs => cs

/-- The root table of a TOML document, or `none` when it is malformed. Every loop gets
more fuel than the document has characters. -/
def parse (source : String) : Option Entries :=
  let cs := dropByteOrderMark source.toList
  let fuel := 2 * cs.length + 2
  lines fuel fuel [] [] cs

end ScopedIr.Toml
