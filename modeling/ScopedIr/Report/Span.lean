import ScopedIr.Instr.Basic
import ScopedIr.Text.Blank

/-!
# Spans

The token a report points at. Lines and columns are 1-based and count characters; the lines
of a source are its pieces up to and including each line feed. The span of a position starts
at its column on its line, clamped to the line's width, and covers the run of non-blank
characters from there; when that run is empty but the column is inside the line it covers
one character, which may be the line feed. Without a line or a column the span is empty at
the start of the source, and for a line past the end it is empty at the end of the source.
-/

namespace ScopedIr

/-- A range of character offsets, `start` included and `stop` excluded. -/
structure Span where
  start : Nat
  stop : Nat
  deriving DecidableEq, Repr

namespace Span

/-- The pieces of `cs` up to and including each line feed; a last piece without a line feed
counts too, and an empty text has no pieces. -/
def pieces (cs : List Char) : List (List Char) := go cs []
where
  /-- `acc` holds the current piece, reversed. -/
  go : List Char → List Char → List (List Char)
    | [], [] => []
    | [], acc => [acc.reverse]
    | c :: rest, acc => if c = '\n' then (c :: acc).reverse :: go rest [] else go rest (c :: acc)

/-- The span within one line of width `text.length` that starts `offset` characters into the
source, for a 1-based column. -/
def inLine (offset : Nat) (text : List Char) (column : Nat) : Span :=
  let skip := min (column - 1) text.length
  let run := ((text.drop skip).takeWhile (!Text.isBlank ·)).length
  let len := if run = 0 ∧ skip < text.length then 1 else run
  ⟨offset + skip, offset + skip + len⟩

/-- The span of the 1-based `line` and `column` in a source cut into `lines`, the first of
which starts at `offset`. -/
def locate (offset : Nat) (line column : Nat) : List (List Char) → Span
  | [] => ⟨offset, offset⟩
  | text :: rest =>
    if line = 1 then inLine offset text column
    else locate (offset + text.length) (line - 1) column rest

/-- The span of the token at the position of `m` in `source`. -/
def ofPosition (m : Metadata) (source : String) : Span :=
  match m.line, m.column with
  | some line, some column =>
    if line = 0 then ⟨source.length, source.length⟩
    else locate 0 line column (pieces source.toList)
  | _, _ => ⟨0, 0⟩

/-- The pieces of a text put back together give the text. -/
theorem flatten_pieces_go (cs acc : List Char) :
    (pieces.go cs acc).flatten = acc.reverse ++ cs := by
  induction cs generalizing acc with
  | nil => cases acc <;> simp [pieces.go]
  | cons c rest ih =>
    by_cases h : c = '\n'
    · simp [pieces.go, h, ih]
    · simp [pieces.go, h, ih]

theorem flatten_pieces (cs : List Char) : (pieces cs).flatten = cs := by
  simp [pieces, flatten_pieces_go]

end Span

end ScopedIr
