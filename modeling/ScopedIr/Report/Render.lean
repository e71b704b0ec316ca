import ScopedIr.Report.Span
import ScopedIr.Text.Width

/-!
# Rendering a report

A report shows one problem: a header with the problem's code and message, the path and
position of the token, the source line that holds it, a line that underlines the token and
marks its middle, and a line that leads from the mark to a label.

```text
[UndeclaredVariable] Error: variable "x" is used before being declared
   ╭─[ main.py:2:11 ]
   │
 2 │     print(x)
   │           ─┬
   │            ╰── Variable "x" not declared
───╯
```

Here the lines of the source end at a carriage return, a line feed (a carriage return followed
by a line feed ends one line), a vertical tab, a form feed, the next line character U+0085 or
the line and paragraph separators; an empty source has one empty line. The shown line
drops its trailing blanks. Every character takes cells: a tab reaches the next multiple of
four counted in characters of the line, another blank takes one cell and shows as a space,
and any other character takes its display width. Cells past the end of the shown text have
width one. The gutter is as wide as the line number.
-/

namespace ScopedIr

/-- A problem to report, with the span it points at and the label shown under it. -/
structure Diagnostic where
  code : String
  message : String
  path : String
  span : Span
  label : String

namespace Diagnostic

/-- Characters that end a line of the shown source. -/
def isLineEnd (c : Char) : Bool :=
  c == '\r' || c == '\n' || c == '\x0b' || c == '\x0c' || c == '\x85' || c == '\u2028' ||
    c == '\u2029'

/-- The lines of a source, each with its end; a carriage return followed by a line feed ends
one line. A text without characters has no lines here. -/
def splitLines (cs : List Char) : List (List Char) := go cs []
where
  /-- `acc` holds the current line, reversed. -/
  go : List Char → List Char → List (List Char)
    | [], [] => []
    | [], acc => [acc.reverse]
    | '\r' :: '\n' :: rest, acc => (acc.reverse ++ ['\r', '\n']) :: go rest []
    | c :: rest, acc => if isLineEnd c then (c :: acc).reverse :: go rest [] else go rest (c :: acc)

/-- The lines of a source with the offset of each; an empty source has one empty line. -/
def sourceLines (cs : List Char) : List (Nat × List Char) :=
  let ls := if cs.isEmpty then [[]] else splitLines cs
  (ls.foldl (fun (acc : List (Nat × List Char) × Nat) l => (acc.1 ++ [(acc.2, l)], acc.2 + l.length))
    ([], 0)).1

/-- The last line starting at or before `offset`, with its 0-based number. -/
def lineAt (ls : List (Nat × List Char)) (offset : Nat) : Nat × Nat × List Char :=
  let candidates := ls.zipIdx.filter (·.1.1 ≤ offset)
  match candidates.getLast? with
  | some ((start, text), i) => (i, start, text)
  | none => (0, 0, [])

/-- Number of decimal digits of `n`, at least one. -/
def digits (n : Nat) : Nat := (Nat.toDigits 10 n).length

/-- The cells a character of the shown line takes at character index `col`, and the
character shown in its first cell. -/
def cell (c : Char) (col : Nat) : Char × Nat :=
  if c = '\t' then (' ', (col / 4 + 1) * 4 - col)
  else if Text.isBlank c then (' ', 1)
  else (c, Text.displayWidth c)

/-- The shown text of a line: blanks become spaces, a tab as many as it takes cells. -/
def showText (text : List Char) : String :=
  String.join <| text.zipIdx.map fun (c, col) =>
    let (shown, width) := cell c col
    if shown = ' ' then String.ofList (List.replicate width ' ') else String.singleton c

/-- A row of cells under the shown text: `mark col` gives the characters of the first cell
and of the others at column `col`. -/
def row (text : List Char) (len : Nat) (mark : Nat → Char × Char) : String :=
  String.join <| (List.range len).map fun col =>
    let width := match text[col]? with
      | some c => (cell c col).2
      | none => 1
    let (first, rest) := mark col
    if width = 0 then "" else String.ofList (first :: List.replicate (width - 1) rest)

/-- `n` spaces. -/
def spaces (n : Nat) : String := String.ofList (List.replicate n ' ')

/-- The report of `d` against `source`. -/
def render (d : Diagnostic) (source : String) : String :=
  let ls := sourceLines source.toList
  let (i, start, raw) := lineAt ls d.span.start
  let text := (raw.reverse.dropWhile Text.isBlank).reverse
  let number := toString (i + 1)
  let w := digits (i + 1)
  let gutter := spaces (w + 2)
  let tee := max ((d.span.start + d.span.stop) / 2) d.span.start - start
  let len := d.span.stop - start + 2
  let inSpan (col : Nat) : Bool := d.span.start ≤ start + col && start + col < d.span.stop
  let under := row text len fun col =>
    if col = tee then (if inSpan col then ('┬', '─') else ('│', ' '))
    else if inSpan col then ('─', '─') else (' ', ' ')
  let lead := row text len fun col =>
    if col = tee then ('╰', '─') else if col > tee then ('─', '─') else (' ', ' ')
  "[" ++ d.code ++ "] Error: " ++ d.message ++ "\n" ++
  gutter ++ "╭─[ " ++ d.path ++ ":" ++ number ++ ":" ++ toString (d.span.start - start + 1) ++
    " ]\n" ++
  gutter ++ "│\n" ++
  " " ++ spaces (w - number.length) ++ number ++ " │ " ++ showText text ++ "\n" ++
  gutter ++ "│ " ++ under ++ "\n" ++
  gutter ++ "│ " ++ lead ++ " " ++ d.label ++ "\n" ++
  String.ofList (List.replicate (w + 2) '─') ++ "╯\n"

end Diagnostic

end ScopedIr
