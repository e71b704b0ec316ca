import ScopedIr.Report.Span

/-!
# Spans point at their token

A report's span is a range of character offsets into the source. The source is cut into lines,
each up to and including its line feed, and the `k`-th line starts where the lines before it
end. Locating a position walks the lines and adds up their widths, so the span of an existing
line starts at that line's offset plus the column, clamped to the line's width; it never passes
the line's end, because the run of non-blank characters it covers is taken inside the line.
A missing line or column gives the empty span at the start, and a line past the last one the
empty span at the end of the source.

Read back from the source, a span covers exactly the maximal run of non-blank characters that
starts at its column, or the single character there when that run is empty; beyond the end of
the line it covers nothing. In every case it lies within the source.
-/

namespace ScopedIr

namespace Span

/-- The characters of `cs` that the span covers. -/
def covered (s : Span) (cs : List Char) : List Char := (cs.drop s.start).take (s.stop - s.start)

/-! ### The lines of a source -/

theorem length_flatten_pieces (cs : List Char) : (pieces cs).flatten.length = cs.length := by
  rw [flatten_pieces]

/-- The lines before the `k`-th, the `k`-th and the lines after it make up the whole list. -/
theorem flatten_eq_of_getElem? {ls : List (List Char)} {k : Nat} {text : List Char}
    (h : ls[k]? = some text) :
    ls.flatten = (ls.take k).flatten ++ text ++ (ls.drop (k + 1)).flatten := by
  have hdrop : ls.drop k = text :: ls.drop (k + 1) := by
    rw [List.drop_eq_getElem_cons (List.getElem?_eq_some_iff.mp h).1,
      (List.getElem?_eq_some_iff.mp h).2]
  calc ls.flatten = (ls.take k ++ ls.drop k).flatten := by rw [List.take_append_drop]
    _ = (ls.take k).flatten ++ text ++ (ls.drop (k + 1)).flatten := by
      rw [hdrop, List.flatten_append, List.flatten_cons, List.append_assoc]

/-! ### Locating a line -/

/-- Locating line `k + 1` starts the span in the `k`-th line, at the width of the lines before
it. The walk is on the lines, carrying the offset reached so far. -/
theorem locate_of_getElem? (column : Nat) :
    ∀ (ls : List (List Char)) (offset k : Nat) (text : List Char), ls[k]? = some text →
      locate offset (k + 1) column ls =
        inLine (offset + (ls.take k).flatten.length) text column
  | [], _, _, _, h => by simp at h
  | first :: rest, offset, 0, text, h => by
    simp only [List.getElem?_cons_zero, Option.some.injEq] at h
    subst h
    simp [locate]
  | first :: rest, offset, k + 1, text, h => by
    simp only [List.getElem?_cons_succ] at h
    rw [locate, if_neg (show k + 1 + 1 ≠ 1 by omega), Nat.add_sub_cancel,
      locate_of_getElem? column rest _ k text h]
    simp [Nat.add_assoc]

/-- Locating a line past the last one, or line `0`, gives the empty span at the end. -/
theorem locate_of_getElem?_eq_none (column : Nat) :
    ∀ (ls : List (List Char)) (offset line : Nat), (line = 0 ∨ ls[line - 1]? = none) →
      locate offset line column ls = ⟨offset + ls.flatten.length, offset + ls.flatten.length⟩
  | [], offset, _, _ => by simp [locate]
  | first :: rest, offset, line, h => by
    -- line `1` exists, so the walk moves on to the rest with the line before
    have hline : line ≠ 1 := by
      rintro rfl
      simp at h
    have hrest : line - 1 = 0 ∨ rest[line - 1 - 1]? = none := by
      rcases line with _ | _ | j
      · exact Or.inl rfl
      · exact absurd rfl hline
      · simpa using h
    rw [locate, if_neg hline, locate_of_getElem?_eq_none column rest _ _ hrest]
    simp [Nat.add_assoc]

/-! ### The span within a line -/

section InLine

variable (offset : Nat) (text : List Char) (column : Nat)

theorem start_inLine : (inLine offset text column).start = offset + min (column - 1) text.length :=
  rfl

/-- A span within a line ends after it starts and no later than the line's end. -/
theorem inLine_bounds :
    (inLine offset text column).start ≤ (inLine offset text column).stop ∧
      (inLine offset text column).stop ≤ offset + text.length := by
  -- the run lies in what is left of the line after the skipped characters
  have hrun : ((text.drop (min (column - 1) text.length)).takeWhile (!Text.isBlank ·)).length ≤
      text.length - min (column - 1) text.length := by
    rw [← List.length_drop]
    exact (List.takeWhile_sublist _).length_le
  simp only [inLine]
  split <;> omega

/-- Read from a source in which the line starts at `offset`, the span within the line covers
the run of non-blank characters from its start, or one character when that run is empty. -/
theorem covered_inLine {pre post : List Char} (hpre : pre.length = offset) :
    (inLine offset text column).covered (pre ++ text ++ post) =
      if (text.drop (min (column - 1) text.length)).takeWhile (!Text.isBlank ·) = [] then
        (text.drop (min (column - 1) text.length)).take 1
      else (text.drop (min (column - 1) text.length)).takeWhile (!Text.isBlank ·) := by
  -- the covered characters all lie in the rest of the line
  have hrest : ((pre ++ text ++ post).drop (offset + min (column - 1) text.length)) =
      text.drop (min (column - 1) text.length) ++ post := by
    rw [List.append_assoc, List.drop_append, List.drop_eq_nil_of_le (by omega), List.nil_append,
      hpre, Nat.add_sub_cancel_left, List.drop_append_of_le_length (by omega)]
  have hprefix := List.takeWhile_append_dropWhile (p := (!Text.isBlank ·))
    (l := text.drop (min (column - 1) text.length))
  simp only [covered, inLine, Nat.add_sub_cancel_left, hrest]
  split
  · next hrun =>
    rw [if_pos (List.length_eq_zero_iff.mp hrun.1), List.take_append_of_le_length
      (by simp; omega)]
  · next hrun =>
    by_cases hnil : (text.drop (min (column - 1) text.length)).takeWhile (!Text.isBlank ·) = []
    · rw [if_pos hnil, hnil]
      have hend : text.length ≤ min (column - 1) text.length := by
        simp only [hnil, List.length_nil, true_and] at hrun
        exact Nat.not_lt.mp hrun
      simp [List.drop_eq_nil_of_le hend]
    · rw [if_neg hnil, List.take_append_of_le_length (List.takeWhile_sublist _).length_le]
      -- the run is the prefix of the rest of the line that `takeWhile` splits off
      have htake := congrArg (List.take
        ((text.drop (min (column - 1) text.length)).takeWhile (!Text.isBlank ·)).length) hprefix
      rw [List.take_left' rfl] at htake
      exact htake.symm

end InLine

/-! ### The span of a position -/

section Position

variable {m : Metadata} {source : String}

theorem ofPosition_of_missing (h : m.line = none ∨ m.column = none) :
    ofPosition m source = ⟨0, 0⟩ := by
  unfold ofPosition
  rcases h with h | h <;> simp [h]

theorem ofPosition_of_past_end {line column : Nat} (hl : m.line = some line)
    (hc : m.column = some column)
    (h : line = 0 ∨ (pieces source.toList)[line - 1]? = none) :
    ofPosition m source = ⟨source.length, source.length⟩ := by
  simp only [ofPosition, hl, hc]
  split
  · rfl
  · rw [locate_of_getElem?_eq_none column _ 0 line h, length_flatten_pieces,
      String.length_toList, Nat.zero_add]

theorem ofPosition_of_getElem? {line column : Nat} (hl : m.line = some line)
    (hc : m.column = some column) (h0 : 0 < line) {text : List Char}
    (ht : (pieces source.toList)[line - 1]? = some text) :
    ofPosition m source =
      inLine ((pieces source.toList).take (line - 1)).flatten.length text column := by
  simp only [ofPosition, hl, hc]
  rw [if_neg (by omega)]
  obtain ⟨k, rfl⟩ : ∃ k, line = k + 1 := ⟨line - 1, by omega⟩
  rw [Nat.add_sub_cancel] at ht ⊢
  rw [locate_of_getElem? column _ 0 k text ht, Nat.zero_add]

/-- Every span lies within the source. -/
theorem ofPosition_bounds (m : Metadata) (source : String) :
    (ofPosition m source).start ≤ (ofPosition m source).stop ∧
      (ofPosition m source).stop ≤ source.length := by
  rcases hl : m.line with _ | line
  · simp [ofPosition_of_missing (Or.inl hl)]
  rcases hc : m.column with _ | column
  · simp [ofPosition_of_missing (Or.inr hc)]
  rcases ht : (pieces source.toList)[line - 1]? with _ | text
  · simp [ofPosition_of_past_end hl hc (Or.inr ht)]
  by_cases h0 : line = 0
  · simp [ofPosition_of_past_end hl hc (Or.inl h0)]
  -- the line, with the lines before it, is part of the source
  have hlen := congrArg List.length (flatten_eq_of_getElem? ht)
  rw [length_flatten_pieces, String.length_toList] at hlen
  simp only [List.length_append] at hlen
  rw [ofPosition_of_getElem? hl hc (by omega) ht]
  have := inLine_bounds ((pieces source.toList).take (line - 1)).flatten.length text column
  omega

end Position

/-- Report spans are in bounds and point at the token. For every source and every position,
the span starts no later than it ends and ends within the source; it is empty at the start when
the line or the column is missing, and empty at the end of the source when the line is `0` or
past the last line. Otherwise the span starts in its line, at the line's offset plus the
column less one clamped to the line's width, ends within the line, and covers the maximal run
of non-blank characters from its start, or exactly the one character there when that run is
empty (none when the start is the line's end). -/
theorem span_points_at_token (m : Metadata) (source : String) :
    (ofPosition m source).start ≤ (ofPosition m source).stop ∧
    (ofPosition m source).stop ≤ source.length ∧
    ((m.line = none ∨ m.column = none) → ofPosition m source = ⟨0, 0⟩) ∧
    ∀ line column, m.line = some line → m.column = some column →
      ((line = 0 ∨ (pieces source.toList)[line - 1]? = none) →
        ofPosition m source = ⟨source.length, source.length⟩) ∧
      ∀ text, 0 < line → (pieces source.toList)[line - 1]? = some text →
        let offset := ((pieces source.toList).take (line - 1)).flatten.length
        let skip := min (column - 1) text.length
        let run := (text.drop skip).takeWhile (!Text.isBlank ·)
        (ofPosition m source).start = offset + skip ∧
        (ofPosition m source).stop ≤ offset + text.length ∧
        (ofPosition m source).covered source.toList =
          if run = [] then (text.drop skip).take 1 else run := by
  refine ⟨(ofPosition_bounds m source).1, (ofPosition_bounds m source).2, ofPosition_of_missing,
    fun line column hl hc => ⟨ofPosition_of_past_end hl hc, fun text h0 ht => ?_⟩⟩
  intro offset skip run
  rw [ofPosition_of_getElem? hl hc h0 ht]
  -- the source is the lines before, the line, and the lines after
  have hsource : source.toList = ((pieces source.toList).take (line - 1)).flatten ++ text ++
      ((pieces source.toList).drop (line - 1 + 1)).flatten := by
    rw [← flatten_eq_of_getElem? ht, flatten_pieces]
  refine ⟨start_inLine _ _ _, (inLine_bounds _ _ _).2, ?_⟩
  have hcovered := @covered_inLine offset text column
    ((pieces source.toList).take (line - 1)).flatten
    ((pieces source.toList).drop (line - 1 + 1)).flatten rfl
  rw [← hsource] at hcovered
  exact hcovered

/-- In `x = 1`, `while y:`, `    break`, the span at line 3, column 5 covers `break`; in the one
line `é = ñandú`, line 3 is past the end and the span is empty at character 10. -/
theorem span_covers_break_in_loop :
    let loop := "x = 1\nwhile y:\n    break\n"
    let word := "é = ñandú\n"
    (pieces loop.toList)[3 - 1]? = some "    break\n".toList ∧
      (ofPosition { line := some 3, column := some 5 } loop).covered loop.toList =
        "break".toList ∧
      (pieces word.toList)[3 - 1]? = none ∧
      ofPosition { line := some 3, column := some 1 } word = ⟨10, 10⟩ := by
  intro loop word
  have hloop : (pieces loop.toList)[3 - 1]? = some "    break\n".toList := by decide
  have hword : (pieces word.toList)[3 - 1]? = none := by decide
  have hbreak := ((span_points_at_token { line := some 3, column := some 5 } loop).2.2.2
    3 5 rfl rfl).2 _ (by decide) hloop
  have hend := ((span_points_at_token { line := some 3, column := some 1 } word).2.2.2
    3 1 rfl rfl).1 (Or.inr hword)
  refine ⟨hloop, ?_, hword, ?_⟩
  · rw [hbreak.2.2]
    decide
  · rw [hend]
    decide

end Span

end ScopedIr
