/-!
# Blank characters

The Unicode White_Space property: the characters that separate tokens and that trailing
trimming removes. It holds the ASCII blanks (tab, line feed, vertical tab, form feed,
carriage return, space) and eighteen others such as the next line character U+0085, the
no-break space and the line and paragraph separators.
-/

namespace ScopedIr.Text

/-- Whether the character has the Unicode White_Space property. -/
def isBlank (c : Char) : Bool :=
  let n := c.toNat
  (9 ≤ n && n ≤ 13) || n == 0x20 || n == 0x85 || n == 0xA0 || n == 0x1680 ||
    (0x2000 ≤ n && n ≤ 0x200A) || n == 0x2028 || n == 0x2029 || n == 0x202F ||
    n == 0x205F || n == 0x3000

/-- Every blank of the core character class is a blank here. -/
theorem isBlank_of_isWhitespace {c : Char} (h : c.isWhitespace = true) : isBlank c = true := by
  simp only [Char.isWhitespace, Bool.or_eq_true, decide_eq_true_eq] at h
  rcases h with ((h | h) | h) | h <;> subst h <;> decide

example : isBlank ' ' = true ∧ isBlank '\x0b' = true ∧ isBlank 'x' = false := by decide

end ScopedIr.Text
