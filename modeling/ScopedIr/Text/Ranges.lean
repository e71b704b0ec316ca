/-!
# Code point ranges

A character property written as an array of inclusive code point ranges `(lo, hi)`, the
form in which the Unicode tables of this library are kept. Membership is a scan of the
ranges; `contains_iff` states it as an existential over the array.
-/

namespace ScopedIr.Text

/-- A set of code points given by inclusive ranges `(lo, hi)`. -/
abbrev CodeRanges := Array (Nat × Nat)

/-- Whether the code point `n` lies in one of the ranges. -/
def CodeRanges.contains (rs : CodeRanges) (n : Nat) : Bool :=
  rs.any fun r => r.1 ≤ n && n ≤ r.2

/-- A code point is in the set exactly when some range holds it. -/
theorem CodeRanges.contains_iff (rs : CodeRanges) (n : Nat) :
    rs.contains n = true ↔ ∃ r ∈ rs, r.1 ≤ n ∧ n ≤ r.2 := by
  rw [CodeRanges.contains, Array.any_eq_true']
  simp only [Bool.and_eq_true, decide_eq_true_eq]

end ScopedIr.Text
