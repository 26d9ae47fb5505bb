/-!
Sets of characters, written as ascending lists of inclusive ranges of code points. The properties
of the character database that the reader and the error texts depend on are tables of this form.
-/

namespace SequenceChart.Text

/-- A set of characters as ascending, disjoint, inclusive ranges of code points. -/
abbrev CodeRanges := List (Nat × Nat)

/-- Whether some range holds the character. The search stops at the first range above it. -/
def CodeRanges.has (c : Char) : CodeRanges → Bool
  | [] => false
  | (lo, hi) :: rest => lo ≤ c.toNat && (c.toNat ≤ hi || CodeRanges.has c rest)

end SequenceChart.Text
