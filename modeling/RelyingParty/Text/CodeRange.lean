/-!
# Classes of characters given by ranges of code points

The properties of characters that this library asks about come from the Unicode character
database, where each is a list of ranges. A class is kept as that list, so that a table can be
read against the database line by line, and membership is one pass over it.
-/

namespace RelyingParty.Text

/-- Code points from the first number to the second, both included. -/
abbrev CodeRange := Nat × Nat

/-- Whether `c` lies in one of `ranges`. -/
def inRanges (ranges : List CodeRange) (c : Char) : Bool :=
  ranges.any fun r => r.1 ≤ c.toNat && c.toNat ≤ r.2

theorem inRanges_eq_true_iff {ranges : List CodeRange} {c : Char} :
    inRanges ranges c = true ↔ ∃ r ∈ ranges, r.1 ≤ c.toNat ∧ c.toNat ≤ r.2 := by
  simp [inRanges]

end RelyingParty.Text
