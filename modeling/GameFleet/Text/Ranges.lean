/-!
# Ranges of characters

A property of characters is written as the ranges of the numbers of those that have it, both ends
included.

- `Ranges.contains`: whether a character is in one of the ranges.
-/

namespace GameFleet.Text

/-- Ranges of character numbers, least first. -/
abbrev Ranges := Array (Nat × Nat)

namespace Ranges

/-- Whether a character is in one of the ranges. -/
def contains (rs : Ranges) (c : Char) : Bool :=
  rs.any fun (least, greatest) => least ≤ c.toNat && c.toNat ≤ greatest

/-- A character is in the ranges exactly when its number lies between the ends of one of them. -/
theorem contains_iff {rs : Ranges} {c : Char} :
    rs.contains c = true ↔ ∃ r ∈ rs, r.1 ≤ c.toNat ∧ c.toNat ≤ r.2 := by
  rw [contains, Array.any_eq_true']
  simp

end Ranges

end GameFleet.Text
