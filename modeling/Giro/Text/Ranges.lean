/-!
Sets of code points given by intervals: a character class of a standard is data.
-/

namespace Giro.Text

abbrev Ranges := List (Nat × Nat)

def Ranges.covers (ranges : Ranges) (n : Nat) : Bool :=
  ranges.any fun (first, last) => first ≤ n && n ≤ last

theorem Ranges.covers_iff {ranges : Ranges} {n : Nat} :
    ranges.covers n = true ↔ ∃ r ∈ ranges, r.1 ≤ n ∧ n ≤ r.2 := by
  simp [Ranges.covers]

end Giro.Text
