/-! Sets of numbers given as closed ranges, the form in which the Unicode properties below are tabled. -/

namespace SbtWorkspace.Ranges

def covers (ranges : List (Nat × Nat)) (n : Nat) : Bool :=
  ranges.any fun r => decide (r.1 ≤ n) && decide (n ≤ r.2)

theorem covers_iff {ranges : List (Nat × Nat)} {n : Nat} :
    covers ranges n = true ↔ ∃ r ∈ ranges, r.1 ≤ n ∧ n ≤ r.2 := by
  simp [covers]

end SbtWorkspace.Ranges
