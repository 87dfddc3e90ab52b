/-! Division rounded to the nearest integer. Main statements: the result is within half a unit of the
quotient (`two_mul_roundHalfEven_le`, `le_two_mul_roundHalfEven`). -/

namespace SbtWorkspace

def roundHalfEven (n d : Nat) : Nat :=
  if 2 * (n % d) < d ∨ (2 * (n % d) = d ∧ n / d % 2 = 0) then n / d else n / d + 1

theorem two_mul_roundHalfEven_le {n d : Nat} (h : 0 < d) :
    2 * (d * roundHalfEven n d) ≤ 2 * n + d := by
  have := Nat.div_add_mod n d
  have := Nat.mod_lt n h
  unfold roundHalfEven
  split
  · omega
  · rw [Nat.mul_add]
    omega

theorem le_two_mul_roundHalfEven {n d : Nat} (h : 0 < d) :
    2 * n ≤ 2 * (d * roundHalfEven n d) + d := by
  have := Nat.div_add_mod n d
  have := Nat.mod_lt n h
  unfold roundHalfEven
  split
  · omega
  · rw [Nat.mul_add]
    omega

end SbtWorkspace
