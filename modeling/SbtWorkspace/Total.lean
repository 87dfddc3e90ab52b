/-! Sums of a measure over lists. Main statements: the sum over a list that is put together is the sum of the
sums (`total_append`), and it is no less than the measure of a member (`le_total_of_mem`). -/

namespace SbtWorkspace

def total {α : Type} (measure : α → Nat) : List α → Nat
  | [] => 0
  | a :: rest => measure a + total measure rest

variable {α : Type} (measure : α → Nat)

@[simp] theorem total_nil : total measure [] = 0 := rfl

@[simp] theorem total_cons (a : α) (as : List α) : total measure (a :: as) = measure a + total measure as := rfl

theorem total_append (as bs : List α) : total measure (as ++ bs) = total measure as + total measure bs := by
  induction as with
  | nil => simp
  | cons a as ih => simp [ih, Nat.add_assoc]

theorem le_total_of_mem {a : α} {as : List α} (h : a ∈ as) : measure a ≤ total measure as := by
  induction h with
  | head as => exact Nat.le_add_right ..
  | tail b _ ih => exact Nat.le_trans ih (Nat.le_add_left ..)

end SbtWorkspace
