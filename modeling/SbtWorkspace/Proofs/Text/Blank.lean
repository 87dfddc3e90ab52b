import Mathlib.Data.List.TakeWhile
import SbtWorkspace.Text.Blank

/-! Lists that are trimmed. What trimming leaves is trimmed, and it leaves what was trimmed before, whatever
stands around it. Main statements: `isTrimmed_trimWhile` and `trimWhile_append`. -/

namespace SbtWorkspace

/-- Whether a list neither begins nor ends with a member that satisfies `p`. -/
def IsTrimmed (p : α → Bool) (l : List α) : Prop :=
  (∀ x ∈ l.head?, p x = false) ∧ ∀ x ∈ l.getLast?, p x = false

instance (p : α → Bool) (l : List α) : Decidable (IsTrimmed p l) := inferInstanceAs (Decidable (_ ∧ _))

theorem head?_dropWhile_neg {p : α → Bool} {l : List α} {x : α} (h : x ∈ (l.dropWhile p).head?) :
    p x = false := by
  have hnot := List.head?_dropWhile_not p l
  rw [Option.mem_def.1 h] at hnot
  exact hnot

theorem isTrimmed_trimWhile (p : α → Bool) (l : List α) : IsTrimmed p (trimWhile p l) := by
  refine ⟨fun x hx => ?_, fun x hx => ?_⟩
  · obtain ⟨trail, htrail, -⟩ := exists_eq_dropEndWhile p (l.dropWhile p)
    have hhead : (dropEndWhile p (l.dropWhile p)).head? = some x := hx
    have hdrop : x ∈ (l.dropWhile p).head? := by
      rw [htrail, List.head?_append, hhead]
      rfl
    exact head?_dropWhile_neg hdrop
  · rw [trimWhile, dropEndWhile, List.getLast?_reverse] at hx
    exact head?_dropWhile_neg hx

theorem trimWhile_of_all {p : α → Bool} {l : List α} (h : ∀ x ∈ l, p x = true) : trimWhile p l = [] := by
  rw [trimWhile, List.dropWhile_eq_nil_iff.2 h]
  rfl

/-- What is trimmed and not empty is left of a list in which members that satisfy `p` stand around it. -/
theorem trimWhile_append {p : α → Bool} {lead l trail : List α} (hlead : ∀ x ∈ lead, p x = true)
    (hl : IsTrimmed p l) (hne : l ≠ []) (htrail : ∀ x ∈ trail, p x = true) :
    trimWhile p (lead ++ l ++ trail) = l := by
  have hhead : (l ++ trail).dropWhile p = l ++ trail := by
    obtain ⟨x, rest, rfl⟩ := List.exists_cons_of_ne_nil hne
    exact List.dropWhile_cons_of_neg (by simp [hl.1 x rfl])
  have hlast : l.reverse.dropWhile p = l.reverse := by
    obtain ⟨x, rest, hx⟩ := List.exists_cons_of_ne_nil (List.reverse_ne_nil_iff.2 hne)
    have hp : p x = false := hl.2 x (by rw [← List.head?_reverse, hx]; rfl)
    rw [hx, List.dropWhile_cons_of_neg (by simp [hp])]
  rw [trimWhile, List.append_assoc, List.dropWhile_append_of_pos hlead, hhead, dropEndWhile,
    List.reverse_append, List.dropWhile_append_of_pos (by simpa using htrail), hlast, List.reverse_reverse]

end SbtWorkspace
