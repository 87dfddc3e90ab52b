import SbtWorkspace.Text.CodePoint
import SbtWorkspace.Text.Ranges

/-! Blanks: the Unicode white space together with the four separators U+001C to U+001F.
Zero-width space and the byte order mark are not among them. Trimming takes blanks off both ends and leaves the
rest alone (`exists_eq_trimWhile`, `trimWhile_eq_self`). -/

namespace SbtWorkspace.Blank

def ranges : List (Nat × Nat) := [
  (0x9, 0xd), (0x1c, 0x20), (0x85, 0x85), (0xa0, 0xa0), (0x1680, 0x1680),
  (0x2000, 0x200a), (0x2028, 0x2029), (0x202f, 0x202f), (0x205f, 0x205f), (0x3000, 0x3000)]

def covers (n : Nat) : Bool := Ranges.covers ranges n

end SbtWorkspace.Blank

namespace SbtWorkspace

/-- Whether a code point is a blank. -/
def CodePoint.isBlank (c : CodePoint) : Bool := Blank.covers c.val

/-- The list without its longest end of members that satisfy `p`. -/
def dropEndWhile (p : α → Bool) (l : List α) : List α := (l.reverse.dropWhile p).reverse

/-- The list without such members at either end. -/
def trimWhile (p : α → Bool) (l : List α) : List α := dropEndWhile p (l.dropWhile p)

theorem exists_eq_dropEndWhile (p : α → Bool) (l : List α) :
    ∃ trail, l = dropEndWhile p l ++ trail ∧ ∀ x ∈ trail, p x = true := by
  refine ⟨(l.reverse.takeWhile p).reverse, ?_, fun x hx => ?_⟩
  · rw [dropEndWhile, ← List.reverse_append, List.takeWhile_append_dropWhile, List.reverse_reverse]
  · exact List.all_eq_true.1 List.all_takeWhile x (List.mem_reverse.1 hx)

/-- A list is what is left of it between members that satisfy `p`. -/
theorem exists_eq_trimWhile (p : α → Bool) (l : List α) :
    ∃ lead trail, l = lead ++ trimWhile p l ++ trail ∧ (∀ x ∈ lead, p x = true) ∧
      ∀ x ∈ trail, p x = true := by
  obtain ⟨trail, htrail, hp⟩ := exists_eq_dropEndWhile p (l.dropWhile p)
  refine ⟨l.takeWhile p, trail, ?_, List.all_eq_true.1 List.all_takeWhile, hp⟩
  rw [trimWhile, List.append_assoc, ← htrail, List.takeWhile_append_dropWhile]

/-- Nothing is taken off a list that neither begins nor ends with such a member. -/
theorem trimWhile_eq_self {p : α → Bool} {l : List α} (hhead : ∀ x ∈ l.head?, p x = false)
    (hlast : ∀ x ∈ l.getLast?, p x = false) : trimWhile p l = l := by
  have hdrop {l : List α} (h : ∀ x ∈ l.head?, p x = false) : l.dropWhile p = l := by
    cases l with
    | nil => rfl
    | cons x l => rw [List.dropWhile_cons_of_neg (by simp [h x rfl])]
  rw [trimWhile, hdrop hhead, dropEndWhile, hdrop (by simpa using hlast), List.reverse_reverse]

/-- The text without blanks at either end. -/
def Text.trim (t : Text) : Text := trimWhile CodePoint.isBlank t

end SbtWorkspace
