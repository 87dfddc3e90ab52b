/-! Lines. A line ends at a line feed, at a carriage return, or at the two in this order;
no other separator ends one. Main statements: `notMem_of_mem_lines`, by which a line holds neither, and
`lines_append_feed` and its like, by which a text is read line by line. -/

namespace SbtWorkspace.Line

variable {α : Type} [DecidableEq α]

/-- Every line end written as one line feed. `afterReturn` says that the item before was a carriage
return, whose line feed is then swallowed. -/
def unifyEnds (lf cr : α) (afterReturn : Bool) : List α → List α
  | [] => []
  | c :: rest =>
    if c = cr then lf :: unifyEnds lf cr true rest
    else if c = lf ∧ afterReturn then unifyEnds lf cr false rest
    else c :: unifyEnds lf cr false rest

/-- The lines of a text, the last one being what follows the last line end. -/
def lines (lf cr : α) (text : List α) : List (List α) := (unifyEnds lf cr false text).splitOn lf

theorem notMem_unifyEnds {lf cr : α} (h : lf ≠ cr) (afterReturn : Bool) (l : List α) :
    cr ∉ unifyEnds lf cr afterReturn l := by
  induction l generalizing afterReturn with
  | nil => simp [unifyEnds]
  | cons c l ih =>
    simp only [unifyEnds]
    split
    · simp [Ne.symm h, ih]
    · rename_i hc
      split
      · exact ih false
      · simp [Ne.symm hc, ih]

/-- No piece holds the separator. -/
theorem notMem_of_mem_splitOn {sep : α} {l piece : List α} (h : piece ∈ l.splitOn sep) :
    sep ∉ piece := by
  induction l generalizing piece with
  | nil => simp_all
  | cons c l ih =>
    rw [List.splitOn_cons_eq_if_modifyHead] at h
    split at h
    · rcases List.mem_cons.1 h with rfl | h
      · simp
      · exact ih h
    · rename_i hc
      cases hs : l.splitOn sep with
      | nil => exact absurd hs (List.splitOn_ne_nil sep l)
      | cons p ps =>
        rw [hs, List.modifyHead_cons] at h
        rcases List.mem_cons.1 h with rfl | h
        · have hp : sep ∉ p := ih (by simp [hs])
          simp only [List.mem_cons, not_or]
          exact ⟨fun e => hc (by simp [e]), hp⟩
        · exact ih (by simp [hs, h])

/-- Every item of a piece is an item of the list. -/
theorem mem_of_mem_splitOn {sep x : α} {l piece : List α} (h : piece ∈ l.splitOn sep)
    (hx : x ∈ piece) : x ∈ l := by
  induction l generalizing piece with
  | nil => simp_all
  | cons c l ih =>
    rw [List.splitOn_cons_eq_if_modifyHead] at h
    split at h
    · rcases List.mem_cons.1 h with rfl | h
      · simp at hx
      · exact List.mem_cons_of_mem _ (ih h hx)
    · cases hs : l.splitOn sep with
      | nil => exact absurd hs (List.splitOn_ne_nil sep l)
      | cons p ps =>
        rw [hs, List.modifyHead_cons] at h
        rcases List.mem_cons.1 h with rfl | h
        · rcases List.mem_cons.1 hx with rfl | hx
          · simp
          · exact List.mem_cons_of_mem _ (ih (by simp [hs]) hx)
        · exact List.mem_cons_of_mem _ (ih (by simp [hs, h]) hx)

/-- A line holds no line end. -/
theorem notMem_of_mem_lines {lf cr : α} (hne : lf ≠ cr) {text line : List α}
    (h : line ∈ lines lf cr text) : lf ∉ line ∧ cr ∉ line :=
  ⟨notMem_of_mem_splitOn h, fun hx => notMem_unifyEnds hne false text (mem_of_mem_splitOn h hx)⟩

section

variable {lf cr : α} {line : List α} (hl : lf ∉ line) (hc : cr ∉ line)

include hl hc

theorem unifyEnds_append (rest : List α) :
    unifyEnds lf cr false (line ++ rest) = line ++ unifyEnds lf cr false rest := by
  induction line with
  | nil => rfl
  | cons c line ih =>
    have hcc : c ≠ cr := fun e => hc (by simp [e])
    have hline := ih (fun h => hl (by simp [h])) fun h => hc (by simp [h])
    simp [unifyEnds, hcc, hline]

theorem lines_of_notMem : lines lf cr line = [line] := by
  have h := unifyEnds_append hl hc []
  rw [List.append_nil] at h
  simp [lines, h, unifyEnds, List.splitOn_eq_singleton hl]

theorem lines_append_feed (hne : lf ≠ cr) (rest : List α) :
    lines lf cr (line ++ lf :: rest) = line :: lines lf cr rest := by
  have h : unifyEnds lf cr false (lf :: rest) = lf :: unifyEnds lf cr false rest := by
    simp [unifyEnds, hne]
  rw [lines, unifyEnds_append hl hc, h, List.splitOn_append_cons_self_of_not_mem hl, lines]

theorem lines_append_return_feed (hne : lf ≠ cr) (rest : List α) :
    lines lf cr (line ++ cr :: lf :: rest) = line :: lines lf cr rest := by
  have h : unifyEnds lf cr false (cr :: lf :: rest) = lf :: unifyEnds lf cr false rest := by
    simp [unifyEnds, hne]
  rw [lines, unifyEnds_append hl hc, h, List.splitOn_append_cons_self_of_not_mem hl, lines]

theorem lines_append_return {rest : List α} (hr : rest.head? ≠ some lf) :
    lines lf cr (line ++ cr :: rest) = line :: lines lf cr rest := by
  have h : unifyEnds lf cr false (cr :: rest) = lf :: unifyEnds lf cr false rest := by
    cases rest with
    | nil => simp [unifyEnds]
    | cons c rest =>
      have hcl : c ≠ lf := fun e => hr (by simp [e])
      simp [unifyEnds, hcl]
  rw [lines, unifyEnds_append hl hc, h, List.splitOn_append_cons_self_of_not_mem hl, lines]

end

end SbtWorkspace.Line
