import Mathlib.Data.List.Basic
import SbtWorkspace.Text.Line

/-! # The lines of texts that are put together

Where two texts meet, their lines stay what they are if the second text begins a line (`lines_append`), or
if a line feed is put between them (`lines_append_feed_append`). The one exception is a line feed that
follows a carriage return: the two are a single line end. -/

namespace SbtWorkspace.Line

variable {α : Type} [DecidableEq α] {lf cr : α}

theorem unifyEnds_append_eq (afterReturn : Bool) (s t : List α) :
    unifyEnds lf cr afterReturn (s ++ t) =
      unifyEnds lf cr afterReturn s ++
        unifyEnds lf cr (s.foldl (fun _ c => decide (c = cr)) afterReturn) t := by
  induction s generalizing afterReturn with
  | nil => rfl
  | cons c s ih =>
    simp only [List.cons_append, unifyEnds, List.foldl_cons]
    by_cases hc : c = cr
    · simp [hc, ih]
    · have hd : decide (c = cr) = false := decide_eq_false hc
      rw [if_neg hc, if_neg hc, ih, hd]
      split <;> rfl

/-- A carriage return before a text counts only if a line feed begins the text. -/
theorem unifyEnds_of_head {t : List α} (ht : t.head? ≠ some lf) (afterReturn : Bool) :
    unifyEnds lf cr afterReturn t = unifyEnds lf cr false t := by
  cases t with
  | nil => rfl
  | cons c t =>
    have hc : c ≠ lf := fun e => ht (by simp [e])
    simp [unifyEnds, hc]

/-- What ends at a line end still does after the line ends are written alike. -/
theorem exists_unifyEnds_concat {c : α} (hc : c = lf ∨ c = cr) (s : List α) :
    ∃ u, unifyEnds lf cr false (s ++ [c]) = u ++ [lf] := by
  by_cases hr : c = cr
  · exact ⟨unifyEnds lf cr false s, by rw [unifyEnds_append_eq]; simp [unifyEnds, hr]⟩
  · obtain rfl := hc.resolve_right hr
    rcases List.eq_nil_or_concat' s with rfl | ⟨s, d, rfl⟩
    · exact ⟨[], by simp [unifyEnds, hr]⟩
    · rw [unifyEnds_append_eq, List.foldl_append]
      by_cases hd : d = cr
      -- the line feed is swallowed, and the carriage return before it has been written as one
      · exact ⟨unifyEnds c cr false s, by rw [unifyEnds_append_eq]; simp [unifyEnds, hd, hr]⟩
      · exact ⟨_, by simp [unifyEnds, hd, hr]; rfl⟩

/-- What begins with a line end begins with a line feed after the line ends are written alike. -/
theorem exists_unifyEnds_cons (hne : lf ≠ cr) {c : α} (hc : c = lf ∨ c = cr) (t : List α) :
    ∃ u, unifyEnds lf cr false (c :: t) = lf :: u := by
  rcases hc with rfl | rfl
  · exact ⟨_, by rw [unifyEnds, if_neg hne, if_neg (by simp)]⟩
  · exact ⟨_, by rw [unifyEnds, if_pos rfl]⟩

/-- Lines that are begun where a line has ended, and not by the line feed of this line end, are added to
the lines before them. -/
theorem lines_append {s t : List α} (hs : ∀ c ∈ s.getLast?, c = lf ∨ c = cr)
    (ht : t.head? ≠ some lf) : lines lf cr (s ++ t) = (lines lf cr s).dropLast ++ lines lf cr t := by
  rcases List.eq_nil_or_concat' s with rfl | ⟨s, c, rfl⟩
  · rfl
  · obtain ⟨u, hu⟩ := exists_unifyEnds_concat (hs c (by simp)) s
    have hl : (u ++ [lf]).splitOn lf = u.splitOn lf ++ [[]] := List.splitOn_append_cons_self u []
    rw [lines, unifyEnds_append_eq, unifyEnds_of_head ht, hu, List.append_assoc,
      List.singleton_append, List.splitOn_append_cons_self, lines, hu, hl, List.dropLast_concat, lines]

theorem lines_eq_concat_nil {s : List α} (hs : ∀ c ∈ s.getLast?, c = lf ∨ c = cr) :
    lines lf cr s = (lines lf cr s).dropLast ++ [[]] := by
  have h : lines lf cr (s ++ []) = (lines lf cr s).dropLast ++ [[]] := lines_append hs (by simp)
  rwa [List.append_nil] at h

/-- The rest of a text behind a line of it holds the other lines, if it begins with the end of this one. -/
theorem lines_append_of_lineEnd (hne : lf ≠ cr) {line t : List α} (hl : lf ∉ line) (hc : cr ∉ line)
    (ht : ∀ c ∈ t.head?, c = lf ∨ c = cr) : lines lf cr (line ++ t) = line :: (lines lf cr t).tail := by
  cases t with
  | nil => rw [List.append_nil, lines_of_notMem hl hc]; rfl
  | cons c t =>
    obtain ⟨u, hu⟩ := exists_unifyEnds_cons hne (ht c rfl) t
    have hn : (lf :: u).splitOn lf = [] :: u.splitOn lf :=
      List.splitOn_append_cons_self_of_not_mem List.not_mem_nil u
    rw [lines, unifyEnds_append hl hc, hu, List.splitOn_append_cons_self_of_not_mem hl, lines, hu, hn]
    rfl

/-- A line feed between two texts keeps their lines apart, unless it completes a line end of the first. -/
theorem lines_append_feed_append (hne : lf ≠ cr) {s : List α} (hs : s.getLast? ≠ some cr) (t : List α) :
    lines lf cr (s ++ lf :: t) = lines lf cr s ++ lines lf cr t := by
  have hr : s.foldl (fun _ c => decide (c = cr)) false = false := by
    rcases List.eq_nil_or_concat' s with rfl | ⟨s, c, rfl⟩
    · rfl
    · simpa using hs
  rw [lines, unifyEnds_append_eq, hr, unifyEnds, if_neg hne, if_neg (by simp),
    List.splitOn_append_cons_self, lines, lines]

/-- A line feed that completes a line end adds nothing. -/
theorem lines_concat_return_feed (hne : lf ≠ cr) (s : List α) :
    lines lf cr (s ++ [cr] ++ [lf]) = lines lf cr (s ++ [cr]) := by
  rw [lines, unifyEnds_append_eq, List.foldl_append]
  simp [unifyEnds, hne, lines]

end SbtWorkspace.Line
