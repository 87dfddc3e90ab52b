import SbtWorkspace.Terminal.Escape

/-! Control sequences in a text that is put together from parts. No sequence goes across a code point that
stands in none, so the sequences are left out of each part on its own. Main statement:
`dropSequences_append`. -/

namespace SbtWorkspace.Terminal

variable {a b t : Text} {c d : CodePoint} {skip length : Nat}

/-- Whether a code point stands in no sequence: it is no escape, no bracket, and neither goes before the
letter at the end of a sequence nor is one. -/
def IsBreak (d : CodePoint) : Prop :=
  d ≠ escape ∧ d ≠ '[' ∧ isSequenceParameter d = false ∧ isSequenceEnd d = false

instance (d : CodePoint) : Decidable (IsBreak d) := inferInstanceAs (Decidable (_ ∧ _))

theorem takeWhile_append_break (hd : IsBreak d) :
    (a ++ d :: b).takeWhile isSequenceParameter = a.takeWhile isSequenceParameter := by
  induction a with
  | nil => simp [hd.2.2.1]
  | cons c a ih => simp only [List.cons_append, List.takeWhile_cons, ih]

theorem sequenceLength?_append (hd : IsBreak d) : sequenceLength? (a ++ d :: b) = sequenceLength? a := by
  match a with
  | [] => exact sequenceLength?_of_ne_escape hd.1 b
  | [c] =>
    have hb : ∀ rest, d :: b ≠ .scalar '[' :: rest := fun rest h => hd.2.1 (List.cons.inj h).1
    simp only [List.singleton_append]
    unfold sequenceLength?
    split
    · rename_i heq
      exact absurd (List.cons.inj heq).2 (hb _)
    · rfl
  | c :: e :: rest =>
    by_cases he : e = .scalar '['
    · subst he
      simp only [List.cons_append, sequenceLength?, takeWhile_append_break hd,
        List.drop_append_of_le_length (List.takeWhile_sublist (l := rest) isSequenceParameter).length_le]
      split
      · cases hr : rest.drop (rest.takeWhile isSequenceParameter).length with
        | nil => simp [hd.2.2.2]
        | cons x xs => simp
      · rfl
    · have hnone : ∀ more, sequenceLength? (c :: e :: more) = none := by
        intro more
        unfold sequenceLength?
        split
        · rename_i heq
          exact absurd (List.cons.inj (List.cons.inj heq).2).1 he
        · rfl
      rw [List.cons_append, List.cons_append, hnone, hnone]

theorem sequenceLength?_le (h : sequenceLength? t = some length) : 0 < length ∧ length ≤ t.length := by
  unfold sequenceLength? at h
  split at h
  · rename_i c rest
    split at h
    · simp only at h
      split at h
      · rename_i d more hr
        split at h
        · cases h
          have hl := congrArg List.length hr
          simp only [List.length_drop, List.length_cons] at hl ⊢
          omega
        · cases h
      · cases h
    · cases h
  · cases h

theorem dropSequencesFrom_append (hd : IsBreak d) (hskip : skip ≤ a.length) :
    dropSequencesFrom skip (a ++ d :: b) = dropSequencesFrom skip a ++ d :: dropSequences b := by
  induction a generalizing skip with
  | nil =>
    obtain rfl : skip = 0 := Nat.le_zero.1 hskip
    simp [dropSequencesFrom, dropSequences, sequenceLength?_of_ne_escape hd.1]
  | cons c a ih =>
    have hs : sequenceLength? (c :: (a ++ d :: b)) = sequenceLength? (c :: a) :=
      sequenceLength?_append (a := c :: a) hd
    rw [List.length_cons] at hskip
    rw [List.cons_append, dropSequencesFrom, dropSequencesFrom, hs]
    split
    · exact ih (by omega)
    · cases hl : sequenceLength? (c :: a) with
      | none => simp only [ih (Nat.zero_le _), List.cons_append]
      | some length =>
        have := (sequenceLength?_le hl).2
        rw [List.length_cons] at this
        exact ih (by omega)

/-- The sequences of a text with a break in it are those before the break and those after it. -/
theorem dropSequences_append (hd : IsBreak d) (a b : Text) :
    dropSequences (a ++ d :: b) = dropSequences a ++ d :: dropSequences b :=
  dropSequencesFrom_append hd (Nat.zero_le _)

theorem dropSequences_cons (hd : IsBreak d) (b : Text) : dropSequences (d :: b) = d :: dropSequences b :=
  dropSequences_append hd [] b

theorem sublist_dropSequencesFrom (skip : Nat) (t : Text) : (dropSequencesFrom skip t).Sublist t := by
  induction t generalizing skip with
  | nil => exact List.Sublist.refl _
  | cons c t ih =>
    rw [dropSequencesFrom]
    split
    · exact (ih _).cons c
    · split
      · exact (ih _).cons c
      · exact (ih _).cons_cons c

theorem mem_of_mem_dropSequences (h : c ∈ dropSequences t) : c ∈ t :=
  (sublist_dropSequencesFrom 0 t).subset h

end SbtWorkspace.Terminal
