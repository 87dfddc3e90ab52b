import SbtWorkspace.Text.CodePoint

/-! Control sequences. A terminal acts on them; in output that no terminal shows they are left out. A
sequence starts with the escape character and a bracket and ends with the first ASCII letter, before
which only digits, semicolons and question marks may stand. Main statement: text without the escape
character stays as it is (`dropSequences_of_no_escape`). -/

namespace SbtWorkspace.Terminal

/-- The escape character. -/
def escape : CodePoint := .scalar '\x1b'

def isSequenceParameter (c : CodePoint) : Bool :=
  (0x30 ≤ c.val && c.val ≤ 0x39) || c = ';' || c = '?'

def isSequenceEnd (c : CodePoint) : Bool :=
  (0x41 ≤ c.val && c.val ≤ 0x5a) || (0x61 ≤ c.val && c.val ≤ 0x7a)

def sequenceLength? : Text → Option Nat
  | c :: .scalar '[' :: rest =>
    if c = escape then
      let parameters := rest.takeWhile isSequenceParameter
      match rest.drop parameters.length with
      | d :: _ => if isSequenceEnd d then some (parameters.length + 3) else none
      | [] => none
    else none
  | _ => none

/-- The text without its sequences, of which `skip` code points belong to one that is read. -/
def dropSequencesFrom (skip : Nat) : Text → Text
  | [] => []
  | c :: rest =>
    if skip ≠ 0 then dropSequencesFrom (skip - 1) rest
    else match sequenceLength? (c :: rest) with
      | some length => dropSequencesFrom (length - 1) rest
      | none => c :: dropSequencesFrom 0 rest

/-- The text without its sequences. -/
def dropSequences (t : Text) : Text := dropSequencesFrom 0 t

theorem sequenceLength?_of_ne_escape {c : CodePoint} (h : c ≠ escape) (rest : Text) :
    sequenceLength? (c :: rest) = none := by
  unfold sequenceLength?
  split
  · rename_i heq
    injection heq with hc
    subst hc
    simp [h]
  · rfl

theorem dropSequences_of_no_escape {t : Text} (h : escape ∉ t) : dropSequences t = t := by
  unfold dropSequences
  induction t with
  | nil => rfl
  | cons c t ih =>
    simp only [List.mem_cons, not_or] at h
    have hc : c ≠ escape := fun e => h.1 e.symm
    simp [dropSequencesFrom, sequenceLength?_of_ne_escape hc, ih h.2]

theorem dropSequencesFrom_sublist (skip : Nat) (t : Text) : (dropSequencesFrom skip t).Sublist t := by
  fun_induction dropSequencesFrom skip t with
  | case1 => exact .refl _
  | case2 _ c _ _ ih => exact ih.cons c
  | case3 _ c _ _ _ _ ih => exact ih.cons c
  | case4 _ c _ _ _ ih => exact ih.cons_cons c

theorem dropSequences_sublist (t : Text) : (dropSequences t).Sublist t := dropSequencesFrom_sublist 0 t

end SbtWorkspace.Terminal
