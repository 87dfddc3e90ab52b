import Mathlib.Algebra.Group.Nat.Even
import Mathlib.Data.List.Basic
import Mathlib.Data.List.DropRight
import Mathlib.Data.List.Induction
import SbtWorkspace.Proofs.Properties.RoundTrip
import SbtWorkspace.Proofs.Text.Blank

/-! # Natural lines joined one after the other

Joining walks over the natural lines of a text and keeps one thing on the way, what a continued line has
gathered. A step is `joinLine`; a run is cut anywhere by `joinLines_append`. What is kept never ends in an
odd run of backslashes (`settled_pendingAfter`), so whether a line goes on can be told from the line that is
read, and no gathered text is needed for it (`isSome_pendingAfter`). What is put together in the end is a
whole line (`isWhole_of_mem_logicalLines`). -/

namespace SbtWorkspace.Properties

/-! ## The end of a line that goes on -/

/-- No backslash ends a key or is skipped at the start of a line. -/
theorem ne_backslash_of_boundary {c : CodePoint} (hc : isSeparator c = true ∨ isGap c = true) :
    c ≠ .scalar '\\' := by
  rintro rfl
  exact absurd hc (by decide)

/-- Behind a text that is not open, a line is open just when it is by itself. -/
theorem endsOpen_append {s : Text} (hs : endsOpen s = false) (t : Text) :
    endsOpen (s ++ t) = endsOpen t := by
  rw [endsOpen_eq_leavesOpen] at hs
  rw [endsOpen_eq_leavesOpen, endsOpen_eq_leavesOpen, leavesOpen_append, hs]

/-- What holds no backslash makes no difference to the end. -/
theorem endsOpen_of_ne_backslash {s : Text} (hs : ∀ c ∈ s, c ≠ .scalar '\\') (t : Text) :
    endsOpen (s ++ t) = endsOpen t := by
  rw [endsOpen_eq_leavesOpen, endsOpen_eq_leavesOpen, leavesOpen_of_ne_backslash hs]

theorem endsOpen_cons {c : CodePoint} (hc : c ≠ .scalar '\\') (t : Text) :
    endsOpen (c :: t) = endsOpen t :=
  endsOpen_of_ne_backslash (s := [c]) (by simpa using hc) t

/-- A backslash that has its code point makes no difference either. -/
theorem endsOpen_pair (e : CodePoint) (t : Text) : endsOpen (.scalar '\\' :: e :: t) = endsOpen t := by
  rw [endsOpen_eq_leavesOpen, endsOpen_eq_leavesOpen]
  simp [leavesOpen]

theorem ne_backslash_of_mem_takeWhile {t : Text} : ∀ c ∈ t.takeWhile isGap, c ≠ .scalar '\\' :=
  fun _ hc => ne_backslash_of_boundary (.inr (List.mem_takeWhile_imp hc))

theorem endsOpen_dropWhile_isGap (t : Text) : endsOpen (t.dropWhile isGap) = endsOpen t := by
  rw [← endsOpen_of_ne_backslash ne_backslash_of_mem_takeWhile, List.takeWhile_append_dropWhile]

theorem endsOpen_eq_false_iff {t : Text} :
    endsOpen t = false ↔ Even (t.rtakeWhile (· = .scalar '\\')).length := by
  simp [endsOpen, List.rtakeWhile, Nat.even_iff]

/-- An open text without the backslash that leaves it open is not open. -/
theorem exists_concat_of_endsOpen {t : Text} (ht : endsOpen t = true) :
    ∃ s, t = s ++ [.scalar '\\'] ∧ endsOpen s = false := by
  rcases List.eq_nil_or_concat' t with rfl | ⟨s, c, rfl⟩
  · exact absurd ht (by decide)
  · rw [endsOpen_concat] at ht
    obtain ⟨hc, hs⟩ := Bool.and_eq_true_iff.1 ht
    exact ⟨s, by rw [of_decide_eq_true hc], by simpa using hs⟩

/-! ## One step -/

def joinLine (pending : Option Text) (raw : Text) : Option Text × List Text :=
  let line := raw.dropWhile isGap
  if pending.isNone && isIgnored line then (none, [])
  else
    let gathered := pending.getD [] ++ line
    if endsOpen gathered then (some gathered.dropLast, []) else (none, [gathered])

theorem joinLines_cons (pending : Option Text) (raw : Text) (rest : List Text) :
    joinLines pending (raw :: rest) =
      (joinLine pending raw).2 ++ joinLines (joinLine pending raw).1 rest := by
  rw [joinLines, joinLine]
  split
  · rfl
  · dsimp only
    split <;> rfl

/-- What is kept of a continued line does not end in an odd run of backslashes. -/
def Settled (pending : Option Text) : Prop := ∀ gathered ∈ pending, endsOpen gathered = false

theorem settled_joinLine (pending : Option Text) (raw : Text) : Settled (joinLine pending raw).1 := by
  intro gathered hg
  simp only [joinLine] at hg
  split at hg
  · cases hg
  · split at hg
    · rename_i ho
      obtain ⟨s, hs, hc⟩ := exists_concat_of_endsOpen ho
      rw [hs, List.dropLast_concat] at hg
      obtain rfl := Option.some.inj hg
      exact hc
    · cases hg

/-- Joined with what is pending, a natural line is open just when it is by itself. -/
theorem Settled.endsOpen {pending : Option Text} (hp : Settled pending) (raw : Text) :
    endsOpen (pending.getD [] ++ raw.dropWhile isGap) = endsOpen raw := by
  have hg : Properties.endsOpen (pending.getD []) = false := by
    cases pending with
    | none => rfl
    | some gathered => exact hp gathered rfl
  rw [endsOpen_append hg, endsOpen_dropWhile_isGap]

/-! ## Lines that go on -/

/-- Whether a natural line is a comment by itself. -/
def isComment (raw : Text) : Bool :=
  match raw.dropWhile isGap with
  | [] => false
  | c :: _ => c = '#' || c = '!'

/-- Whether a natural line goes on. What continues a line (`within`) is never a comment. -/
def opens (within : Bool) (raw : Text) : Bool := endsOpen raw && (within || !isComment raw)

/-- Whether natural lines end inside a continued line. -/
def goesOn (lines : List Text) : Bool := lines.foldl opens false

theorem isIgnored_of_isComment {raw : Text} (h : isComment raw = true) :
    isIgnored (raw.dropWhile isGap) = true := by
  unfold isComment at h
  split at h
  · cases h
  · rename_i hd
    rw [hd]
    exact h

/-- A line that is passed over is a comment or not open. -/
theorem opens_of_isIgnored {raw : Text} (h : isIgnored (raw.dropWhile isGap) = true) :
    opens false raw = false := by
  unfold opens isComment
  split
  · rename_i hd
    have ho : endsOpen raw = false := by rw [← endsOpen_dropWhile_isGap, hd]; rfl
    rw [ho, Bool.false_and]
  · rename_i hd
    rw [hd] at h
    simp only [isIgnored] at h
    simp [h]

theorem isSome_joinLine {pending : Option Text} (hp : Settled pending) (raw : Text) :
    (joinLine pending raw).1.isSome = opens pending.isSome raw := by
  have ho := hp.endsOpen raw
  by_cases hi : (pending.isNone && isIgnored (raw.dropWhile isGap)) = true
  · obtain ⟨hn, hi'⟩ := Bool.and_eq_true_iff.1 hi
    obtain rfl := Option.isNone_iff_eq_none.1 hn
    simp only [joinLine, hi, if_true, Option.isSome_none]
    exact (opens_of_isIgnored hi').symm
  · have hw : (pending.isSome || !isComment raw) = true := by
      cases pending with
      | some _ => rfl
      | none =>
        have hc : isComment raw = false :=
          Bool.eq_false_iff.2 fun hc => hi (by simp [isIgnored_of_isComment hc])
        simp [hc]
    simp only [joinLine, if_neg hi, ho, opens, hw, Bool.and_true]
    cases endsOpen raw <;> rfl

/-! ## A run -/

/-- The lines of a text as they stand in it, whether they go on or not. -/
abbrev naturalLines (text : Text) : List Text := Line.lines (.scalar '\n') (.scalar '\r') text

theorem logicalLines_eq (text : Text) : logicalLines text = joinLines none (naturalLines text) := rfl

/-- What is pending after natural lines. -/
def pendingAfter (pending : Option Text) (lines : List Text) : Option Text :=
  lines.foldl (fun pending raw => (joinLine pending raw).1) pending

/-- The logical lines that natural lines have ended. -/
def finished : Option Text → List Text → List Text
  | _, [] => []
  | pending, raw :: rest => (joinLine pending raw).2 ++ finished (joinLine pending raw).1 rest

theorem joinLines_append (pending : Option Text) (first second : List Text) :
    joinLines pending (first ++ second) =
      finished pending first ++ joinLines (pendingAfter pending first) second := by
  induction first generalizing pending with
  | nil => rfl
  | cons raw first ih =>
    rw [List.cons_append, joinLines_cons, ih, finished, List.append_assoc]
    rfl

theorem pendingAfter_concat (pending : Option Text) (lines : List Text) (raw : Text) :
    pendingAfter pending (lines ++ [raw]) = (joinLine (pendingAfter pending lines) raw).1 := by
  rw [pendingAfter, List.foldl_append]
  rfl

theorem goesOn_concat (lines : List Text) (raw : Text) :
    goesOn (lines ++ [raw]) = opens (goesOn lines) raw := by
  rw [goesOn, List.foldl_append]
  rfl

theorem settled_pendingAfter (lines : List Text) : Settled (pendingAfter none lines) := by
  rcases List.eq_nil_or_concat' lines with rfl | ⟨lines, raw, rfl⟩
  · intro gathered hg
    cases hg
  · rw [pendingAfter_concat]
    exact settled_joinLine _ _

/-- Something is pending just when the last line that was read goes on. -/
theorem isSome_pendingAfter (lines : List Text) : (pendingAfter none lines).isSome = goesOn lines := by
  induction lines using List.reverseRecOn with
  | nil => rfl
  | append_singleton lines raw ih =>
    rw [pendingAfter_concat, goesOn_concat, isSome_joinLine (settled_pendingAfter lines), ih]

theorem pendingAfter_eq_none_iff {lines : List Text} :
    pendingAfter none lines = none ↔ goesOn lines = false := by
  rw [← isSome_pendingAfter, Option.isSome_eq_false_iff, Option.isNone_iff_eq_none]

/-- Natural lines that do not end inside a continued line are joined apart from those after them. -/
theorem joinLines_append_of_not_goesOn {first : List Text} (h : goesOn first = false)
    (second : List Text) :
    joinLines none (first ++ second) = joinLines none first ++ joinLines none second := by
  have hp := pendingAfter_eq_none_iff.2 h
  have hf := joinLines_append none first []
  rw [List.append_nil, hp] at hf
  rw [joinLines_append, hp, hf, joinLines, List.append_nil]

/-! ## Whole lines -/

def IsUnbroken (t : Text) : Prop := .scalar '\n' ∉ t ∧ .scalar '\r' ∉ t

/-- A line as it is read for an entry: it holds no line end, starts with no gap, and has an even run of
backslashes at its end. -/
structure IsWhole (line : Text) : Prop where
  unbroken : IsUnbroken line
  unindented : ∀ c ∈ line.head?, c ∉ gaps
  even : Even (line.rtakeWhile (· = .scalar '\\')).length

section

variable {pending : Option Text} (hp : ∀ gathered ∈ pending, IsWhole gathered)

include hp

theorem isUnbroken_gathered {raw : Text} (hr : IsUnbroken raw) :
    IsUnbroken (pending.getD [] ++ raw.dropWhile isGap) := by
  have hg : IsUnbroken (pending.getD []) := by
    cases pending with
    | none => exact ⟨List.not_mem_nil, List.not_mem_nil⟩
    | some gathered => exact (hp gathered rfl).unbroken
  have hd {c : CodePoint} (hc : c ∉ raw) : c ∉ raw.dropWhile isGap :=
    fun h => hc ((List.dropWhile_sublist isGap).subset h)
  simp only [IsUnbroken, List.mem_append, not_or]
  exact ⟨⟨hg.1, hd hr.1⟩, hg.2, hd hr.2⟩

/-- What is gathered starts with what is pending, or else with what is left of the line that is read. -/
theorem notMem_gaps_of_gathered (raw : Text) :
    ∀ c ∈ (pending.getD [] ++ raw.dropWhile isGap).head?, c ∉ gaps := by
  intro c hc
  rw [List.head?_append] at hc
  rcases Option.or_eq_some_iff.1 hc with hc | ⟨-, hc⟩
  · cases pending with
    | none => cases hc
    | some gathered => exact (hp gathered rfl).unindented c hc
  · exact isGap_eq_false_iff.1 (head?_dropWhile_neg hc)

/-- A step keeps whole lines: what it leaves pending is one, and so is the line that it ends. -/
theorem isWhole_joinLine {raw : Text} (hr : IsUnbroken raw) :
    (∀ gathered ∈ (joinLine pending raw).1, IsWhole gathered) ∧
      ∀ line ∈ (joinLine pending raw).2, IsWhole line := by
  have hb := isUnbroken_gathered hp hr
  have hi := notMem_gaps_of_gathered hp raw
  simp only [joinLine]
  generalize pending.getD [] ++ raw.dropWhile isGap = gathered at hb hi
  split
  · simp
  · cases ho : endsOpen gathered with
    | false => simpa using ⟨hb, hi, endsOpen_eq_false_iff.1 ho⟩
    | true =>
      obtain ⟨s, rfl, hs⟩ := exists_concat_of_endsOpen ho
      have hsub : s ⊆ s ++ [.scalar '\\'] := List.subset_append_left _ _
      have hw : IsWhole s := by
        refine ⟨⟨fun h => hb.1 (hsub h), fun h => hb.2 (hsub h)⟩, fun c hc => hi c ?_,
          endsOpen_eq_false_iff.1 hs⟩
        rw [List.head?_append, Option.mem_def.1 hc]
        rfl
      simpa using hw

end

theorem isWhole_of_mem_joinLines {pending : Option Text} {lines : List Text}
    (hp : ∀ gathered ∈ pending, IsWhole gathered) (hl : ∀ raw ∈ lines, IsUnbroken raw) {line : Text}
    (h : line ∈ joinLines pending lines) : IsWhole line := by
  induction lines generalizing pending with
  | nil =>
    rcases pending with _ | _ | ⟨c, gathered⟩
    · cases h
    · cases h
    · exact (List.mem_singleton.1 h) ▸ hp _ rfl
  | cons raw lines ih =>
    obtain ⟨hnext, hended⟩ := isWhole_joinLine hp (hl raw (by simp))
    rw [joinLines_cons] at h
    rcases List.mem_append.1 h with h | h
    · exact hended line h
    · exact ih hnext (fun raw hr => hl raw (by simp [hr])) h

theorem isWhole_of_mem_logicalLines {text line : Text} (h : line ∈ logicalLines text) :
    IsWhole line := by
  have hl : ∀ raw ∈ naturalLines text, IsUnbroken raw :=
    fun _ hr => Line.notMem_of_mem_lines (by decide) hr
  exact isWhole_of_mem_joinLines (fun _ hg => absurd hg (by simp)) hl h

end SbtWorkspace.Properties
