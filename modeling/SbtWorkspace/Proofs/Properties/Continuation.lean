import Mathlib.Data.List.TakeWhile
import Mathlib.Logic.Relation
import SbtWorkspace.Proofs.Properties.Joining
import SbtWorkspace.Proofs.Text.Line

/-! # Lines may be continued anywhere

A line of an entry may be cut, with a backslash and any line end after the first part and any gaps before
the second. The text keeps its logical lines (`logicalLines_of_continued`), so what is read of it stays the
same, an error too. Cuts may be made one after the other, in lines that continue others or go on. -/

namespace SbtWorkspace.Properties

def EndsLine (c : CodePoint) : Prop := c = .scalar '\n' ∨ c = .scalar '\r'

instance : DecidablePred EndsLine := fun _ => inferInstanceAs (Decidable (_ ∨ _))

/-- A natural line of an entry, and a cut where it may be continued. The line is no comment, unless it
continues another line; nothing of it is lost with the gaps at the start of a natural line, and the
backslash that is put at the cut is not taken by one before it. -/
structure IsCut (before first second after : Text) : Prop where
  begins : ∀ c ∈ before.getLast?, EndsLine c
  ends : ∀ c ∈ after.head?, EndsLine c
  within : ∀ c ∈ first ++ second, ¬ EndsLine c
  entry : goesOn (naturalLines before).dropLast = true ∨ isComment (first ++ second) = false
  visible : ∃ c ∈ first, c ∉ gaps
  even : endsOpen first = false
  resumes : ∃ c ∈ second.head?, c ∉ gaps

/-- The second text is the first with one of its lines continued at a cut. -/
inductive Continued : Text → Text → Prop where
  | cut {before first second after ending indent : Text} :
      IsCut before first second after → ending ∈ lineEnds → IsGaps indent →
      Continued (before ++ (first ++ second) ++ after)
        (before ++ (first ++ [.scalar '\\'] ++ ending ++ indent ++ second) ++ after)

/-! ## The natural lines -/

theorem naturalLines_between {before line after : Text} (hb : ∀ c ∈ before.getLast?, EndsLine c)
    (ha : ∀ c ∈ after.head?, EndsLine c) (hl : ∀ c ∈ line, ¬ EndsLine c) (hne : line ≠ []) :
    naturalLines (before ++ (line ++ after)) =
      (naturalLines before).dropLast ++ line :: (naturalLines after).tail := by
  have hn : CodePoint.scalar '\n' ∉ line := fun h => hl _ h (.inl rfl)
  have hr : CodePoint.scalar '\r' ∉ line := fun h => hl _ h (.inr rfl)
  have hh : (line ++ after).head? ≠ some (.scalar '\n') := by
    obtain ⟨c, line, rfl⟩ := List.exists_cons_of_ne_nil hne
    simpa using fun h => hl c (by simp) (.inl h)
  rw [naturalLines, Line.lines_append hb hh, Line.lines_append_of_lineEnd (by decide) hn hr ha]

/-- A line end is one to both sides, and holds nothing. -/
theorem lineEnd_spec {ending : Text} (he : ending ∈ lineEnds) :
    ending ≠ [] ∧ (∀ c ∈ ending.head?, EndsLine c) ∧ (∀ c ∈ ending.getLast?, EndsLine c) ∧
      naturalLines ending = [[], []] := by
  simp only [lineEnds, List.mem_cons, List.not_mem_nil, or_false] at he
  rcases he with rfl | rfl | rfl <;> decide

variable {before first second after ending indent : Text}

theorem IsCut.first_ne_nil (h : IsCut before first second after) : first ≠ [] := by
  obtain ⟨c, hc, _⟩ := h.visible
  exact List.ne_nil_of_mem hc

theorem IsCut.second_ne_nil (h : IsCut before first second after) : second ≠ [] := by
  obtain ⟨c, hc, _⟩ := h.resumes
  rintro rfl
  cases hc

theorem IsCut.naturalLines_whole (h : IsCut before first second after) :
    naturalLines (before ++ (first ++ second) ++ after) =
      (naturalLines before).dropLast ++ (first ++ second) :: (naturalLines after).tail := by
  rw [List.append_assoc]
  exact naturalLines_between h.begins h.ends h.within (by simp [h.first_ne_nil])

theorem IsCut.naturalLines_continued (h : IsCut before first second after) (he : ending ∈ lineEnds)
    (hi : IsGaps indent) :
    naturalLines (before ++ (first ++ [.scalar '\\'] ++ ending ++ indent ++ second) ++ after) =
      (naturalLines before).dropLast ++
        (first ++ [.scalar '\\']) :: (indent ++ second) :: (naturalLines after).tail := by
  obtain ⟨hne, hhead, hlast, hlines⟩ := lineEnd_spec he
  have hgap : ∀ c ∈ gaps, ¬ EndsLine c := by decide
  have hfirst : ∀ c ∈ first ++ [.scalar '\\'], ¬ EndsLine c := by
    intro c hc
    rcases List.mem_append.1 hc with hc | hc
    · exact h.within c (List.mem_append_left _ hc)
    · rw [List.mem_singleton.1 hc]
      decide
  have hsecond : ∀ c ∈ indent ++ second, ¬ EndsLine c := by
    intro c hc
    rcases List.mem_append.1 hc with hc | hc
    · exact hgap c (hi c hc)
    · exact h.within c (List.mem_append_right _ hc)
  have hrest : ∀ c ∈ (ending ++ (indent ++ second ++ after)).head?, EndsLine c := by
    obtain ⟨e, ending, rfl⟩ := List.exists_cons_of_ne_nil hne
    simpa using hhead
  have hbehind := naturalLines_between hlast h.ends hsecond (by simp [h.second_ne_nil])
  have hfront := naturalLines_between h.begins hrest hfirst (by simp)
  rw [hbehind, hlines] at hfront
  simpa using hfront

/-! ## The logical line -/

theorem dropWhile_isGap_append {s : Text} (hs : ∃ c ∈ s, c ∉ gaps) (t : Text) :
    ∃ c u, s.dropWhile isGap = c :: u ∧ (s ++ t).dropWhile isGap = c :: (u ++ t) := by
  have hne : s.dropWhile isGap ≠ [] := by
    obtain ⟨c, hc, hg⟩ := hs
    intro h
    exact hg (isGap_iff.1 (List.dropWhile_eq_nil_iff.1 h c hc))
  obtain ⟨c, u, hd⟩ := List.exists_cons_of_ne_nil hne
  refine ⟨c, u, hd, ?_⟩
  rw [List.dropWhile_append, hd]
  simp

/-- The two natural lines of a cut gather what the one did. -/
theorem IsCut.joinLines_eq (h : IsCut before first second after) (hi : IsGaps indent)
    {pending : Option Text} (hp : Settled pending)
    (hn : pending.isSome = true ∨ isComment (first ++ second) = false) (rest : List Text) :
    joinLines pending ((first ++ [.scalar '\\']) :: (indent ++ second) :: rest) =
      joinLines pending ((first ++ second) :: rest) := by
  obtain ⟨c, u, hd, hwhole⟩ := dropWhile_isGap_append h.visible second
  obtain ⟨_, _, hd', hopen⟩ := dropWhile_isGap_append h.visible [.scalar '\\']
  obtain ⟨rfl, rfl⟩ := List.cons.inj (hd.symm.trans hd')
  have hindent : (indent ++ second).dropWhile isGap = second := by
    refine dropWhile_gaps hi second fun d hs => ?_
    obtain ⟨e, he, hg⟩ := h.resumes
    exact Option.mem_unique he hs ▸ hg
  have hread : ∀ t, (pending.isNone && isIgnored (c :: t)) = false := by
    intro t
    rcases hn with hn | hn
    · rw [Option.isNone_eq_false_iff.2 hn, Bool.false_and]
    · rw [isComment, hwhole] at hn
      rw [show isIgnored (c :: t) = false from hn, Bool.and_false]
  have ho : endsOpen (pending.getD [] ++ (c :: (u ++ [.scalar '\\']))) = true := by
    rw [← hopen, hp.endsOpen, endsOpen_concat, h.even]
    rfl
  have hg : pending.getD [] ++ (c :: (u ++ [.scalar '\\'])) =
      (pending.getD [] ++ c :: u) ++ [.scalar '\\'] := by
    simp
  have hfirst : joinLine pending (first ++ [.scalar '\\']) = (some (pending.getD [] ++ c :: u), []) := by
    simp only [joinLine, hopen, hread, ho]
    rw [hg, List.dropLast_concat]
    rfl
  have hsecond : joinLine (some (pending.getD [] ++ c :: u)) (indent ++ second) =
      joinLine pending (first ++ second) := by
    simp only [joinLine, hindent, hwhole, hread, Option.isNone_some, Bool.false_and,
      Option.getD_some, List.append_assoc, List.cons_append]
  rw [joinLines_cons, joinLines_cons, joinLines_cons, hfirst, hsecond]
  rfl

/-- A cut leaves the logical lines of a text as they are. -/
theorem logicalLines_of_continued {s t : Text} (h : Continued s t) : logicalLines t = logicalLines s := by
  obtain ⟨hcut, he, hi⟩ := h
  rename_i before first second after ending indent
  have hn : (pendingAfter none (naturalLines before).dropLast).isSome = true ∨
      isComment (first ++ second) = false := by
    rw [isSome_pendingAfter]
    exact hcut.entry
  rw [logicalLines_eq, logicalLines_eq, hcut.naturalLines_whole, hcut.naturalLines_continued he hi,
    joinLines_append, joinLines_append, hcut.joinLines_eq hi (settled_pendingAfter _) hn]

/-- However often lines are continued, the same is read. -/
theorem entries_of_continued {s t : Text} (h : Relation.ReflTransGen Continued s t) :
    entries t = entries s := by
  induction h with
  | refl => rfl
  | tail _ hc ih => rw [← ih, entries, entries, logicalLines_of_continued hc]

/-- A cut through the digits of an escape, and one before what would start a comment. -/
theorem entries_of_continued_twice :
    Relation.ReflTransGen Continued "k=\\u0041#v" "k=\\u00\\\r\n 41\\\n#v" ∧
      entries "k=\\u00\\\r\n 41\\\n#v" = .ok [("k", "A#v")] := by
  have space : IsGaps " " := by
    unfold IsGaps
    decide
  have empty : IsGaps "" := by
    unfold IsGaps
    decide
  have hone : Continued "k=\\u0041#v" "k=\\u00\\\r\n 41#v" :=
    @Continued.cut "" "k=\\u00" "41#v" "" "\r\n" " "
      ⟨by decide, by decide, by decide, by decide, by decide, by decide, by decide⟩ (by decide) space
  have htwo : Continued "k=\\u00\\\r\n 41#v" "k=\\u00\\\r\n 41\\\n#v" :=
    @Continued.cut "k=\\u00\\\r\n" " 41" "#v" "" "\n" ""
      ⟨by decide, by decide, by decide, by decide, by decide, by decide, by decide⟩ (by decide) empty
  have hboth := (Relation.ReflTransGen.single hone).tail htwo
  exact ⟨hboth, (entries_of_continued hboth).trans (by decide +kernel)⟩

end SbtWorkspace.Properties
