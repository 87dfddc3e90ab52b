import SbtWorkspace.Proofs.Properties.Joining
import SbtWorkspace.Proofs.Text.Line

/-! # Texts put together

A line feed between two texts keeps their entries apart, unless the first one ends inside a continued line
(`entries_append_feed`). A line feed at the very end makes a difference to one kind of text only: a
continued line that has gathered nothing is dropped at the end of a text, and is an entry of the empty key
when a line end follows (`logicalLines_final_feed`). -/

namespace SbtWorkspace.Properties

theorem lineFeed_ne_carriageReturn : CodePoint.scalar '\n' ≠ .scalar '\r' := by decide

/-! ## A text after another -/

theorem logicalLines_append_feed {s : Text} (hr : s.getLast? ≠ some (.scalar '\r'))
    (ho : goesOn (naturalLines s) = false) (t : Text) :
    logicalLines (s ++ .scalar '\n' :: t) = logicalLines s ++ logicalLines t := by
  rw [logicalLines_eq, naturalLines, Line.lines_append_feed_append lineFeed_ne_carriageReturn hr,
    joinLines_append_of_not_goesOn ho]
  rfl

theorem entries_append_feed {s : Text} (hr : s.getLast? ≠ some (.scalar '\r'))
    (ho : goesOn (naturalLines s) = false) (t : Text) :
    entries (s ++ .scalar '\n' :: t) =
      (entries s).bind fun first => (entries t).map fun second => first ++ second := by
  rw [entries, logicalLines_append_feed hr ho, List.mapM_append, entries, entries]
  cases (logicalLines s).mapM parseEntry with
  | error e => rfl
  | ok first => cases (logicalLines t).mapM parseEntry <;> rfl

theorem exists_of_map_eq_ok {ε α β : Type} {x : Except ε α} {f : α → β} {b : β}
    (h : x.map f = .ok b) : ∃ a, x = .ok a ∧ f a = b := by
  cases x with
  | error e => cases h
  | ok a => exact ⟨a, rfl, Except.ok.inj h⟩

/-- What a table holds is what a look for the last entry finds. -/
theorem mem_table_iff {es : List (Text × Text)} {key value : Text} :
    (key, value) ∈ table es ↔ valueOf es key = some value := by
  rw [(table_spec es).2, valueOf_eq_some_iff]

/-- Two texts with a line feed between them are refused just when one of them is. Otherwise the values of
the second override those of the first. -/
theorem read_append {s : Text} (hr : s.getLast? ≠ some (.scalar '\r'))
    (ho : goesOn (naturalLines s) = false) (t : Text) :
    ((∃ e, entries (s ++ .scalar '\n' :: t) = .error e) ↔
        (∃ e, entries s = .error e) ∨ ∃ e, entries t = .error e) ∧
      ∀ first second, (entries s).map table = .ok first → (entries t).map table = .ok second →
        ∃ both, (entries (s ++ .scalar '\n' :: t)).map table = .ok both ∧ (both.map (·.1)).Nodup ∧
          ∀ key value, (key, value) ∈ both ↔
            (key, value) ∈ second ∨ ((key, value) ∈ first ∧ ∀ v, (key, v) ∉ second) := by
  rw [entries_append_feed hr ho]
  constructor
  · cases hs : entries s with
    | error e => simp [Except.bind]
    | ok es => cases ht : entries t <;> simp [Except.bind, Except.map]
  · intro first second hf hg
    obtain ⟨es, hs, rfl⟩ := exists_of_map_eq_ok hf
    obtain ⟨et, ht, rfl⟩ := exists_of_map_eq_ok hg
    refine ⟨table (es ++ et), by rw [hs, ht]; rfl, (table_spec _).1, fun key value => ?_⟩
    simp only [mem_table_iff, valueOf_append]
    cases valueOf et key <;> simp

/-- A comment that ends in a backslash leaves nothing open, and the later value counts. -/
theorem read_append_overriding :
    goesOn (naturalLines "a=1\n#\\") = false ∧
      ∃ both,
        (entries (Text.ofString "a=1\n#\\" ++ .scalar '\n' :: Text.ofString "a=2")).map table = .ok both ∧
        (Text.ofString "a", Text.ofString "2") ∈ both ∧ (Text.ofString "a", Text.ofString "1") ∉ both := by
  have hs : entries "a=1\n#\\" = .ok [("a", "1")] := by decide
  have ht : entries "a=2" = .ok [("a", "2")] := by decide
  have ho : goesOn (naturalLines "a=1\n#\\") = false := by decide
  obtain ⟨_, h⟩ := read_append (s := "a=1\n#\\") (by decide) ho "a=2"
  obtain ⟨both, hb, _, hm⟩ := h _ _ (by rw [hs]; rfl) (by rw [ht]; rfl)
  refine ⟨ho, both, hb, (hm _ _).2 (.inl (mem_table_iff.2 (by decide))), fun h1 => ?_⟩
  rcases (hm _ _).1 h1 with h1 | ⟨_, h1⟩
  · exact absurd (mem_table_iff.1 h1) (by decide)
  · exact h1 "2" (mem_table_iff.2 (by decide))

/-! ## The end of a text -/

/-- Natural lines that end inside a continued line which has gathered nothing: each natural line of it is
a backslash and no more. -/
def EndsEmpty (lines : List Text) : Prop :=
  ∃ before run, lines = before ++ run ∧ goesOn before = false ∧ run ≠ [] ∧
    ∀ raw ∈ run, raw.dropWhile isGap = [.scalar '\\']

theorem not_endsEmpty_nil : ¬ EndsEmpty [] := by
  rintro ⟨before, run, h, _, hr, _⟩
  exact hr (List.append_eq_nil_iff.1 h.symm).2

theorem endsEmpty_concat (lines : List Text) (raw : Text) :
    EndsEmpty (lines ++ [raw]) ↔
      raw.dropWhile isGap = [.scalar '\\'] ∧ (goesOn lines = false ∨ EndsEmpty lines) := by
  constructor
  · rintro ⟨before, run, h, hb, hne, hr⟩
    obtain ⟨run, last, rfl⟩ := (List.eq_nil_or_concat' run).resolve_left hne
    rw [← List.append_assoc] at h
    obtain ⟨rfl, hl⟩ := List.append_inj' h rfl
    obtain rfl : raw = last := by simpa using hl
    refine ⟨hr raw (by simp), ?_⟩
    by_cases hrun : run = []
    · exact .inl (by rw [hrun, List.append_nil]; exact hb)
    · exact .inr ⟨before, run, rfl, hb, hrun, fun r hm => hr r (by simp [hm])⟩
  · rintro ⟨hl, ho | ⟨before, run, rfl, hb, _, hr⟩⟩
    · exact ⟨lines, [raw], rfl, ho, by simp, by simpa using hl⟩
    · refine ⟨before, run ++ [raw], by simp, hb, by simp, fun r hm => ?_⟩
      rcases List.mem_append.1 hm with hm | hm
      · exact hr r hm
      · exact (List.mem_singleton.1 hm) ▸ hl

/-- Nothing is gathered by a line only if nothing was before, and the line is a lone backslash. -/
theorem joinLine_eq_some_nil_iff {pending : Option Text} (hp : Settled pending) (raw : Text) :
    (joinLine pending raw).1 = some [] ↔
      raw.dropWhile isGap = [.scalar '\\'] ∧ pending.getD [] = [] := by
  constructor
  · intro h
    simp only [joinLine] at h
    split at h
    · cases h
    split at h
    · rename_i ho
      obtain ⟨s, hs, _⟩ := exists_concat_of_endsOpen ho
      rw [hs, List.dropLast_concat] at h
      obtain rfl := Option.some.inj h
      rcases List.append_eq_singleton_iff.1 hs with hs | ⟨hg, _⟩
      · exact ⟨hs.2, hs.1⟩
      · cases pending with
        | none => cases hg
        | some gathered =>
          have hc := hp gathered rfl
          rw [show gathered = [.scalar '\\'] from hg] at hc
          exact absurd hc (by decide)
    · cases h
  · rintro ⟨hl, hg⟩
    simp [joinLine, hl, hg, isIgnored, endsOpen]

theorem pendingAfter_eq_nil_iff (lines : List Text) :
    pendingAfter none lines = some [] ↔ EndsEmpty lines := by
  induction lines using List.reverseRecOn with
  | nil => exact ⟨(nomatch ·), fun h => absurd h not_endsEmpty_nil⟩
  | append_singleton lines raw ih =>
    rw [pendingAfter_concat, joinLine_eq_some_nil_iff (settled_pendingAfter lines), endsEmpty_concat,
      ← ih, ← pendingAfter_eq_none_iff]
    cases pendingAfter none lines <;> simp

/-- An empty line at the end ends what is pending, and is no line itself. -/
theorem joinLines_concat_nil (lines : List Text) :
    (¬ EndsEmpty lines → joinLines none (lines ++ [[]]) = joinLines none lines) ∧
      (EndsEmpty lines → joinLines none (lines ++ [[]]) = joinLines none lines ++ [[]]) := by
  have hs := settled_pendingAfter lines
  have hj := joinLines_append none lines []
  rw [List.append_nil] at hj
  rw [← pendingAfter_eq_nil_iff, joinLines_append, hj]
  cases hp : pendingAfter none lines with
  | none => simp [joinLines, isIgnored]
  | some gathered =>
    have hc : endsOpen gathered = false := hs gathered hp
    cases gathered with
    | nil => simp [joinLines, endsOpen]
    | cons c gathered => simp [joinLines, hc]

theorem logicalLines_final_feed (text : Text) :
    (¬ EndsEmpty (naturalLines text) →
        logicalLines (text ++ [.scalar '\n']) = logicalLines text) ∧
      (EndsEmpty (naturalLines text) →
        logicalLines (text ++ [.scalar '\n']) = logicalLines text ++ [[]]) := by
  by_cases hr : text.getLast? = some (.scalar '\r')
  · obtain ⟨t, rfl⟩ := List.getLast?_eq_some_iff.1 hr
    have hl := Line.lines_concat_return_feed lineFeed_ne_carriageReturn t
    refine ⟨fun _ => by rw [logicalLines_eq, naturalLines, hl]; rfl, fun h => ?_⟩
    have hn : naturalLines (t ++ [.scalar '\r']) =
        (naturalLines (t ++ [.scalar '\r'])).dropLast ++ [[]] := Line.lines_eq_concat_nil (by simp)
    rw [hn, endsEmpty_concat] at h
    exact absurd h.1 (by decide)
  · have hl : naturalLines (text ++ [.scalar '\n']) = naturalLines text ++ [[]] :=
      Line.lines_append_feed_append lineFeed_ne_carriageReturn hr []
    rw [logicalLines_eq, hl]
    exact joinLines_concat_nil _

/-- A line feed at the end of a text makes no difference, with one exception. Where the text ends inside a
continued line that has gathered nothing, the line feed makes this line an entry, of the empty key and
with the empty value. -/
theorem read_final_feed (text : Text) :
    (¬ EndsEmpty (naturalLines text) → entries (text ++ [.scalar '\n']) = entries text) ∧
      (EndsEmpty (naturalLines text) →
        entries (text ++ [.scalar '\n']) = (entries text).map (· ++ [([], [])])) := by
  obtain ⟨hn, he⟩ := logicalLines_final_feed text
  refine ⟨fun h => by rw [entries, hn h, entries], fun h => ?_⟩
  rw [entries, he h, List.mapM_append, entries]
  cases (logicalLines text).mapM parseEntry <;> rfl

/-- The lines of an entry before it do not make a lone backslash one. -/
theorem read_final_feed_lone :
    EndsEmpty (naturalLines "a=1\n\\") ∧ ¬ EndsEmpty (naturalLines "a=1\\") ∧
      entries (Text.ofString "a=1\\" ++ [.scalar '\n']) = .ok [("a", "1")] ∧
      entries (Text.ofString "a=1\n\\" ++ [.scalar '\n']) = .ok [("a", "1"), ("", "")] := by
  have hc : EndsEmpty (naturalLines "a=1\n\\") :=
    ⟨["a=1"], ["\\"], by decide, by decide, by decide, by decide⟩
  have ho : ¬ EndsEmpty (naturalLines "a=1\\") := by
    rw [← pendingAfter_eq_nil_iff]
    decide
  refine ⟨hc, ho, ((read_final_feed _).1 ho).trans (by decide), ?_⟩
  rw [(read_final_feed _).2 hc]
  decide

/-- A lone backslash is no entry, and one with a line feed after it is. -/
theorem lone_backslash_differs :
    entries "\\" = .ok [] ∧ entries (Text.ofString "\\" ++ [.scalar '\n']) = .ok [("", "")] ∧
      (entries "\\").map table ≠ (entries (Text.ofString "\\" ++ [.scalar '\n'])).map table := by
  have hs : entries "\\" = .ok [] := by decide
  have ht : entries (Text.ofString "\\" ++ [.scalar '\n']) = .ok [("", "")] := by decide
  refine ⟨hs, ht, fun h => ?_⟩
  rw [hs, ht] at h
  simp [Except.map, table, effective] at h

end SbtWorkspace.Properties
