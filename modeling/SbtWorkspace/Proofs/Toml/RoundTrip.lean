import Mathlib.Data.List.Basic
import SbtWorkspace.Toml.Document
import SbtWorkspace.Toml.Writer

/-! TOML that is written and read again. A string is read one escape at a time, each of which gives its
character back; a line is read as its key and its value; and lines with different keys do not disturb one
another. Main statement: `parse_render`, for strings of any characters. -/

namespace SbtWorkspace.Toml

open Lexeme

variable {c : Char} {s rest : List Char} {key : String} {entries : List (String × Scalar)}

/-! ## Strings -/

/-- A number below 128 is written with four digits, which are read as its character. -/
theorem hexChar?_hex : ∀ n < 0x80, (Quoted.hex 4 n).length = 4 ∧
    hexChar? (Quoted.hex 4 n) = some (Char.ofNat n) := by
  decide +kernel

theorem cr_notMem_number : ∀ n < 0x80, '\r' ∉ '\\' :: 'u' :: Quoted.hex 4 n := by
  decide +kernel

theorem basicString_number {digits : List Char} (hl : digits.length = 4) (h : hexChar? digits = some c) :
    basicString ('\\' :: 'u' :: digits ++ rest) = (basicString rest).map (prepend c) := by
  obtain ⟨d₁, d₂, d₃, d₄, rfl⟩ : ∃ d₁ d₂ d₃ d₄, digits = [d₁, d₂, d₃, d₄] := by
    match digits, hl with
    | [d₁, d₂, d₃, d₄], _ => exact ⟨d₁, d₂, d₃, d₄, rfl⟩
  show basicString ('\\' :: 'u' :: d₁ :: d₂ :: d₃ :: d₄ :: rest) = _
  rw [basicString, h]
  cases basicString rest <;> rfl

theorem basicString_escaped {e : Char} (hu : e ≠ 'u') (hU : e ≠ 'U') (h : escaped? e = some c) :
    basicString ('\\' :: e :: rest) = (basicString rest).map (prepend c) := by
  rw [basicString]
  · rw [h]
    cases basicString rest <;> rfl
  · intros
    simp_all
  · intros
    simp_all

theorem basicString_plain (hq : c ≠ '"') (hb : c ≠ '\\') (hc : isControl c = false) :
    basicString (c :: rest) = (basicString rest).map (prepend c) := by
  rw [basicString]
  · simp [hb, hc]
  · intros
    simp_all
  · intros
    simp_all
  · intros
    simp_all
  · intros
    simp_all

/-- How a character is written: by a letter, by its number, or as it is. -/
inductive Written (c : Char) : List Char → Prop
  | letter {e : Char} : e ≠ 'u' → e ≠ 'U' → e ≠ '\r' → escaped? e = some c → Written c ['\\', e]
  | number : c.toNat < 0x80 → Written c ('\\' :: 'u' :: Quoted.hex 4 c.toNat)
  | plain : c ≠ '"' → c ≠ '\\' → c ≠ '\r' → isControl c = false → Written c [c]

theorem written_escape (c : Char) : Written c (Scalar.escape c) := by
  unfold Scalar.escape
  split
  · subst c
    exact .letter (by decide) (by decide) (by decide) (by decide)
  rename_i hq
  split
  · subst c
    exact .letter (by decide) (by decide) (by decide) (by decide)
  rename_i hb
  split
  · subst c
    exact .letter (by decide) (by decide) (by decide) (by decide)
  split
  · subst c
    exact .letter (by decide) (by decide) (by decide) (by decide)
  rename_i hr
  split
  · subst c
    exact .letter (by decide) (by decide) (by decide) (by decide)
  split
  · subst c
    exact .letter (by decide) (by decide) (by decide) (by decide)
  split
  · exact .number (by omega)
  · rename_i hn
    exact .plain hq hb hr (by simpa [isControl] using hn)

/-- The written form of a character is read as the character. -/
theorem basicString_written {cs : List Char} (h : Written c cs) (rest : List Char) :
    basicString (cs ++ rest) = (basicString rest).map (prepend c) := by
  cases h with
  | letter hu hU _ he => exact basicString_escaped hu hU he
  | number hn =>
    obtain ⟨hl, hh⟩ := hexChar?_hex c.toNat hn
    rw [Char.ofNat_toNat] at hh
    exact basicString_number hl hh
  | plain hq hb _ hc => exact basicString_plain hq hb hc

theorem basicString_escapes (s rest : List Char) :
    basicString (s.flatMap Scalar.escape ++ '"' :: rest) = some (s, rest) := by
  induction s with
  | nil => rfl
  | cons c s ih =>
    rw [List.flatMap_cons, List.append_assoc, basicString_written (written_escape c), ih]
    rfl

theorem Written.exists_cons {cs : List Char} (h : Written c cs) : ∃ d ds, cs = d :: ds ∧ d ≠ '"' := by
  cases h with
  | letter | number => exact ⟨_, _, rfl, by decide⟩
  | plain hq => exact ⟨_, _, rfl, hq⟩

theorem Written.cr_notMem {cs : List Char} (h : Written c cs) : '\r' ∉ cs := by
  cases h with
  | letter _ _ hr => simpa using Ne.symm hr
  | number hn => exact cr_notMem_number c.toNat hn
  | plain _ _ hr => simpa using Ne.symm hr

/-- A written string does not begin with three quotation marks, where no more of them follow it. -/
theorem string_escapes (s : List Char) (hr : rest.head? ≠ some '"') :
    Lexeme.string ('"' :: (s.flatMap Scalar.escape ++ '"' :: rest)) = some (s, rest) := by
  have hlong : ∀ more, s.flatMap Scalar.escape ++ '"' :: rest ≠ '"' :: '"' :: more := by
    intro more he
    cases s with
    | nil =>
      obtain ⟨_, rfl⟩ : True ∧ rest = '"' :: more := by simpa using he
      exact hr rfl
    | cons c s =>
      obtain ⟨d, ds, hd, hne⟩ := (written_escape c).exists_cons
      rw [List.flatMap_cons, hd, List.cons_append, List.cons_append] at he
      exact hne (List.cons.inj he).1
  rw [Lexeme.string]
  · exact basicString_escapes s rest
  · exact hlong

/-! ## Values and keys -/

/-- A value that is written on its line is read up to the end of the line. -/
theorem parseValue_render (value : Scalar) (levels fuel : Nat) (rest : List Char) :
    parseValue levels (fuel + 1) (value.render ++ '\n' :: rest) = .ok (value.toValue, '\n' :: rest) := by
  cases value with
  | string s =>
    have hs : Lexeme.string ('"' :: (s.toList.flatMap Scalar.escape ++ '"' :: '\n' :: rest)) =
        some (s.toList, '\n' :: rest) := string_escapes s.toList (by simp)
    have hform : (Scalar.string s).render ++ '\n' :: rest =
        '"' :: (s.toList.flatMap Scalar.escape ++ '"' :: '\n' :: rest) := by
      simp [Scalar.render]
    rw [hform, parseValue]
    simp only [true_or, if_true, hs, String.ofList_toList]
    rfl
  | boolean b => cases b <;> rfl

def IsBareKey (key : String) : Prop := key ≠ "" ∧ key.toList.all isBare = true

theorem IsBareKey.exists_cons (h : IsBareKey key) : ∃ c cs, key.toList = c :: cs ∧ isBare c = true := by
  obtain ⟨c, cs, hc⟩ := List.exists_cons_of_ne_nil (show key.toList ≠ [] by simpa using h.1)
  refine ⟨c, cs, hc, List.all_eq_true.1 h.2 c ?_⟩
  rw [hc]
  exact List.mem_cons_self ..

/-- A bare key is read up to the sign that its value follows. -/
theorem parse_bareKey (hk : IsBareKey key) (rest : List Char) :
    Key.parse (key.toList ++ ' ' :: '=' :: rest) = .ok ([key], '=' :: rest) := by
  obtain ⟨c, cs, hc, hfirst⟩ := hk.exists_cons
  have hpart : Key.parsePart (key.toList ++ ' ' :: '=' :: rest) = .ok (key, ' ' :: '=' :: rest) := by
    have hall : ∀ d ∈ key.toList, isBare d = true := List.all_eq_true.1 hk.2
    have htake : (key.toList ++ ' ' :: '=' :: rest).takeWhile isBare = key.toList := by
      rw [List.takeWhile_append_of_pos hall]
      exact List.append_nil _
    have hdrop : (key.toList ++ ' ' :: '=' :: rest).dropWhile isBare = ' ' :: '=' :: rest := by
      rw [List.dropWhile_append_of_pos hall]
      rfl
    rw [hc, List.cons_append] at htake hdrop ⊢
    rw [Key.parsePart, if_pos hfirst, htake, hdrop, ← hc, String.ofList_toList]
  rw [Key.parse, Key.parseNames, hpart]
  rfl

/-! ## Lines -/

namespace Draft

/-- A document of which only lines with values were read, under no header. -/
def ofTable (root : Table) : Draft := { empty with root }

/-- The value of a new key is added at the end. -/
theorem add_ofTable {root : Table} (hnew : ∀ e ∈ root, e.1 ≠ key) (value : Scalar) :
    (ofTable root).add [key] value.toValue = .ok (ofTable (root ++ [(key, value.toValue)])) := by
  have hnone : root.find? (fun e => decide (e.1 = key)) = none := by
    simpa [List.find?_eq_none] using hnew
  have hcompound : value.toValue.isCompound = false := by cases value <;> rfl
  simp [add, ofTable, empty, isClosed, Table.insertAt, Table.change, Table.insertNew, Table.get?, hnone,
    hcompound, bind, Except.bind, pure, Except.pure]

/-- The line of an entry is read as its key and its value. -/
theorem statement_renderEntry {root : Table} {entry : String × Scalar} (hk : IsBareKey entry.1)
    (hnew : ∀ e ∈ root, e.1 ≠ entry.1) (levels : Nat) (rest : List Char) :
    (ofTable root).statement levels (renderEntry entry ++ rest) =
      .ok (ofTable (root ++ [(entry.1, entry.2.toValue)]), '\n' :: rest) := by
  obtain ⟨c, cs, hc, hfirst⟩ := hk.exists_cons
  have hform : renderEntry entry ++ rest =
      entry.1.toList ++ ' ' :: '=' :: ' ' :: (entry.2.render ++ '\n' :: rest) := by
    simp [renderEntry]
  have hkey := parse_bareKey hk (' ' :: (entry.2.render ++ '\n' :: rest))
  have hgaps : skipGaps (' ' :: (entry.2.render ++ '\n' :: rest)) = entry.2.render ++ '\n' :: rest := by
    cases entry.2 with
    | string s => rfl
    | boolean b => cases b <;> rfl
  rw [hform]
  unfold statement
  split
  · rename_i he
    rw [hc] at he
    exact absurd ((List.cons.inj he).1 ▸ hfirst) (by decide)
  · rename_i he
    rw [hc] at he
    exact absurd ((List.cons.inj he).1 ▸ hfirst) (by decide)
  · rw [hkey]
    show (parseValue levels (_ + 1) (skipGaps _) >>= _) = _
    rw [hgaps, parseValue_render]
    show ((ofTable root).add [entry.1] entry.2.toValue >>= _) = _
    rw [add_ofTable hnew]
    rfl

theorem lines_render {root : Table} (hk : ∀ e ∈ entries, IsBareKey e.1)
    (hnew : ∀ e ∈ root, e.1 ∉ entries.map (·.1)) (hn : (entries.map (·.1)).Nodup) (levels : Nat) {fuel : Nat}
    (hf : entries.length < fuel) :
    lines levels fuel (ofTable root) (entries.flatMap renderEntry) =
      .ok (ofTable (root ++ entries.map fun e => (e.1, e.2.toValue))) := by
  induction entries generalizing root fuel with
  | nil =>
    obtain ⟨fuel, rfl⟩ := Nat.exists_eq_add_of_lt hf
    simp [lines, skipGaps]
  | cons entry entries ih =>
    obtain ⟨fuel, rfl⟩ := Nat.exists_eq_add_of_lt hf
    obtain ⟨hkey, hkeys⟩ := List.forall_mem_cons.1 hk
    rw [List.map_cons, List.nodup_cons] at hn
    have hroot : ∀ e ∈ root, e.1 ≠ entry.1 := fun e he heq => hnew e he (by simp [heq])
    have hs := statement_renderEntry hkey hroot levels (entries.flatMap renderEntry)
    obtain ⟨c, cs, hc, hfirst⟩ := hkey.exists_cons
    obtain ⟨tail, ht⟩ : ∃ tail, renderEntry entry ++ entries.flatMap renderEntry = c :: tail :=
      ⟨_, by rw [renderEntry, hc]; rfl⟩
    have hne (d : Char) (hd : isBare d = false) : c ≠ d := by
      rintro rfl
      rw [hfirst] at hd
      cases hd
    have hgap : skipGaps (c :: tail) = c :: tail := by
      simp [skipGaps, isGap, hne ' ' (by decide), hne '\t' (by decide)]
    rw [List.flatMap_cons, ht, lines, hgap]
    rw [ht] at hs
    have hline : (skipComment (skipGaps ('\n' :: entries.flatMap renderEntry))) =
        .ok ('\n' :: entries.flatMap renderEntry) := rfl
    have hrest : ∀ e ∈ root ++ [(entry.1, entry.2.toValue)], e.1 ∉ entries.map (·.1) := by
      intro e he hm
      rcases List.mem_append.1 he with he | he
      · exact hnew e he (List.mem_cons_of_mem _ hm)
      · rw [List.mem_singleton.1 he] at hm
        exact hn.1 hm
    have hfuel : entries.length < entries.length + 1 + fuel := by omega
    have hi := ih hkeys hrest hn.2 hfuel
    split
    · rename_i he
      cases he
    · rename_i he
      exact absurd (List.cons.inj he).1 (hne '\n' (by decide))
    · rename_i he
      cases he
      rw [if_neg (hne '#' (by decide)), hs]
      simp only [bind, Except.bind, hline, List.length_cons]
      rw [hi, List.append_assoc]
      rfl

end Draft

/-! ## Documents -/

theorem cr_notMem_renderEntry {entry : String × Scalar} (hk : IsBareKey entry.1) :
    '\r' ∉ renderEntry entry := by
  have hkey : '\r' ∉ entry.1.toList := fun hm => absurd (List.all_eq_true.1 hk.2 _ hm) (by decide)
  have hvalue : '\r' ∉ entry.2.render := by
    cases entry.2 with
    | string s => simp [Scalar.render, (written_escape _).cr_notMem]
    | boolean b => cases b <;> decide
  simp [renderEntry, hkey, hvalue]

theorem unifyLineEnds_eq {cs : List Char} (h : '\r' ∉ cs) : unifyLineEnds cs = cs := by
  induction cs with
  | nil => rfl
  | cons c cs ih =>
    rw [List.mem_cons, not_or] at h
    rw [unifyLineEnds, ih h.2]
    rintro _ rfl _
    exact h.1 rfl

theorem length_le_length_flatMap_renderEntry (entries : List (String × Scalar)) :
    entries.length ≤ (entries.flatMap renderEntry).length := by
  induction entries with
  | nil => exact Nat.le_refl 0
  | cons e entries ih =>
    have hline : 0 < (renderEntry e).length := by
      rw [renderEntry, List.length_append]
      exact Nat.lt_add_left _ Nat.zero_lt_one
    rw [List.flatMap_cons, List.length_append, List.length_cons]
    omega

/-- What is written for different bare keys is read as their values, in the same order. -/
theorem parse_render (hk : ∀ e ∈ entries, IsBareKey e.1) (hn : (entries.map (·.1)).Nodup)
    (levels : Nat) : parse levels (render entries).toList = .ok (entries.map fun e => (e.1, e.2.toValue)) := by
  have hends : '\r' ∉ entries.flatMap renderEntry := by
    intro hm
    obtain ⟨e, he, hm⟩ := List.mem_flatMap.1 hm
    exact cr_notMem_renderEntry (hk e he) hm
  have hfuel := Nat.lt_succ_of_le (length_le_length_flatMap_renderEntry entries)
  show (Draft.lines levels _ (Draft.ofTable []) _).map (·.root) = _
  rw [render, String.toList_ofList, unifyLineEnds_eq hends,
    Draft.lines_render hk (List.forall_mem_nil _) hn levels hfuel]
  rfl

end SbtWorkspace.Toml
