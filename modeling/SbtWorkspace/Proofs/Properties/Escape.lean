import Mathlib.Logic.Relation
import SbtWorkspace.Proofs.Properties.Joining

/-! # Escapes that are malformed or cut off

A properties file is refused because of escapes only. Keys and values are unescaped apart, each to its own
end; all the same, a line is refused just when a single scan over the whole of it comes upon an escape
without its four digits (`parseEntry_eq_error_iff`). For no digit ends a key, so an escape whose digits
would lie on both sides of the separator lacks them on either reading.

A backslash with nothing after it is another matter: it would be dropped without a word. No scan comes upon
one (`joined_without_dangling`). For each step of a scan takes a backslash together with its code point, so
what is left ends open just when the whole does; and a line that has been joined does not. -/

namespace SbtWorkspace.Properties

/-! ## A scan for escapes -/

/-- A text that a scan leaves behind: a backslash takes the code point after it, whatever it is. -/
inductive Scanned : Text → Prop where
  | nil : Scanned []
  | plain {c : CodePoint} {t : Text} : c ≠ '\\' → Scanned t → Scanned (c :: t)
  | taken {c : CodePoint} {t : Text} : Scanned t → Scanned (.scalar '\\' :: c :: t)

def IsHexDigit (c : CodePoint) : Prop := ∃ d v, c = .scalar d ∧ IsDigitOf d v

def StartsWithDigits (t : Text) : Prop :=
  ∃ digits rest, t = digits ++ rest ∧ digits.length = 4 ∧ ∀ d ∈ digits, IsHexDigit d

/-- A text in which a scan from the left comes upon an escape by number without its four digits. -/
def HasMalformedEscape (t : Text) : Prop :=
  ∃ before after, t = before ++ .scalar '\\' :: .scalar 'u' :: after ∧
    Scanned before ∧ ¬ StartsWithDigits after

variable {c : CodePoint} {t : Text}

theorem not_hasMalformedEscape_nil : ¬ HasMalformedEscape [] := by
  rintro ⟨before, after, h, _⟩
  cases before <;> cases h

theorem not_hasMalformedEscape_backslash : ¬ HasMalformedEscape [.scalar '\\'] := by
  rintro ⟨before, after, h, _⟩
  cases before with
  | nil => cases h
  | cons _ before => cases before <;> cases h

theorem hasMalformedEscape_cons (hc : c ≠ '\\') (t : Text) :
    HasMalformedEscape (c :: t) ↔ HasMalformedEscape t := by
  constructor
  · rintro ⟨before, after, h, hs, ha⟩
    cases hs with
    | nil =>
      injection h with h _
      exact absurd h hc
    | plain _ hs =>
      injection h with _ h
      exact ⟨_, after, h, hs, ha⟩
    | taken _ =>
      injection h with h _
      exact absurd h hc
  · rintro ⟨before, after, rfl, hs, ha⟩
    exact ⟨c :: before, after, rfl, .plain hc hs, ha⟩

theorem hasMalformedEscape_append {s : Text} (hs : ∀ c ∈ s, c ≠ .scalar '\\') (t : Text) :
    HasMalformedEscape (s ++ t) ↔ HasMalformedEscape t := by
  induction s with
  | nil => rfl
  | cons c s ih =>
    rw [List.cons_append, hasMalformedEscape_cons (hs c (by simp))]
    exact ih fun c hm => hs c (by simp [hm])

theorem hasMalformedEscape_pair (e : CodePoint) (t : Text) :
    HasMalformedEscape (.scalar '\\' :: e :: t) ↔
      (e = 'u' ∧ ¬ StartsWithDigits t) ∨ HasMalformedEscape t := by
  constructor
  · rintro ⟨before, after, h, hs, ha⟩
    cases hs with
    | nil =>
      injection h with _ h
      injection h with he h
      exact .inl ⟨he, h ▸ ha⟩
    | plain hc _ =>
      injection h with h _
      exact absurd h.symm hc
    | taken hs =>
      injection h with _ h
      injection h with _ h
      exact .inr ⟨_, after, h, hs, ha⟩
  · rintro (⟨rfl, ha⟩ | ⟨before, after, rfl, hs, ha⟩)
    · exact ⟨[], t, rfl, .nil, ha⟩
    · exact ⟨_ :: e :: before, after, rfl, .taken hs, ha⟩

/-! ## Digits -/

theorem isHexDigit_iff {c : CodePoint} : IsHexDigit c ↔ (hexValue? c).isSome = true := by
  constructor
  · rintro ⟨d, v, rfl, h⟩
    rw [h.hexValue.1]
    rfl
  · intro h
    have table : ∀ n < 103, (hexValue? (.scalar (Char.ofNat n))).isSome = true →
        Char.ofNat n ∈ "0123456789abcdef".toList ∨ Char.ofNat n ∈ "0123456789ABCDEF".toList := by
      decide
    cases c with
    | surrogate n => cases h
    | scalar d =>
      have hd : d.toNat < 103 := by
        have hv : d.toNat = d.val.toNat := rfl
        simp only [hexValue?, Char.le_def, UInt32.le_iff_toNat_le] at h
        grind
      have hm := table d.toNat hd
      rw [Char.ofNat_toNat] at hm
      rcases hm h with hm | hm
      · obtain ⟨v, hv⟩ := List.mem_iff_getElem?.1 hm
        exact ⟨d, v, rfl, .inl hv⟩
      · obtain ⟨v, hv⟩ := List.mem_iff_getElem?.1 hm
        exact ⟨d, v, rfl, .inr hv⟩

theorem IsHexDigit.isPlain (h : IsHexDigit c) : IsPlain c := by
  obtain ⟨d, v, rfl, hd⟩ := h
  exact hd.isPlain

theorem startsWithDigits_iff {a b c d : CodePoint} {rest : Text} :
    StartsWithDigits (a :: b :: c :: d :: rest) ↔
      IsHexDigit a ∧ IsHexDigit b ∧ IsHexDigit c ∧ IsHexDigit d := by
  constructor
  · rintro ⟨digits, rest', h, hl, hd⟩
    obtain ⟨a', b', c', d', rfl⟩ := List.length_eq_four.1 hl
    simp only [List.cons_append, List.cons.injEq] at h
    obtain ⟨rfl, rfl, rfl, rfl, _⟩ := h
    simpa using hd
  · intro h
    exact ⟨[a, b, c, d], rest, rfl, rfl, by simpa using h⟩

theorem hexUnit?_eq_none_iff {a b c d : CodePoint} :
    hexUnit? a b c d = none ↔ ¬ (IsHexDigit a ∧ IsHexDigit b ∧ IsHexDigit c ∧ IsHexDigit d) := by
  simp only [isHexDigit_iff, hexUnit?]
  cases hexValue? a <;> cases hexValue? b <;> cases hexValue? c <;> cases hexValue? d <;> simp

theorem hasMalformedEscape_digits {a b c d : CodePoint}
    (h : IsHexDigit a ∧ IsHexDigit b ∧ IsHexDigit c ∧ IsHexDigit d) (rest : Text) :
    HasMalformedEscape (a :: b :: c :: d :: rest) ↔ HasMalformedEscape rest := by
  obtain ⟨ha, hb, hc, hd⟩ := h
  rw [hasMalformedEscape_cons ha.isPlain.1, hasMalformedEscape_cons hb.isPlain.1,
    hasMalformedEscape_cons hc.isPlain.1, hasMalformedEscape_cons hd.isPlain.1]

/-! ## Unescaping a text -/

/-- Unescaping fails just where a scan comes upon a malformed escape. -/
theorem unescape?_eq_none_iff (t : Text) : unescape? t = none ↔ HasMalformedEscape t := by
  fun_induction unescape? t with
  | case1 => simp [not_hasMalformedEscape_nil]
  | case2 => simp [not_hasMalformedEscape_backslash]
  | case3 a b c d rest ih =>
    rw [hasMalformedEscape_pair, startsWithDigits_iff]
    by_cases hd : IsHexDigit a ∧ IsHexDigit b ∧ IsHexDigit c ∧ IsHexDigit d
    · obtain ⟨unit, hu⟩ := Option.ne_none_iff_exists'.1 (mt hexUnit?_eq_none_iff.1 (not_not_intro hd))
      rw [hu, hasMalformedEscape_digits hd, ← ih]
      cases unescape? rest <;> simp [hd]
    · rw [hexUnit?_eq_none_iff.2 hd]
      simp [hd]
  | case4 rest hshort =>
    have hd : ¬ StartsWithDigits rest := by
      rintro ⟨digits, rest', rfl, hl, _⟩
      obtain ⟨a, b, c, d, rfl⟩ := List.length_eq_four.1 hl
      exact hshort a b c d rest' rfl
    simp [hasMalformedEscape_pair, hd]
  | case5 e rest he ih => simp [hasMalformedEscape_pair, he, ih]
  | case6 c rest hc ih => simp [hasMalformedEscape_cons hc, ih]

theorem unescape_eq_error_iff {t : Text} {e : Error} :
    unescape t = .error e ↔ HasMalformedEscape t ∧ e = .malformedEscape t := by
  rw [← unescape?_eq_none_iff, unescape]
  cases unescape? t <;> simp [eq_comm]

/-! ## The key and the value of a line -/

theorem splitKey_boundary (t : Text) :
    ∀ c ∈ (splitKey t).2.head?, isSeparator c = true ∨ isGap c = true := by
  fun_induction splitKey t with
  | case1 => simp
  | case2 => simp
  | case3 e rest key value hs ih => simpa [hs] using ih
  | case4 c rest hc hb => simpa using hb
  | case5 c rest hc hb key value hs ih => simpa [hs] using ih

theorem splitKey_append (t : Text) : (splitKey t).1 ++ (splitKey t).2 = t := by
  fun_induction splitKey t with
  | case1 => rfl
  | case2 => rfl
  | case3 e rest key value hs ih => simpa [hs] using ih
  | case4 => rfl
  | case5 c rest hc hb key value hs ih => simpa [hs] using ih

theorem startsWithDigits_splitKey (t : Text) :
    StartsWithDigits (splitKey t).1 ↔ StartsWithDigits t := by
  constructor
  · rintro ⟨digits, rest, h, hd⟩
    refine ⟨digits, rest ++ (splitKey t).2, ?_, hd⟩
    rw [← List.append_assoc, ← h, splitKey_append]
  · rintro ⟨digits, rest, h, hl, hd⟩
    rw [← splitKey_append t] at h
    rcases List.append_eq_append_iff.1 h with ⟨extra, hk, hv⟩ | ⟨extra, hk, hv⟩
    · cases extra with
      | nil => exact ⟨digits, [], by simpa using hk.symm, hl, hd⟩
      | cons c extra =>
        have hc : IsHexDigit c := hd c (by simp [hk])
        have hb := splitKey_boundary t c (by simp [hv])
        rcases hb with hb | hb
        · exact absurd hb (by simp [hc.isPlain.2.1])
        · exact absurd hb (by simp [hc.isPlain.2.2.1])
    · exact ⟨digits, extra, hk, hl, hd⟩

/-- A scan of the whole comes upon the malformed escapes of the key, and of what follows it. -/
theorem hasMalformedEscape_splitKey (t : Text) :
    HasMalformedEscape t ↔ HasMalformedEscape (splitKey t).1 ∨ HasMalformedEscape (splitKey t).2 := by
  fun_induction splitKey t with
  | case1 => simp
  | case2 => simp [not_hasMalformedEscape_nil]
  | case3 e rest key value hs ih =>
    have hd := startsWithDigits_splitKey rest
    rw [hs] at ih hd
    rw [hasMalformedEscape_pair, hasMalformedEscape_pair, ih, hd, or_assoc]
  | case4 => simp [not_hasMalformedEscape_nil]
  | case5 c rest hc hb key value hs ih =>
    rw [hs] at ih
    rw [hasMalformedEscape_cons hc, hasMalformedEscape_cons hc, ih]

/-- What is dropped between a key and its value holds no backslash. -/
theorem exists_append_dropSeparator (t : Text) :
    ∃ s, t = s ++ dropSeparator t ∧ ∀ c ∈ s, c ≠ .scalar '\\' := by
  have ht := List.takeWhile_append_dropWhile (p := isGap) (l := t)
  cases hd : t.dropWhile isGap with
  | nil =>
    rw [hd] at ht
    exact ⟨t.takeWhile isGap, by rw [dropSeparator, hd, ht], ne_backslash_of_mem_takeWhile⟩
  | cons c value =>
    rw [hd] at ht
    by_cases hc : isSeparator c = true
    · refine ⟨t.takeWhile isGap ++ c :: value.takeWhile isGap, ?_, fun x hx => ?_⟩
      · simp [dropSeparator, hd, hc, ht]
      · rcases List.mem_append.1 hx with hx | hx
        · exact ne_backslash_of_mem_takeWhile x hx
        · rcases List.mem_cons.1 hx with rfl | hx
          · exact ne_backslash_of_boundary (.inl hc)
          · exact ne_backslash_of_mem_takeWhile x hx
    · exact ⟨t.takeWhile isGap, by simp [dropSeparator, hd, hc, ht], ne_backslash_of_mem_takeWhile⟩

theorem hasMalformedEscape_dropSeparator (t : Text) :
    HasMalformedEscape (dropSeparator t) ↔ HasMalformedEscape t := by
  obtain ⟨s, ht, hs⟩ := exists_append_dropSeparator t
  conv_rhs => rw [ht]
  exact (hasMalformedEscape_append hs _).symm

/-- Where the separator lies makes no difference to a scan. -/
theorem hasMalformedEscape_splitEntry (line : Text) :
    HasMalformedEscape line ↔
      HasMalformedEscape (splitEntry line).1 ∨ HasMalformedEscape (splitEntry line).2 := by
  rw [hasMalformedEscape_splitKey, splitEntry, hasMalformedEscape_dropSeparator]

theorem parseEntry_eq_error {line : Text} {e : Error} (h : parseEntry line = .error e) :
    ∃ part ∈ [(splitEntry line).1, (splitEntry line).2],
      HasMalformedEscape part ∧ e = .malformedEscape part := by
  simp only [parseEntry, bind, Except.bind] at h
  cases hk : unescape (splitEntry line).1 with
  | error e' =>
    rw [hk] at h
    cases h
    exact ⟨_, by simp, unescape_eq_error_iff.1 hk⟩
  | ok key =>
    rw [hk] at h
    cases hv : unescape (splitEntry line).2 with
    | error e' =>
      rw [hv] at h
      cases h
      exact ⟨_, by simp, unescape_eq_error_iff.1 hv⟩
    | ok value =>
      rw [hv] at h
      cases h

/-- A line is refused just when a scan over the whole of it comes upon a malformed escape. -/
theorem parseEntry_eq_error_iff (line : Text) :
    (∃ e, parseEntry line = .error e) ↔ HasMalformedEscape line := by
  constructor
  · rintro ⟨e, h⟩
    obtain ⟨part, hp, hm, _⟩ := parseEntry_eq_error h
    rw [hasMalformedEscape_splitEntry]
    simp only [List.mem_cons, List.not_mem_nil, or_false] at hp
    rcases hp with rfl | rfl
    · exact .inl hm
    · exact .inr hm
  · intro h
    simp only [parseEntry, bind, Except.bind]
    cases hk : unescape (splitEntry line).1 with
    | error e => exact ⟨e, rfl⟩
    | ok key =>
      have hn : ¬ HasMalformedEscape (splitEntry line).1 := by
        intro hm
        rw [unescape_eq_error_iff.2 ⟨hm, rfl⟩] at hk
        cases hk
      have hm := ((hasMalformedEscape_splitEntry line).1 h).resolve_left hn
      exact ⟨_, by rw [unescape_eq_error_iff.2 ⟨hm, rfl⟩]⟩

/-! ## Scans that run to the end -/

/-- One step of the scan for the end of a key: over a code point that does not end it, or over a backslash
and the code point after it. From a lone backslash such a step would run past the end. -/
inductive SplitStep : Text → Text → Prop where
  | plain {c : CodePoint} {t : Text} :
      c ≠ '\\' → isSeparator c = false → isGap c = false → SplitStep (c :: t) t
  | pair {e : CodePoint} {t : Text} : SplitStep (.scalar '\\' :: e :: t) t

/-- One step of unescaping: over a code point that is no escape, an escape by letter, or one by number. From
a lone backslash there is none; unescaping ends there, as at the end of the text. -/
inductive UnescapeStep : Text → Text → Prop where
  | plain {c : CodePoint} {t : Text} : c ≠ '\\' → UnescapeStep (c :: t) t
  | letter {e : CodePoint} {t : Text} : e ≠ 'u' → UnescapeStep (.scalar '\\' :: e :: t) t
  | number {d₃ d₂ d₁ d₀ unit : CodePoint} {t : Text} : hexUnit? d₃ d₂ d₁ d₀ = some unit →
      UnescapeStep (.scalar '\\' :: .scalar 'u' :: d₃ :: d₂ :: d₁ :: d₀ :: t) t

/-- What is left of a text when the scan for the end of a key has gone some steps. -/
abbrev SplitsTo : Text → Text → Prop := Relation.ReflTransGen SplitStep

/-- What is left of a text when unescaping has gone some steps. -/
abbrev UnescapesTo : Text → Text → Prop := Relation.ReflTransGen UnescapeStep

theorem SplitStep.endsOpen_eq {s t : Text} (h : SplitStep s t) : endsOpen s = endsOpen t := by
  cases h with
  | plain hc _ _ => exact endsOpen_cons hc t
  | pair => exact endsOpen_pair _ t

theorem UnescapeStep.endsOpen_eq {s t : Text} (h : UnescapeStep s t) : endsOpen s = endsOpen t := by
  cases h with
  | plain hc => exact endsOpen_cons hc t
  | letter _ => exact endsOpen_pair _ t
  | @number d₃ d₂ d₁ d₀ unit _ hu =>
    have hd : IsHexDigit d₃ ∧ IsHexDigit d₂ ∧ IsHexDigit d₁ ∧ IsHexDigit d₀ :=
      Classical.byContradiction fun hn => by simp [hexUnit?_eq_none_iff.2 hn] at hu
    obtain ⟨h₃, h₂, h₁, h₀⟩ := hd
    rw [endsOpen_pair, endsOpen_cons h₃.isPlain.1, endsOpen_cons h₂.isPlain.1,
      endsOpen_cons h₁.isPlain.1, endsOpen_cons h₀.isPlain.1]

section

variable {step : Text → Text → Prop} (hstep : ∀ {s t}, step s t → endsOpen s = endsOpen t)

include hstep

theorem endsOpen_eq_of_steps {s t : Text} (h : Relation.ReflTransGen step s t) :
    endsOpen s = endsOpen t := by
  induction h with
  | refl => rfl
  | tail _ hlast ih => rw [ih, hstep hlast]

/-- Where the whole does not end open, no lone backslash is left. -/
theorem not_reaches_backslash {s : Text} (hs : endsOpen s = false) :
    ¬ Relation.ReflTransGen step s [.scalar '\\'] := by
  intro h
  have hkept := endsOpen_eq_of_steps hstep h
  rw [hs] at hkept
  exact absurd hkept (by decide)

end

/-- The scan for the end of a key stops before what it leaves, or at a backslash that ends the text. -/
theorem splitsTo_end (t : Text) :
    SplitsTo t (if endsOpen (splitKey t).1 then [.scalar '\\'] else (splitKey t).2) := by
  fun_induction splitKey t with
  | case1 => exact .refl
  | case2 => exact .refl
  | case3 e rest key value hs ih =>
    rw [hs] at ih
    rw [endsOpen_pair]
    exact .head .pair ih
  | case4 => exact .refl
  | case5 c rest hc hb key value hs ih =>
    rw [hs] at ih
    rw [endsOpen_cons hc]
    obtain ⟨hsep, hgap⟩ := not_or.1 (mt Bool.or_eq_true_iff.2 hb)
    exact .head (.plain hc (Bool.eq_false_iff.2 hsep) (Bool.eq_false_iff.2 hgap)) ih

/-- Unescaping that does not fail goes to the end of the text, or to a backslash there. -/
theorem unescapesTo_end {t u : Text} (h : unescape? t = some u) :
    UnescapesTo t (if endsOpen t then [.scalar '\\'] else []) := by
  fun_induction unescape? t generalizing u with
  | case1 => exact .refl
  | case2 => exact .refl
  | case3 a b c d rest ih =>
    obtain ⟨unit, hu, h⟩ := Option.bind_eq_some_iff.1 h
    obtain ⟨more, hm, -⟩ := Option.bind_eq_some_iff.1 h
    have hstep : UnescapeStep _ rest := .number hu
    rw [hstep.endsOpen_eq]
    exact .head hstep (ih hm)
  | case4 => cases h
  | case5 e rest he ih =>
    obtain ⟨more, hm, -⟩ := Option.map_eq_some_iff.1 h
    rw [endsOpen_pair]
    exact .head (.letter he) (ih hm)
  | case6 c rest hc ih =>
    obtain ⟨more, hm, -⟩ := Option.map_eq_some_iff.1 h
    rw [endsOpen_cons hc]
    exact .head (.plain hc) (ih hm)

/-- The key of a text that does not end open does not end open either. -/
theorem endsOpen_splitKey {t : Text} (h : endsOpen t = false) : endsOpen (splitKey t).1 = false := by
  fun_induction splitKey t with
  | case1 => rfl
  | case2 => exact absurd h (by decide)
  | case3 e rest key value hs ih =>
    rw [hs] at ih
    rw [endsOpen_pair] at h ⊢
    exact ih h
  | case4 => rfl
  | case5 c rest hc hb key value hs ih =>
    rw [hs] at ih
    rw [endsOpen_cons hc] at h ⊢
    exact ih h

theorem endsOpen_dropSeparator (t : Text) : endsOpen (dropSeparator t) = endsOpen t := by
  obtain ⟨s, ht, hs⟩ := exists_append_dropSeparator t
  conv_rhs => rw [ht]
  exact (endsOpen_of_ne_backslash hs _).symm

/-- Neither the key nor the value of a line ends open, if the line does not. -/
theorem endsOpen_splitEntry {line part : Text} (h : endsOpen line = false)
    (hp : part ∈ [(splitEntry line).1, (splitEntry line).2]) : endsOpen part = false := by
  have hk := endsOpen_splitKey h
  simp only [List.mem_cons, List.not_mem_nil, or_false] at hp
  rcases hp with rfl | rfl
  · exact hk
  · rw [splitEntry, endsOpen_dropSeparator, ← endsOpen_append hk, splitKey_append]
    exact h

/-- Wherever joining stands among the natural lines of a text, the line that is read tells by itself whether
it goes on. So each logical line is whole, and neither the scan for the end of its key nor the unescaping of
its key and of its value comes upon a backslash with nothing after it: the one goes just to what follows
the key, the other fails or goes to the end. Both scans are those by which the key and the unescaped text are
found, and on a text that is not whole they do come to its last backslash. -/
theorem joined_without_dangling (text : Text) :
    (∀ before raw after, naturalLines text = before ++ raw :: after →
      logicalLines text =
          finished none before ++ joinLines (pendingAfter none before) (raw :: after) ∧
        endsOpen ((pendingAfter none before).getD [] ++ raw.dropWhile isGap) =
          endsOpen (raw.dropWhile isGap)) ∧
      (∀ line ∈ logicalLines text, IsWhole line ∧
        ¬ SplitsTo line [.scalar '\\'] ∧ SplitsTo line (splitKey line).2 ∧
        ∀ part ∈ [(splitEntry line).1, (splitEntry line).2],
          ¬ UnescapesTo part [.scalar '\\'] ∧ (HasMalformedEscape part ∨ UnescapesTo part [])) ∧
      ∀ t : Text,
        SplitsTo t (if endsOpen (splitKey t).1 then [.scalar '\\'] else (splitKey t).2) ∧
        (unescape? t = none ↔ HasMalformedEscape t) ∧
        ∀ u, unescape? t = some u → UnescapesTo t (if endsOpen t then [.scalar '\\'] else []) := by
  refine ⟨fun before raw after h => ⟨?_, ?_⟩, fun line hl => ?_,
    fun t => ⟨splitsTo_end t, unescape?_eq_none_iff t, fun u hu => unescapesTo_end hu⟩⟩
  · rw [logicalLines_eq, h, joinLines_append]
  · rw [(settled_pendingAfter before).endsOpen, endsOpen_dropWhile_isGap]
  · have hw := isWhole_of_mem_logicalLines hl
    have ho : endsOpen line = false := endsOpen_eq_false_iff.2 hw.even
    have hsplit := splitsTo_end line
    rw [endsOpen_splitKey ho] at hsplit
    refine ⟨hw, not_reaches_backslash SplitStep.endsOpen_eq ho, hsplit, fun part hp => ?_⟩
    have hpart := endsOpen_splitEntry ho hp
    refine ⟨not_reaches_backslash UnescapeStep.endsOpen_eq hpart, ?_⟩
    cases hu : unescape? part with
    | none => exact .inl ((unescape?_eq_none_iff part).1 hu)
    | some u =>
      have hend := unescapesTo_end hu
      rw [hpart] at hend
      exact .inr hend

/-- A line that is continued twice, the second time by a natural line of one backslash and no more; and two
texts that are no lines, whose last backslash the scans come to. -/
theorem joined_without_dangling_twice :
    logicalLines "k\\\\\\\n \\\r\n\\\\=v\\\\" = [Text.ofString "k\\\\\\\\=v\\\\"] ∧
      endsOpen ("k\\\\" ++ Text.ofString "\\") = endsOpen "\\" ∧ IsWhole "k\\\\\\\\=v\\\\" ∧
      SplitsTo "k\\\\\\\\=v\\\\" "=v\\\\" ∧ ¬ UnescapesTo "k\\\\\\\\" "\\" ∧ ¬ UnescapesTo "v\\\\" "\\" ∧
      SplitsTo "k\\" "\\" ∧ UnescapesTo "v\\" "\\" := by
  have hlines : naturalLines "k\\\\\\\n \\\r\n\\\\=v\\\\" =
      [Text.ofString "k\\\\\\"] ++ Text.ofString " \\" :: [Text.ofString "\\\\=v\\\\"] := by decide
  have hpending : pendingAfter none ["k\\\\\\"] = some (Text.ofString "k\\\\") := by decide
  have hraw : (Text.ofString " \\").dropWhile isGap = "\\" := by decide
  have hlogical : logicalLines "k\\\\\\\n \\\r\n\\\\=v\\\\" = [Text.ofString "k\\\\\\\\=v\\\\"] := by
    decide
  have hrest : (splitKey "k\\\\\\\\=v\\\\").2 = "=v\\\\" := by decide +kernel
  have hparts : splitEntry "k\\\\\\\\=v\\\\" = (Text.ofString "k\\\\\\\\", Text.ofString "v\\\\") := by
    decide +kernel
  obtain ⟨hjoin, hline, hscan⟩ := joined_without_dangling "k\\\\\\\n \\\r\n\\\\=v\\\\"
  obtain ⟨-, hends⟩ := hjoin _ _ _ hlines
  rw [hpending, hraw] at hends
  obtain ⟨hwhole, -, hsplit, hpart⟩ := hline "k\\\\\\\\=v\\\\" (by simp [hlogical])
  rw [hrest] at hsplit
  rw [hparts] at hpart
  have hkey : endsOpen (splitKey "k\\").1 = true := by decide +kernel
  have hkeyScan := (hscan "k\\").1
  rw [hkey] at hkeyScan
  have hvalue : unescape? "v\\" = some "v" := by decide +kernel
  exact ⟨hlogical, hends, hwhole, hsplit, (hpart _ (by simp)).1, (hpart _ (by simp)).1, hkeyScan,
    (hscan "v\\").2.2 _ hvalue⟩

/-! ## All lines of a text -/

section

variable {α β ε : Type} {f : α → Except ε β} {l : List α}

theorem exists_of_mapM_eq_error {e : ε} (h : l.mapM f = .error e) : ∃ x ∈ l, f x = .error e := by
  induction l with
  | nil => cases h
  | cons x l ih =>
    rw [List.mapM_cons] at h
    cases hx : f x with
    | error e' =>
      rw [hx] at h
      cases h
      exact ⟨x, by simp, hx⟩
    | ok b =>
      rw [hx] at h
      cases hl : l.mapM f with
      | error e' =>
        rw [hl] at h
        cases h
        obtain ⟨y, hy, hf⟩ := ih hl
        exact ⟨y, by simp [hy], hf⟩
      | ok bs =>
        rw [hl] at h
        cases h

theorem exists_mapM_eq_error {x : α} (hx : x ∈ l) {e : ε} (h : f x = .error e) :
    ∃ e, l.mapM f = .error e := by
  induction l with
  | nil => cases hx
  | cons y l ih =>
    rw [List.mapM_cons]
    cases hy : f y with
    | error e => exact ⟨e, rfl⟩
    | ok b =>
      rcases List.mem_cons.1 hx with rfl | hx
      · rw [h] at hy
        cases hy
      · obtain ⟨e', he⟩ := ih hx
        exact ⟨e', by rw [he]; rfl⟩

end

/-- A comment leaves no trace among the logical lines, whatever it holds. -/
theorem joinLines_of_comment {before : List Text} {comment : Text} (hb : goesOn before = false)
    (hc : isComment comment = true) (after : List Text) :
    joinLines none (before ++ comment :: after) = joinLines none (before ++ after) := by
  rw [joinLines_append_of_not_goesOn hb, joinLines_append_of_not_goesOn hb,
    joinLines_of_ignored rfl (isIgnored_of_isComment hc)]

/-- A text is refused just when a scan over one of its logical lines comes upon a malformed escape, and
then for an escape in the key or in the value of such a line. A comment is read as if it were not there. -/
theorem refused_iff_malformed (text : Text) :
    ((∃ e, entries text = .error e) ↔ ∃ line ∈ logicalLines text, HasMalformedEscape line) ∧
      (∀ e, entries text = .error e → ∃ line ∈ logicalLines text,
        ∃ part ∈ [(splitEntry line).1, (splitEntry line).2],
          HasMalformedEscape part ∧ e = .malformedEscape part) ∧
      ∀ before comment after, naturalLines text = before ++ comment :: after →
        goesOn before = false → isComment comment = true →
        logicalLines text = joinLines none (before ++ after) := by
  refine ⟨⟨?_, ?_⟩, ?_, ?_⟩
  · rintro ⟨e, h⟩
    obtain ⟨line, hl, he⟩ := exists_of_mapM_eq_error h
    exact ⟨line, hl, (parseEntry_eq_error_iff line).1 ⟨e, he⟩⟩
  · rintro ⟨line, hl, hm⟩
    obtain ⟨e, he⟩ := (parseEntry_eq_error_iff line).2 hm
    exact exists_mapM_eq_error hl he
  · intro e h
    obtain ⟨line, hl, he⟩ := exists_of_mapM_eq_error h
    exact ⟨line, hl, parseEntry_eq_error he⟩
  · intro before comment after h hb hc
    rw [logicalLines_eq, h, joinLines_of_comment hb hc]

/-- The digits of an escape do not reach over a separator, and an escape in a comment is none. -/
theorem refused_iff_malformed_straddling :
    (∃ e, entries "#\\u\na\\u004=1" = .error e) ∧
      logicalLines "#\\u\na\\u004=1" = [Text.ofString "a\\u004=1"] := by
  have hlines : naturalLines "#\\u\na\\u004=1" =
      [] ++ Text.ofString "#\\u" :: [Text.ofString "a\\u004=1"] := by decide
  obtain ⟨hi, _, hc⟩ := refused_iff_malformed "#\\u\na\\u004=1"
  have hl : logicalLines "#\\u\na\\u004=1" = [Text.ofString "a\\u004=1"] :=
    (hc [] "#\\u" [Text.ofString "a\\u004=1"] hlines rfl (by decide)).trans (by decide)
  have hd : ¬ StartsWithDigits "004=1" := by
    intro h
    have he := isHexDigit_iff.1 (startsWithDigits_iff.1 h).2.2.2
    exact absurd he (by decide)
  have hm : HasMalformedEscape "a\\u004=1" := ⟨"a", "004=1", rfl, .plain (by decide) .nil, hd⟩
  exact ⟨hi.2 ⟨_, by simp [hl], hm⟩, hl⟩

end SbtWorkspace.Properties
