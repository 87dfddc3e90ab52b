import Mathlib.Data.List.Basic
import SbtWorkspace.Toml.Document

/-! What a refusal of a TOML text says about the text. Every reader leaves an end of the text it was given,
so what a refusal later in the text is about stands in the whole text as well. Main statement:
`isAbout_of_parse`. -/

namespace SbtWorkspace.Toml

open Lexeme

variable {α β : Type} {c : Char} {cs cs' s rest : List Char} {levels fuel : Nat} {e : Error}

def isOpening (c : Char) : Bool := c = '[' || c = '\x7b'

/-- Whether an error has its cause in a text: for an integer of too many digits, as many digits, and for
values that are nested too deeply, brackets for more than the levels there are. -/
def Error.IsAbout (levels : Nat) (cs : List Char) : Error → Prop
  | .malformed => True
  | .tooManyDigits count => Numeral.maxDigits < count ∧ count ≤ cs.countP isDecimal
  | .tooDeep => levels < tableLevels * cs.countP isOpening

theorem Error.IsAbout.mono (h : e.IsAbout levels cs) (hs : cs.Sublist cs') : e.IsAbout levels cs' := by
  cases e with
  | malformed => trivial
  | tooManyDigits count => exact ⟨h.1, Nat.le_trans h.2 hs.countP_le⟩
  | tooDeep => exact Nat.lt_of_lt_of_le h (Nat.mul_le_mul_left _ hs.countP_le)

def OnlyMalformed (x : Except Error α) : Prop := ∀ e, x = .error e → e = .malformed

namespace OnlyMalformed

theorem ok {a : α} : OnlyMalformed (.ok a) := fun _ h => nomatch h

theorem malformed : OnlyMalformed (.error .malformed : Except Error α) := by
  rintro e ⟨⟩
  rfl

theorem bind {x : Except Error α} {f : α → Except Error β} (hx : OnlyMalformed x)
    (hf : ∀ a, OnlyMalformed (f a)) : OnlyMalformed (x >>= f) := by
  cases x with
  | ok a => exact hf a
  | error e =>
    rw [hx e rfl]
    exact malformed

theorem ite {p : Prop} [Decidable p] {x y : Except Error α} (hx : OnlyMalformed x) (hy : OnlyMalformed y) :
    OnlyMalformed (if p then x else y) := by
  split
  · exact hx
  · exact hy

end OnlyMalformed

/-- What a reader of a text came to: it leaves an end of the text, or the text has the cause of the error. -/
def Reads (levels : Nat) (cs : List Char) (left : α → List Char) : Except Error α → Prop
  | .ok a => left a <:+ cs
  | .error e => e.IsAbout levels cs

namespace Reads

variable {left : α → List Char} {left' : β → List Char} {x : Except Error α} {f : α → Except Error β}

theorem ok {a : α} (h : left a <:+ cs) : Reads levels cs left (.ok a) := h

theorem malformed : Reads levels cs left (.error .malformed) := trivial

/-- One reader after another, which reads what the first one leaves. -/
theorem bind (hx : Reads levels cs left x) (hf : ∀ a, Reads levels (left a) left' (f a)) :
    Reads levels cs left' (x >>= f) := by
  cases x with
  | error e => exact hx
  | ok a =>
    have h := hf a
    show Reads levels cs left' (f a)
    cases hfa : f a with
    | error e =>
      rw [hfa] at h
      exact Error.IsAbout.mono h (List.IsSuffix.sublist hx)
    | ok b =>
      rw [hfa] at h
      exact List.IsSuffix.trans h hx

theorem ofSuffix (h : Reads levels rest left x) (hs : rest <:+ cs) : Reads levels cs left x :=
  by
  cases x with
  | ok a => exact List.IsSuffix.trans h hs
  | error e => exact Error.IsAbout.mono h hs.sublist

theorem ofMalformed (h : OnlyMalformed x) : Reads levels cs (fun _ => cs) x := by
  cases x with
  | ok a => exact List.suffix_refl cs
  | error e =>
    rw [h e rfl]
    trivial

end Reads

/-! ## Strings -/

theorem exists_of_prepend {r : Option (List Char × List Char)} (h : r.map (prepend c) = some (s, rest)) :
    ∃ s', r = some (s', rest) := by
  obtain ⟨⟨s', rest'⟩, hr, he⟩ := Option.map_eq_some_iff.1 h
  cases he
  exact ⟨s', hr⟩

theorem exists_of_escape {x : Option Char} {r : Option (List Char × List Char)}
    (h : (do let c ← x; let more ← r; pure (prepend c more)) = some (s, rest)) :
    ∃ s', r = some (s', rest) := by
  cases x with
  | none => cases h
  | some c =>
    cases r with
    | none => cases h
    | some more =>
      obtain ⟨s', rest'⟩ := more
      cases h
      exact ⟨s', rfl⟩

theorem suffix_of_basicString (h : basicString cs = some (s, rest)) : rest <:+ cs := by
  fun_induction basicString cs generalizing s rest with
  | case1 => cases h
  | case2 rest' =>
    cases h
    exact List.suffix_cons ..
  | case3 a b c d rest' ih =>
    obtain ⟨s', hs⟩ := exists_of_escape h
    exact (ih hs).trans (List.suffix_append ['\\', 'u', a, b, c, d] rest')
  | case4 a b c d e f g h' rest' ih =>
    obtain ⟨s', hs⟩ := exists_of_escape h
    exact (ih hs).trans (List.suffix_append ['\\', 'U', a, b, c, d, e, f, g, h'] rest')
  | case5 e rest' _ _ ih =>
    obtain ⟨s', hs⟩ := exists_of_escape h
    exact (ih hs).trans (List.suffix_append ['\\', e] rest')
  | case6 => cases h
  | case7 c rest' _ _ _ _ _ ih =>
    obtain ⟨s', hs⟩ := exists_of_prepend h
    exact (ih hs).trans (List.suffix_cons ..)

theorem suffix_of_basicLines {mode : LineMode} (h : basicLines mode cs = some (s, rest)) : rest <:+ cs := by
  induction mode, cs using basicLines.induct
    (fun c cs => ∀ s rest, basicLines.read c cs = some (s, rest) → rest <:+ cs)
    generalizing s rest with
  | case1 rest' =>
    rename_i s rest h
    rw [basicLines.read] at h
    cases h
    exact List.suffix_append ['"', '"'] rest'
  | case2 a b c d rest' ih =>
    rename_i s rest h
    rw [basicLines.read] at h
    obtain ⟨s', hs⟩ := exists_of_escape h
    exact (ih hs).trans (List.suffix_append ['u', a, b, c, d] rest')
  | case3 a b c d e f g h' rest' ih =>
    rename_i s rest h
    rw [basicLines.read] at h
    obtain ⟨s', hs⟩ := exists_of_escape h
    exact (ih hs).trans (List.suffix_append ['U', a, b, c, d, e, f, g, h'] rest')
  | case4 rest' hu hU ih =>
    rename_i s rest h
    rw [basicLines.read.eq_4 _ _ hu hU, if_pos rfl] at h
    exact (ih h).trans (List.suffix_cons ..)
  | case5 e rest' hu hU hn hg ih =>
    rename_i s rest h
    rw [basicLines.read.eq_4 _ _ hu hU, if_neg hn, if_pos hg] at h
    exact (ih h).trans (List.suffix_cons ..)
  | case6 e rest' hu hU hn hg ih =>
    rename_i s rest h
    rw [basicLines.read.eq_4 _ _ hu hU, if_neg hn, if_neg hg] at h
    obtain ⟨s', hs⟩ := exists_of_escape h
    exact (ih hs).trans (List.suffix_cons ..)
  | case7 c rest' h₁ h₂ h₃ h₄ hc =>
    rename_i s rest h
    rw [basicLines.read.eq_5 _ _ h₁ h₂ h₃ h₄, if_pos hc] at h
    cases h
  | case8 c rest' h₁ h₂ h₃ h₄ hc ih =>
    rename_i s rest h
    rw [basicLines.read.eq_5 _ _ h₁ h₂ h₃ h₄, if_neg hc] at h
    obtain ⟨s', hs⟩ := exists_of_prepend h
    exact ih hs
  | case9 mode =>
    rw [basicLines] at h
    cases h
  | case10 rest' ih =>
    rw [basicLines, if_pos rfl] at h
    exact (ih h).trans (List.suffix_cons ..)
  | case11 c rest' hn hg ih =>
    rw [basicLines, if_neg hn, if_pos hg] at h
    exact (ih h).trans (List.suffix_cons ..)
  | case12 c rest' hn hg =>
    rw [basicLines, if_neg hn, if_neg hg] at h
    cases h
  | case13 c rest' hg ih =>
    rw [basicLines, if_pos hg] at h
    exact (ih h).trans (List.suffix_cons ..)
  | case14 c rest' hg ih =>
    rw [basicLines, if_neg hg] at h
    exact (ih _ _ h).trans (List.suffix_cons ..)
  | case15 c rest' ih =>
    rw [basicLines] at h
    exact (ih _ _ h).trans (List.suffix_cons ..)

theorem suffix_of_literalString (h : literalString cs = some (s, rest)) : rest <:+ cs := by
  simp only [literalString] at h
  split at h
  · cases h
  rename_i c rest' hd
  split at h
  · cases h
  cases h
  exact (List.suffix_cons c rest).trans (hd ▸ List.drop_suffix _ cs)

theorem suffix_of_literalLines (h : literalLines cs = some (s, rest)) : rest <:+ cs := by
  fun_induction literalLines cs generalizing s rest with
  | case1 => cases h
  | case2 rest' =>
    cases h
    exact List.suffix_append ['\x27', '\x27', '\x27'] rest'
  | case3 => cases h
  | case4 c rest' _ _ ih =>
    obtain ⟨s', hs⟩ := exists_of_prepend h
    exact (ih hs).trans (List.suffix_cons ..)

theorem suffix_of_trailingQuotes {quote : Char} {r : Option (List Char × List Char)}
    (h : r.map (trailingQuotes quote) = some (s, rest)) : ∃ s' rest', r = some (s', rest') ∧ rest <:+ rest' := by
  obtain ⟨⟨s', rest'⟩, hr, he⟩ := Option.map_eq_some_iff.1 h
  cases he
  exact ⟨s', rest', hr, List.drop_suffix ..⟩

theorem suffix_skipFirstLineEnd (cs : List Char) : skipFirstLineEnd cs <:+ cs := by
  unfold skipFirstLineEnd
  split
  · exact List.suffix_cons ..
  · exact List.suffix_refl _

theorem suffix_of_string (h : Lexeme.string cs = some (s, rest)) : rest <:+ cs := by
  unfold Lexeme.string at h
  split at h
  · rename_i cs
    obtain ⟨s', rest', hr, hs⟩ := suffix_of_trailingQuotes h
    exact ((hs.trans (suffix_of_basicLines hr)).trans (suffix_skipFirstLineEnd cs)).trans
      (List.suffix_append ['"', '"', '"'] cs)
  · exact (suffix_of_basicString h).trans (List.suffix_cons ..)
  · rename_i cs
    obtain ⟨s', rest', hr, hs⟩ := suffix_of_trailingQuotes h
    exact ((hs.trans (suffix_of_literalLines hr)).trans (suffix_skipFirstLineEnd cs)).trans
      (List.suffix_append ['\x27', '\x27', '\x27'] cs)
  · exact (suffix_of_literalString h).trans (List.suffix_cons ..)
  · cases h

/-! ## Numbers, dates and times -/

variable {isMember : Char → Bool}

theorem suffix_of_grouped (h : grouped isMember cs = (s, rest)) : rest <:+ cs := by
  fun_induction grouped isMember cs generalizing s rest with
  | case1 =>
    cases h
    exact List.suffix_refl _
  | case2 c d rest' hc hd ih =>
    cases h
    exact (ih rfl).trans (List.suffix_append [c, '_'] (d :: rest'))
  | case3 c d rest' =>
    cases h
    exact List.suffix_cons ..
  | case4 =>
    cases h
    exact List.suffix_refl _
  | case5 c rest' _ _ ih =>
    cases h
    exact (ih rfl).trans (List.suffix_cons ..)
  | case6 =>
    cases h
    exact List.suffix_refl _

theorem length_grouped_le (isMember : Char → Bool) (cs : List Char) :
    (grouped isMember cs).1.length ≤ cs.countP isMember := by
  fun_induction grouped isMember cs with
  | case1 => exact Nat.le_refl 0
  | case2 c d rest hc hd ih =>
    simp only [prepend, List.length_cons, List.countP_cons_of_pos hc]
    have := (List.sublist_cons_self '_' (d :: rest)).countP_le (p := isMember)
    omega
  | case3 c d rest hc => simp [List.countP_cons, hc]
  | case4 => exact Nat.zero_le _
  | case5 c rest _ hc ih => simpa [prepend, List.countP_cons_of_pos hc] using ih
  | case6 => exact Nat.zero_le _

theorem suffix_afterSign (cs : List Char) : (match cs with
    | '+' :: r => (false, r)
    | '-' :: r => (true, r)
    | r => (false, r) : Bool × List Char).2 <:+ cs := by
  split
  · exact List.suffix_cons ..
  · exact List.suffix_cons ..
  · exact List.suffix_refl _

theorem suffix_of_exponent? {n : Int} (h : exponent? cs = some (n, rest)) : rest <:+ cs := by
  unfold exponent? at h
  split at h
  · split at h
    · simp only at h
      split at h
      · cases h
      · rename_i hg
        cases h
        exact ((suffix_of_grouped hg).trans (suffix_afterSign _)).trans (List.suffix_cons ..)
    · cases h
  · cases h

theorem suffix_of_fraction? (h : fraction? cs = some (s, rest)) : rest <:+ cs := by
  unfold fraction? at h
  split at h
  · split at h
    · cases h
    · rename_i hg
      cases h
      exact (suffix_of_grouped hg).trans (List.suffix_cons ..)
  · cases h

theorem wholeDigits (cs : List Char) : ∀ whole : List Char × List Char, (match cs with
      | '0' :: rest => (['0'], rest)
      | _ => grouped isDecimal cs) = whole →
    whole.2 <:+ cs ∧ (Numeral.maxDigits < whole.1.length → whole.1.length ≤ cs.countP isDecimal) := by
  rintro whole rfl
  split
  · exact ⟨List.suffix_cons .., fun h => absurd h (by simp [Numeral.maxDigits])⟩
  · exact ⟨suffix_of_grouped rfl, fun _ => length_grouped_le ..⟩

theorem reads_of_unsignedNumber {negative : Bool} {x : Except Error (Value × List Char)}
    (h : unsignedNumber negative cs = some x) : Reads levels cs (·.2) x := by
  have hwhole := wholeDigits cs
  simp only [unsignedNumber] at h
  split at h
  · cases h
  rename_i hw
  obtain ⟨hs, hl⟩ := hwhole _ hw
  split at h
  · rename_i hf
    have hs := (suffix_of_fraction? hf).trans hs
    split at h
    · rename_i he
      cases h
      exact Reads.ok ((suffix_of_exponent? he).trans hs)
    · cases h
      exact Reads.ok hs
  · rename_i he
    cases h
    exact Reads.ok ((suffix_of_exponent? he).trans hs)
  · split at h
    · rename_i hmany
      cases h
      exact ⟨hmany, hl hmany⟩
    · cases h
      exact Reads.ok hs

theorem suffix_of_radixNumber? {value : Value} (h : radixNumber? cs = some (value, rest)) : rest <:+ cs := by
  unfold radixNumber? at h
  simp only at h
  split at h
  case h_4 => cases h
  all_goals
    split at h
    · cases h
    · rename_i hg
      cases h
      exact (suffix_of_grouped hg).trans (List.suffix_append [_, _] _)

theorem reads_of_number {x : Except Error (Value × List Char)} (h : number cs = some x) :
    Reads levels cs (·.2) x := by
  unfold number at h
  split at h
  · rename_i reading hr
    cases h
    exact Reads.ok (suffix_of_radixNumber? hr)
  · split at h
    · exact (reads_of_unsignedNumber h).ofSuffix (List.suffix_cons ..)
    · exact (reads_of_unsignedNumber h).ofSuffix (List.suffix_cons ..)
    · exact reads_of_unsignedNumber h

theorem suffix_of_digits? {count n : Nat} (h : digits? count cs = some (n, rest)) : rest <:+ cs := by
  simp only [digits?] at h
  split at h
  · cases h
    exact List.drop_suffix ..
  · cases h

theorem suffix_of_expect? (h : expect? c cs = some rest) : rest <:+ cs := by
  unfold expect? at h
  split at h
  · cases h
  · split at h
    · cases h
      exact List.suffix_cons ..
    · cases h

theorem suffix_of_time? (h : time? cs = some rest) : rest <:+ cs := by
  simp only [time?, Option.bind_eq_bind, Option.bind_eq_some_iff] at h
  obtain ⟨⟨hour, r₁⟩, h₁, r₂, h₂, ⟨minute, r₃⟩, h₃, r₄, h₄, ⟨second, r₅⟩, h₅, h⟩ := h
  have hs := (((suffix_of_digits? h₅).trans (suffix_of_expect? h₄)).trans (suffix_of_digits? h₃)).trans
    ((suffix_of_expect? h₂).trans (suffix_of_digits? h₁))
  split at h
  · split at h
    · rename_i places hr
      obtain rfl : r₅ = '.' :: places := hr
      split at h
      · cases h
        exact hs
      · cases h
        exact ((List.drop_suffix ..).trans (List.suffix_cons '.' places)).trans hs
    · cases h
      exact hs
  · cases h

theorem suffix_of_offset? (h : offset? cs = some rest) : rest <:+ cs := by
  unfold offset? at h
  split at h
  · cases h
  split at h
  · cases h
    exact List.suffix_cons ..
  split at h
  · simp only [Option.bind_eq_bind, Option.bind_eq_some_iff] at h
    obtain ⟨⟨hour, r₁⟩, h₁, r₂, h₂, ⟨minute, r₃⟩, h₃, h⟩ := h
    split at h
    · cases h
      exact ((suffix_of_digits? h₃).trans (suffix_of_expect? h₂)).trans
        ((suffix_of_digits? h₁).trans (List.suffix_cons ..))
    · cases h
  · cases h

theorem reads_of_date {x : Except Error (List Char)} (h : date cs = some x) : Reads levels cs id x := by
  simp only [date, Option.bind_eq_bind, Option.bind_eq_some_iff] at h
  obtain ⟨⟨year, r₁⟩, h₁, r₂, h₂, ⟨month, r₃⟩, h₃, r₄, h₄, ⟨day, r₅⟩, h₅, h⟩ := h
  have hs := (((suffix_of_digits? h₅).trans (suffix_of_expect? h₄)).trans (suffix_of_digits? h₃)).trans
    ((suffix_of_expect? h₂).trans (suffix_of_digits? h₁))
  split at h
  · split at h
    · cases h
      exact Reads.malformed
    · split at h
      · rename_i c rest hr
        obtain rfl : r₅ = c :: rest := hr
        split at h
        · split at h
          · rename_i after ht
            cases h
            have hs := ((suffix_of_time? ht).trans (List.suffix_cons c rest)).trans hs
            cases ho : offset? after with
            | none => exact hs
            | some left => exact (suffix_of_offset? ho).trans hs
          · cases h
            exact Reads.ok hs
        · cases h
          exact Reads.ok hs
      · cases h
        exact Reads.ok hs
  · cases h

theorem suffix_unsigned (cs : List Char) : ∀ unsigned, (match cs with
    | '+' :: rest => rest
    | '-' :: rest => rest
    | _ => cs) = unsigned → unsigned <:+ cs := by
  rintro unsigned rfl
  split
  · exact List.suffix_cons ..
  · exact List.suffix_cons ..
  · exact List.suffix_refl _

theorem suffix_of_special? {value : Value} (h : special? cs = some (value, rest)) : rest <:+ cs := by
  simp only [special?] at h
  split at h
  · rename_i hu
    cases h
    exact (List.suffix_append ['i', 'n', 'f'] rest).trans (suffix_unsigned cs _ hu)
  · rename_i hu
    cases h
    exact (List.suffix_append ['n', 'a', 'n'] rest).trans (suffix_unsigned cs _ hu)
  · cases h

theorem reads_scalar (cs : List Char) : Reads levels cs (·.2) (scalar cs) := by
  unfold scalar
  split
  · rename_i x hd
    have h : Reads levels cs id x := reads_of_date hd
    cases x with
    | ok rest => exact h
    | error e => exact h
  split
  · rename_i ht
    exact Reads.ok (suffix_of_time? ht)
  split
  · rename_i hn
    exact reads_of_number hn
  split
  · rename_i hs
    exact Reads.ok (suffix_of_special? hs)
  · exact Reads.malformed

/-! ## Blanks and comments -/

theorem suffix_skipGaps (cs : List Char) : skipGaps cs <:+ cs := List.dropWhile_suffix _

theorem reads_skipComment (cs : List Char) : Reads levels cs id (skipComment cs) := by
  unfold skipComment
  split
  · split
    · exact Reads.malformed
    · exact Reads.ok ((List.dropWhile_suffix _).trans (List.suffix_cons ..))
  · exact Reads.ok (List.suffix_refl _)

theorem reads_skipIgnored (fuel : Nat) (cs : List Char) : Reads levels cs id (skipIgnored fuel cs) := by
  induction fuel generalizing cs with
  | zero => exact Reads.ok (List.suffix_refl _)
  | succ fuel ih =>
    unfold skipIgnored
    have hs : cs.dropWhile isGapOrLineEnd <:+ cs := List.dropWhile_suffix _
    split
    · rename_i hd
      rw [hd] at hs
      exact ((reads_skipComment _).bind fun rest => ih rest).ofSuffix hs
    · exact Reads.ok hs

/-! ## Keys and tables -/

theorem reads_parsePart (cs : List Char) : Reads levels cs (·.2) (Key.parsePart cs) := by
  unfold Key.parsePart
  split
  · exact Reads.malformed
  rename_i c rest
  split
  · exact Reads.ok (List.dropWhile_suffix _)
  dsimp only
  split
  · rename_i name left hr
    refine Reads.ok (List.IsSuffix.trans ?_ (List.suffix_cons c rest))
    split at hr
    · exact suffix_of_basicString hr
    split at hr
    · exact suffix_of_literalString hr
    · cases hr
  · exact Reads.malformed

theorem reads_parseNames (fuel : Nat) (cs : List Char) :
    Reads levels cs (·.2) (Key.parseNames fuel cs) := by
  induction fuel generalizing cs with
  | zero => exact Reads.malformed
  | succ fuel ih =>
    unfold Key.parseNames
    refine (reads_parsePart cs).bind fun (name, rest) => ?_
    refine Reads.ofSuffix ?_ (suffix_skipGaps rest)
    dsimp only
    split
    · rename_i after hd
      rw [hd]
      refine (((ih _).ofSuffix (suffix_skipGaps after)).ofSuffix (List.suffix_cons ..)).bind
        fun (names, rest) => ?_
      exact Reads.ok (List.suffix_refl _)
    · exact Reads.ok (List.suffix_refl _)

theorem reads_parseKey (cs : List Char) : Reads levels cs (·.2) (Key.parse cs) := reads_parseNames _ cs

/-- A change that is refused as malformed only is refused so below a key as well. -/
theorem onlyMalformed_change {throughArrays : Bool} {key : Key} {f : Table → Except Error Table}
    (hf : ∀ t, OnlyMalformed (f t)) (t : Table) : OnlyMalformed (t.change throughArrays key f) := by
  induction key generalizing t with
  | nil => exact hf t
  | cons name names ih =>
    unfold Table.change
    split
    · exact (ih _).bind fun _ => .ok
    · exact (ih _).bind fun _ => .ok
    · split
      · exact (ih _).bind fun _ => .ok
      · exact .malformed
    · exact .malformed

theorem onlyMalformed_insertAt {throughArrays : Bool} {key : Key} {value : Value} {t : Table} :
    OnlyMalformed (t.insertAt throughArrays key value) :=
  onlyMalformed_change (fun _ => .ite .malformed .ok) t

theorem onlyMalformed_appendItem {name : String} (t : Table) : OnlyMalformed (Draft.appendItem name t) := by
  unfold Draft.appendItem
  split
  · exact .ok
  · exact .ok
  · exact .malformed

/-! ## Values -/

/-- An opening bracket accounts for the levels that are taken below it. -/
theorem Reads.below {left : α → List Char} {x : Except Error α} (taken : Nat) (ht : taken ≤ tableLevels)
    (hc : isOpening c = true) (h : Reads (levels - taken) rest left x) : Reads levels (c :: rest) left x := by
  cases x with
  | ok a => exact List.IsSuffix.trans h (List.suffix_cons ..)
  | error e =>
    cases e with
    | malformed => trivial
    | tooManyDigits count =>
      have h : Error.IsAbout levels rest (.tooManyDigits count) := h
      exact h.mono (List.sublist_cons_self ..)
    | tooDeep =>
      have h : levels - taken < tableLevels * rest.countP isOpening := h
      show levels < tableLevels * (c :: rest).countP isOpening
      rw [List.countP_cons_of_pos hc, Nat.mul_succ]
      omega

theorem isAbout_tooDeep (hc : isOpening c = true) (h : levels < tableLevels) :
    Error.tooDeep.IsAbout levels (c :: rest) := by
  show levels < tableLevels * (c :: rest).countP isOpening
  rw [List.countP_cons_of_pos hc, Nat.mul_succ]
  omega

theorem reads_parseValue_succ (hitems : ∀ levels cs, Reads levels cs (·.2) (parseItems levels fuel cs))
    (hentries : ∀ levels closed t cs, Reads levels cs (·.2) (parseEntries levels fuel closed t cs))
    (levels : Nat) (cs : List Char) : Reads levels cs (·.2) (parseValue levels (fuel + 1) cs) := by
  unfold parseValue
  split
  · exact Reads.malformed
  rename_i c rest
  split
  · split
    · rename_i hs
      exact Reads.ok (suffix_of_string hs)
    · exact Reads.malformed
  split
  · exact Reads.ok (List.drop_suffix ..)
  split
  · exact Reads.ok (List.drop_suffix ..)
  split
  · rename_i hc
    subst hc
    split
    · rename_i hl
      exact isAbout_tooDeep (c := '[') (by decide) (Nat.lt_trans hl (by decide))
    refine Reads.below arrayLevels (by decide) (by decide) ?_
    refine (reads_skipIgnored _ rest).bind fun rest => ?_
    dsimp only [id]
    split
    · exact Reads.ok (List.suffix_cons ..)
    · exact (hitems _ rest).bind fun (items, rest) => Reads.ok (List.suffix_refl _)
  split
  · rename_i hc
    subst hc
    by_cases hl : levels < tableLevels
    · rw [if_pos hl]
      exact isAbout_tooDeep (c := '\x7b') (by decide) hl
    rw [if_neg hl]
    refine Reads.below tableLevels (Nat.le_refl _) (by decide) ?_
    refine Reads.ofSuffix ?_ (suffix_skipGaps rest)
    split
    · rename_i after hd
      rw [hd]
      exact Reads.ok (List.suffix_cons ..)
    · exact (hentries _ _ _ _).bind fun (entries, rest) => Reads.ok (List.suffix_refl _)
  · exact reads_scalar _

theorem reads_parseItems_succ (hvalue : ∀ levels cs, Reads levels cs (·.2) (parseValue levels fuel cs))
    (hitems : ∀ levels cs, Reads levels cs (·.2) (parseItems levels fuel cs)) (levels : Nat) (cs : List Char) :
    Reads levels cs (·.2) (parseItems levels (fuel + 1) cs) := by
  unfold parseItems
  refine (hvalue levels cs).bind fun (item, rest) => ?_
  refine (reads_skipIgnored _ rest).bind fun rest => ?_
  dsimp only [id]
  split
  · exact Reads.ok (List.suffix_cons ..)
  · rename_i rest
    refine Reads.ofSuffix ?_ (List.suffix_cons ..)
    refine (reads_skipIgnored _ rest).bind fun rest => ?_
    dsimp only [id]
    split
    · exact Reads.ok (List.suffix_cons ..)
    · exact (hitems _ _).bind fun (items, rest) => Reads.ok (List.suffix_refl _)
  · exact Reads.malformed

theorem reads_parseEntries_succ (hvalue : ∀ levels cs, Reads levels cs (·.2) (parseValue levels fuel cs))
    (hentries : ∀ levels closed t cs, Reads levels cs (·.2) (parseEntries levels fuel closed t cs))
    (levels : Nat) (closed : List Key) (t : Table) (cs : List Char) :
    Reads levels cs (·.2) (parseEntries levels (fuel + 1) closed t cs) := by
  unfold parseEntries
  refine (reads_parseKey cs).bind fun (key, rest) => ?_
  dsimp only
  split
  · rename_i rest
    refine Reads.ofSuffix ?_ ((suffix_skipGaps rest).trans (List.suffix_cons ..))
    refine (hvalue levels _).bind fun (value, rest) => ?_
    dsimp only
    split
    · exact Reads.malformed
    refine (Reads.ofMalformed onlyMalformed_insertAt).bind fun t => ?_
    refine Reads.ofSuffix ?_ (suffix_skipGaps rest)
    split
    · rename_i hd
      rw [hd]
      exact Reads.ok (List.suffix_cons ..)
    · rename_i after hd
      rw [hd]
      exact (hentries _ _ _ _).ofSuffix ((suffix_skipGaps after).trans (List.suffix_cons ..))
    · exact Reads.malformed
  · exact Reads.malformed

theorem reads_parseValue (fuel levels : Nat) (cs : List Char) :
    Reads levels cs (·.2) (parseValue levels fuel cs) := by
  suffices h : (∀ levels cs, Reads levels cs (·.2) (parseValue levels fuel cs)) ∧
      (∀ levels cs, Reads levels cs (·.2) (parseItems levels fuel cs)) ∧
      ∀ levels closed t cs, Reads levels cs (·.2) (parseEntries levels fuel closed t cs) from h.1 levels cs
  induction fuel with
  | zero => exact ⟨fun _ _ => Reads.malformed, fun _ _ => Reads.malformed, fun _ _ _ _ => Reads.malformed⟩
  | succ fuel ih =>
    obtain ⟨hvalue, hitems, hentries⟩ := ih
    exact ⟨reads_parseValue_succ hitems hentries, reads_parseItems_succ hvalue hitems,
      reads_parseEntries_succ hvalue hentries⟩

/-! ## Documents -/

variable {d : Draft} {key : Key}

theorem onlyMalformed_openTable : OnlyMalformed (d.openTable key) :=
  .ite .malformed ((onlyMalformed_change (fun _ => .ok) _).bind fun _ => .ok)

theorem onlyMalformed_openItem : OnlyMalformed (d.openItem key) :=
  .ite .malformed ((onlyMalformed_change onlyMalformed_appendItem _).bind fun _ => .ok)

theorem onlyMalformed_add {value : Value} : OnlyMalformed (d.add key value) :=
  .ite .malformed (.ite .malformed (onlyMalformed_insertAt.bind fun _ => .ok))

theorem reads_statement (levels : Nat) (d : Draft) (cs : List Char) :
    Reads levels cs (·.2) (d.statement levels cs) := by
  unfold Draft.statement
  split
  · rename_i rest
    refine Reads.ofSuffix ?_ ((suffix_skipGaps rest).trans (List.suffix_append ['[', '['] rest))
    refine (reads_parseKey _).bind fun (key, rest) => ?_
    refine (Reads.ofMalformed onlyMalformed_openItem).bind fun d => ?_
    dsimp only
    split
    · rename_i rest
      exact Reads.ok (List.suffix_append [']', ']'] rest)
    · exact Reads.malformed
  · rename_i rest _
    refine Reads.ofSuffix ?_ ((suffix_skipGaps rest).trans (List.suffix_cons '[' rest))
    refine (reads_parseKey _).bind fun (key, rest) => ?_
    refine (Reads.ofMalformed onlyMalformed_openTable).bind fun d => ?_
    dsimp only
    split
    · exact Reads.ok (List.suffix_cons ..)
    · exact Reads.malformed
  · refine (reads_parseKey cs).bind fun (key, rest) => ?_
    dsimp only
    split
    · rename_i rest
      refine Reads.ofSuffix ?_ ((suffix_skipGaps rest).trans (List.suffix_cons ..))
      refine (reads_parseValue _ _ _).bind fun (value, rest) => ?_
      exact (Reads.ofMalformed onlyMalformed_add).bind fun d => Reads.ok (List.suffix_refl _)
    · exact Reads.malformed

theorem reads_lines (levels fuel : Nat) (d : Draft) (cs : List Char) :
    Reads levels cs (fun _ => []) (d.lines levels fuel cs) := by
  induction fuel generalizing d cs with
  | zero => exact Reads.malformed
  | succ fuel ih =>
    unfold Draft.lines
    refine Reads.ofSuffix ?_ (suffix_skipGaps cs)
    split
    · exact Reads.ok List.nil_suffix
    · rename_i hd
      rw [hd]
      exact (ih _ _).ofSuffix (List.suffix_cons ..)
    · rename_i c rest _ hd
      rw [hd]
      dsimp only
      split
      case' isFalse => refine (reads_statement levels d _).bind fun found => ?_
      -- after a statement and without one, a line goes on alike
      all_goals
        refine ((reads_skipComment _).ofSuffix (suffix_skipGaps _)).bind fun rest => ?_
        dsimp only [id]
        split
        · exact Reads.ok List.nil_suffix
        · exact (ih _ _).ofSuffix (List.suffix_cons ..)
        · exact Reads.malformed

theorem sublist_unifyLineEnds (cs : List Char) : (unifyLineEnds cs).Sublist cs := by
  fun_induction unifyLineEnds cs with
  | case1 rest ih => exact (ih.cons_cons '\n').cons '\r'
  | case2 c rest _ ih => exact ih.cons_cons c
  | case3 => exact List.Sublist.refl _

/-- What the refusal of a text is about stands in the text. -/
theorem isAbout_of_parse {levels : Nat} {text : List Char} (h : parse levels text = .error e) :
    e.IsAbout levels text := by
  have hr := reads_lines levels ((unifyLineEnds text).length + 1) .empty (unifyLineEnds text)
  unfold parse at h
  cases hl : Draft.lines levels ((unifyLineEnds text).length + 1) .empty (unifyLineEnds text) with
  | ok d =>
    simp only [hl] at h
    cases h
  | error e' =>
    simp only [hl] at h
    cases h
    rw [hl] at hr
    exact Error.IsAbout.mono hr (sublist_unifyLineEnds text)

end SbtWorkspace.Toml
