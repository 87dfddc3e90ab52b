import Mathlib.Data.List.Forall2
import Mathlib.Data.List.Induction
import Mathlib.Data.List.TakeWhile
import Mathlib.Data.Nat.Digits.Defs
import SbtWorkspace.Version.Parser

/-! How versions are written: decimal numerals of any script with single points between them, and behind a dash
or a plus sign a tag, if there is one. A numeral has no blank, no point and no mark of a tag in it, so the first
point ends the first number and the first mark ends them all. Main statement: `parse_iff_written`, by which
reading accepts what is written so, with blanks around it or without, and nothing else, and comes to what was
written. -/

namespace SbtWorkspace.Version

variable {α β ε : Type} {t rest numbers tag text : Text} {c mark : CodePoint} {n : Int} {ns : List Int}

/-! ## What is written -/

structure IsNumeral (t : Text) (n : Int) : Prop where
  ne_nil : t ≠ []
  length_le : t.length ≤ 4300
  value : ∃ digits : List Nat, t.map CodePoint.decimal? = digits.map some ∧ n = (Nat.ofDigits 10 digits.reverse : Nat)

/-- Numerals with a point between each two of them, and their numbers. -/
inductive AreNumerals : Text → List Int → Prop
  | single {t : Text} {n : Int} : IsNumeral t n → AreNumerals t [n]
  | cons {t rest : Text} {n : Int} {ns : List Int} : IsNumeral t n → AreNumerals rest ns →
    AreNumerals (t ++ .scalar '.' :: rest) (n :: ns)

/-- A version as it is written, without blanks around it. -/
inductive IsWritten : Text → Version → Prop
  | bare {numbers : Text} {ns : List Int} : AreNumerals numbers ns → IsWritten numbers ⟨ns, none⟩
  | tagged {numbers tag : Text} {ns : List Int} {mark : CodePoint} : AreNumerals numbers ns →
    mark = .scalar '-' ∨ mark = .scalar '+' → tag ≠ [] →
      IsWritten (numbers ++ mark :: tag) ⟨ns, some tag⟩

/-! ## What numerals are made of -/

theorem isBlank_of_decimal? {d : Nat} (h : c.decimal? = some d) : c.isBlank = false := by
  rw [Bool.eq_false_iff]
  intro hb
  have hnone : ∀ r ∈ Blank.ranges, ∀ k ∈ List.range' r.1 (r.2 - r.1 + 1), Digit.value? k = none := by
    decide
  obtain ⟨r, hr, h₁, h₂⟩ := Ranges.covers_iff.1 hb
  have hk : c.val ∈ List.range' r.1 (r.2 - r.1 + 1) := List.mem_range'_1.2 ⟨h₁, by omega⟩
  have hv : Digit.value? c.val = some d := h
  rw [hnone r hr _ hk] at hv
  cases hv

theorem isTagMark_iff : isTagMark c = true ↔ c = .scalar '-' ∨ c = .scalar '+' := by
  simp [isTagMark]

theorem IsNumeral.exists_decimal? (h : IsNumeral t n) (hc : c ∈ t) : ∃ d, c.decimal? = some d := by
  obtain ⟨digits, hd, -⟩ := h.value
  have hm : c.decimal? ∈ digits.map some := hd ▸ List.mem_map_of_mem hc
  obtain ⟨d, -, hd⟩ := List.mem_map.1 hm
  exact ⟨d, hd.symm⟩

theorem IsNumeral.notMem_point (h : IsNumeral t n) : CodePoint.scalar '.' ∉ t := by
  intro hm
  obtain ⟨d, hd⟩ := h.exists_decimal? hm
  cases hd

theorem AreNumerals.ne_nil (h : AreNumerals t ns) : t ≠ [] := by
  cases h with
  | single h => exact h.ne_nil
  | cons => simp

theorem AreNumerals.digit_or_point (h : AreNumerals t ns) (hc : c ∈ t) :
    (∃ d, c.decimal? = some d) ∨ c = .scalar '.' := by
  induction h with
  | single h => exact .inl (h.exists_decimal? hc)
  | cons h _ ih =>
    obtain hc | hc := List.mem_append.1 hc
    · exact .inl (h.exists_decimal? hc)
    · obtain rfl | hc := List.mem_cons.1 hc
      · exact .inr rfl
      · exact ih hc

theorem AreNumerals.isTagMark (h : AreNumerals t ns) (hc : c ∈ t) : isTagMark c = false := by
  rw [Bool.eq_false_iff]
  intro hm
  obtain ⟨d, hd⟩ | rfl := h.digit_or_point hc
  · obtain rfl | rfl := isTagMark_iff.1 hm <;> cases hd
  · cases hm

theorem AreNumerals.isBlank (h : AreNumerals t ns) (hc : c ∈ t) : c.isBlank = false := by
  obtain ⟨d, hd⟩ | rfl := h.digit_or_point hc
  · exact isBlank_of_decimal? hd
  · decide

/-! ## Reading numerals -/

theorem ofDigits_eq (digits : List Nat) : Numeral.ofDigits 10 digits = Nat.ofDigits 10 digits.reverse := by
  induction digits using List.reverseRecOn with
  | nil => rfl
  | append_singleton digits d ih =>
    rw [Numeral.ofDigits_concat, ih, List.reverse_append, List.reverse_singleton, List.singleton_append,
      Nat.ofDigits_cons, Nat.add_comm]

theorem mapM_eq_some_iff {f : α → Option β} {l : List α} {found : List β} :
    l.mapM f = some found ↔ l.map f = found.map some := by
  induction l generalizing found with
  | nil => cases found <;> simp
  | cons a l ih =>
    rw [List.mapM_cons]
    cases found with
    | nil => cases f a <;> cases l.mapM f <;> simp
    | cons b found =>
      rw [List.map_cons, List.map_cons, List.cons.injEq, ← ih]
      cases f a <;> cases l.mapM f <;> simp

theorem mapM_eq_ok_iff {f : α → Except ε β} {l : List α} {found : List β} :
    l.mapM f = .ok found ↔ List.Forall₂ (fun a b => f a = .ok b) l found := by
  induction l generalizing found with
  | nil => cases found <;> simp [pure, Except.pure]
  | cons a l ih =>
    rw [List.mapM_cons]
    cases found with
    | nil => cases f a <;> cases l.mapM f <;> simp [bind, Except.bind, pure, Except.pure]
    | cons b found =>
      rw [List.forall₂_cons, ← ih]
      cases f a <;> cases l.mapM f <;> simp [bind, Except.bind, pure, Except.pure]

/-- A part of a text is read as the number that it is the numeral of. -/
theorem parseComponent_eq_ok_iff {k : Nat} (hne : t ≠ []) : parseComponent t = .ok k ↔ IsNumeral t k := by
  have hleading {digits : List Nat} (hd : t.map CodePoint.decimal? = digits.map some) :
      t.takeWhile (fun c => c.decimal?.isSome) = t := by
    refine List.takeWhile_eq_self_iff.2 fun c hc => ?_
    have hm : c.decimal? ∈ digits.map some := hd ▸ List.mem_map_of_mem hc
    obtain ⟨d, -, hd⟩ := List.mem_map.1 hm
    rw [← hd]
    rfl
  unfold parseComponent
  dsimp only
  constructor
  · intro h
    split at h
    · cases h
    rename_i hle
    split at h
    · rename_i digits hd
      have hd := mapM_eq_some_iff.1 hd
      rw [hleading hd] at hle
      cases h
      exact ⟨hne, Nat.le_of_not_lt hle, digits, hd, by rw [ofDigits_eq]⟩
    · cases h
  · rintro ⟨-, hle, digits, hd, hk⟩
    have hle : ¬ Numeral.maxDigits < t.length := Nat.not_lt.2 hle
    rw [hleading hd, if_neg hle, mapM_eq_some_iff.2 hd, Int.ofNat_inj.1 hk, ← ofDigits_eq]

theorem areNumerals_intercalate {parts : List Text} (h : List.Forall₂ IsNumeral parts ns)
    (hne : parts ≠ []) : AreNumerals ([.scalar '.'].intercalate parts) ns := by
  induction h with
  | nil => exact absurd rfl hne
  | @cons part n parts ns h hrest ih =>
    cases hrest with
    | nil => simpa using AreNumerals.single h
    | @cons next m parts ns hnext hrest =>
      have hcons : AreNumerals (part ++ .scalar '.' :: [.scalar '.'].intercalate (next :: parts)) (n :: m :: ns) :=
        .cons h (ih (by simp))
      simpa [List.intercalate] using hcons

/-- The numerals of a text are its parts between points. -/
theorem areNumerals_iff : AreNumerals t ns ↔ List.Forall₂ IsNumeral (t.splitOn (.scalar '.')) ns := by
  constructor
  · intro h
    induction h with
    | single h =>
      rw [List.splitOn_eq_singleton h.notMem_point]
      exact .cons h .nil
    | cons h _ ih =>
      rw [List.splitOn_append_cons_self_of_not_mem h.notMem_point]
      exact .cons h ih
  · intro h
    have ht := areNumerals_intercalate h (List.splitOn_ne_nil _ _)
    rwa [List.intercalate_splitOn] at ht

theorem exists_isNumeral {parts : List Text} {part : Text} (h : List.Forall₂ IsNumeral parts ns)
    (hp : part ∈ parts) : ∃ n, IsNumeral part n := by
  induction h with
  | nil => cases hp
  | cons h _ ih =>
    obtain rfl | hp := List.mem_cons.1 hp
    · exact ⟨_, h⟩
    · exact ih hp

theorem parseNumbers_eq_ok_iff (whole : Text) : parseNumbers whole t = .ok ns ↔ AreNumerals t ns := by
  rw [areNumerals_iff]
  unfold parseNumbers
  dsimp only
  constructor
  · intro h
    split at h
    · rename_i hall
      have hne : ∀ part ∈ t.splitOn (.scalar '.'), part ≠ [] := fun part hp =>
        (of_decide_eq_true (List.all_eq_true.1 hall part hp)).1
      refine ((List.forall₂_and_left _ _).2 ⟨hne, mapM_eq_ok_iff.1 h⟩).imp ?_
      rintro part n ⟨hne, hn⟩
      cases hk : parseComponent part with
      | error e =>
        rw [hk] at hn
        cases hn
      | ok k =>
        rw [hk] at hn
        cases hn
        exact (parseComponent_eq_ok_iff hne).1 hk
    · cases h
  · intro h
    rw [if_pos]
    · refine mapM_eq_ok_iff.2 (h.imp fun part n hn => ?_)
      obtain ⟨k, rfl⟩ : ∃ k : Nat, n = k := hn.value.elim fun _ hv => ⟨_, hv.2⟩
      rw [(parseComponent_eq_ok_iff hn.ne_nil).2 hn]
      rfl
    · refine List.all_eq_true.2 fun part hp => decide_eq_true ?_
      obtain ⟨n, hn⟩ := exists_isNumeral h hp
      refine ⟨hn.ne_nil, List.all_eq_true.2 fun c hc => ?_⟩
      obtain ⟨d, hd⟩ := hn.exists_decimal? hc
      exact CodePoint.isDigit_of_decimal? hd

/-! ## Reading a version -/

/-- Without blanks around it, a text is read as the version that it is written as. -/
theorem parse_eq_ok_iff_trim {v : Version} : parse text = .ok v ↔ IsWritten text.trim v := by
  have hok {t : Text} {make : List Int → Version} :
      (parseNumbers text t).map make = .ok v ↔ ∃ ns, AreNumerals t ns ∧ make ns = v := by
    simp only [← parseNumbers_eq_ok_iff text]
    cases parseNumbers text t <;> simp [Except.map]
  unfold parse
  dsimp only
  generalize text.trim = value
  constructor
  · intro h
    have hsplit := List.prefix_iff_eq_append.1 (List.takeWhile_prefix (!isTagMark ·) (l := value))
    split at h
    · rename_i hrest
      rw [hrest, List.append_nil] at hsplit
      rw [hsplit] at h
      obtain ⟨ns, hn, rfl⟩ := hok.1 h
      exact .bare hn
    · cases h
    · rename_i mark tag hne hrest
      obtain ⟨ns, hn, rfl⟩ := hok.1 h
      rw [hrest] at hsplit
      -- the numbers end at the first mark
      have hmark : isTagMark mark = true := by
        by_contra hm
        have htake : (value.takeWhile (!isTagMark ·) ++ mark :: tag).takeWhile (!isTagMark ·) =
            value.takeWhile (!isTagMark ·) ++ (mark :: tag).takeWhile (!isTagMark ·) :=
          List.takeWhile_append_of_pos fun c hc => by simp [hn.isTagMark hc]
        rw [hsplit, List.self_eq_append_right] at htake
        simp [hm] at htake
      rw [← hsplit]
      exact .tagged hn (isTagMark_iff.1 hmark) fun he => hne (by rw [he])
  · rintro (hn | ⟨hn, hmark, hne⟩)
    · have htake : value.takeWhile (!isTagMark ·) = value :=
        List.takeWhile_eq_self_iff.2 fun c hc => by simp [hn.isTagMark hc]
      rw [htake, List.drop_length]
      exact hok.2 ⟨_, hn, rfl⟩
    · rename_i numbers tag ns mark
      have htake : (numbers ++ mark :: tag).takeWhile (!isTagMark ·) = numbers := by
        rw [List.takeWhile_append_of_pos fun c hc => by simp [hn.isTagMark hc]]
        simp [isTagMark_iff.2 hmark]
      rw [htake, List.drop_left]
      obtain ⟨first, more, rfl⟩ := List.exists_cons_of_ne_nil hne
      exact hok.2 ⟨_, hn, rfl⟩

/-- Nothing is taken off what is written, unless its tag ends in a blank. -/
theorem IsWritten.trim_eq {v : Version} (h : IsWritten text v)
    (htag : ∀ t ∈ v.tag, ∀ c ∈ t.getLast?, c.isBlank = false) : text.trim = text := by
  cases h with
  | bare hn =>
    exact trimWhile_eq_self (fun c hc => hn.isBlank (List.mem_of_mem_head? hc))
      fun c hc => hn.isBlank (List.mem_of_mem_getLast? hc)
  | @tagged numbers tag ns mark hn hmark hne =>
    refine trimWhile_eq_self (fun c hc => ?_) fun c hc => htag tag rfl c ?_
    · rw [List.head?_append_of_ne_nil _ hn.ne_nil] at hc
      exact hn.isBlank (List.mem_of_mem_head? hc)
    · rwa [List.getLast?_append_of_ne_nil _ (by simp), List.getLast?_cons_of_ne_nil hne] at hc

/-! ## Printing -/

/-- The decimal numeral of a number, in ASCII. -/
def numeral (k : Nat) : Text := (Nat.toDigits 10 k).map CodePoint.scalar

/-- Numbers with points between them, and a tag behind a mark, if there is one. -/
def render (ks : List Nat) (mark : CodePoint) : Option Text → Text
  | none => [.scalar '.'].intercalate (ks.map numeral)
  | some tag => [.scalar '.'].intercalate (ks.map numeral) ++ mark :: tag

theorem decimal?_of_isDigit {d : Char} (h : d.isDigit = true) :
    CodePoint.decimal? (.scalar d) = some (d.toNat - '0'.toNat) := by
  simp only [Char.isDigit, Bool.and_eq_true, decide_eq_true_eq] at h
  obtain ⟨k, hk⟩ : ∃ k, d.toNat = 0x30 + k := Nat.exists_eq_add_of_le h.1
  have hlt : k < 10 := by
    have h₂ : d.toNat ≤ 0x39 := h.2
    omega
  rw [CodePoint.decimal?, CodePoint.val, hk, Digit.value?_ascii hlt]
  congr 1
  exact (Nat.add_sub_cancel_left ..).symm

theorem isNumeral_numeral {k : Nat} (h : (Nat.toDigits 10 k).length ≤ 4300) : IsNumeral (numeral k) k where
  ne_nil := by simp [numeral]
  length_le := by simpa [numeral] using h
  value := by
    refine ⟨(Nat.toDigits 10 k).map fun d => d.toNat - '0'.toNat, ?_, ?_⟩
    · rw [numeral, List.map_map, List.map_map]
      refine List.map_congr_left fun d hd => ?_
      exact decimal?_of_isDigit (Nat.isDigit_of_mem_toDigits (by decide) (by decide) hd)
    · have hk : Nat.ofDigitChars 10 (Nat.toDigits 10 k) 0 = k := Nat.ofDigitChars_toDigits (by decide) (by decide)
      rw [← ofDigits_eq, Numeral.ofDigits, List.foldl_map]
      exact congrArg Int.ofNat hk.symm

theorem isWritten_render {ks : List Nat} {tag : Option Text} (hne : ks ≠ [])
    (hks : ∀ k ∈ ks, (Nat.toDigits 10 k).length ≤ 4300) (hmark : mark = .scalar '-' ∨ mark = .scalar '+')
    (htag : ∀ t ∈ tag, t ≠ []) : IsWritten (render ks mark tag) ⟨ks.map Int.ofNat, tag⟩ := by
  have hparts : List.Forall₂ IsNumeral (ks.map numeral) (ks.map Int.ofNat) := by
    rw [List.forall₂_map_left_iff, List.forall₂_map_right_iff, List.forall₂_same]
    exact fun k hk => isNumeral_numeral (hks k hk)
  have hn := areNumerals_intercalate hparts (by simpa using hne)
  cases tag with
  | none => exact .bare hn
  | some tag => exact .tagged hn hmark (htag tag rfl)

/-- A text is read as a version if and only if it is written as one between blanks, and refused if it is not. So
what is printed is read back, whatever the numbers are, and whatever the tag is if it does not end in a blank. -/
theorem parse_iff_written (text : Text) :
    (∀ v, parse text = .ok v ↔ IsWritten text.trim v) ∧
    ((∃ e, parse text = .error e) ↔ ∀ v, ¬ IsWritten text.trim v) ∧
    ∀ (ks : List Nat) (mark : CodePoint) (tag : Option Text), ks ≠ [] →
      (∀ k ∈ ks, (Nat.toDigits 10 k).length ≤ 4300) → mark = .scalar '-' ∨ mark = .scalar '+' →
      (∀ t ∈ tag, t ≠ [] ∧ ∀ c ∈ t.getLast?, c.isBlank = false) →
      parse (render ks mark tag) = .ok ⟨ks.map Int.ofNat, tag⟩ := by
  refine ⟨fun v => parse_eq_ok_iff_trim, ?_, fun ks mark tag hne hks hmark htag => ?_⟩
  · simp only [← parse_eq_ok_iff_trim]
    cases parse text <;> simp
  · have hw := isWritten_render hne hks hmark fun t ht => (htag t ht).1
    rw [parse_eq_ok_iff_trim, hw.trim_eq fun t ht => (htag t ht).2]
    exact hw

/-- The candidate of a release as it is printed, and numbers in Arabic digits between blanks. -/
theorem parse_iff_written_candidate :
    parse (render [1, 4, 0] (.scalar '-') (some (Text.ofString "RC1"))) =
      .ok ⟨[1, 4, 0], some (Text.ofString "RC1")⟩ ∧
    IsWritten (Text.ofString " ١٢.٤\n").trim ⟨[12, 4], none⟩ := by
  obtain ⟨-, -, hprinted⟩ := parse_iff_written []
  obtain ⟨hread, -, -⟩ := parse_iff_written (Text.ofString " ١٢.٤\n")
  refine ⟨hprinted [1, 4, 0] _ _ (by simp) (by decide) (.inl rfl) ?_, (hread _).1 (by decide)⟩
  rintro _ ⟨⟩
  exact ⟨by decide, by decide⟩

end SbtWorkspace.Version
