import SbtWorkspace.Proofs.Properties.Written
import SbtWorkspace.Properties.Parser

/-! # Reading gives back what was written

Three passes scan the backslashes of a line, each in its own way: one looks for a line that goes on, one
for the end of the key, one resolves the escapes. Each is shown to go through a written text one code
point at a time, whatever the writer has chosen for it; the line ends are taken off before. -/

namespace SbtWorkspace.Properties

/-! ## Gaps, separators and digits -/

theorem isGap_iff {c : CodePoint} : isGap c = true ↔ c ∈ gaps := by
  simp [isGap, gaps, or_assoc]

theorem isGap_eq_false_iff {c : CodePoint} : isGap c = false ↔ c ∉ gaps := by
  rw [← isGap_iff, Bool.not_eq_true]

/-- What follows gaps is what is left when they are dropped, if it starts with none. -/
theorem dropWhile_gaps {t : Text} (ht : IsGaps t) (rest : Text) (hr : ∀ c ∈ rest.head?, c ∉ gaps) :
    (t ++ rest).dropWhile isGap = rest := by
  induction t with
  | nil =>
    cases rest with
    | nil => rfl
    | cons c rest =>
      have hc : isGap c = false := isGap_eq_false_iff.2 (hr c (by simp))
      simp [hc]
  | cons c t ih =>
    have hc : isGap c = true := isGap_iff.2 (ht c (by simp))
    simpa [hc] using ih fun c hm => ht c (by simp [hm])

def IsPlain (c : CodePoint) : Prop :=
  c ≠ '\\' ∧ isSeparator c = false ∧ isGap c = false ∧ c ≠ '\n' ∧ c ≠ '\r'

instance (c : CodePoint) : Decidable (IsPlain c) :=
  inferInstanceAs (Decidable (_ ∧ _ ∧ _ ∧ _ ∧ _))

theorem IsDigitOf.hexValue {d : Char} {v : Nat} (h : IsDigitOf d v) :
    hexValue? (.scalar d) = some v ∧ v < 16 := by
  have small : ∀ v < 16,
      "0123456789abcdef".toList[v]?.bind (fun d => hexValue? (.scalar d)) = some v := by decide
  have great : ∀ v < 16,
      "0123456789ABCDEF".toList[v]?.bind (fun d => hexValue? (.scalar d)) = some v := by decide
  rcases h with h | h
  · have hv : v < 16 := (List.getElem?_eq_some_iff.1 h).1
    have hd := small v hv
    rw [h] at hd
    exact ⟨hd, hv⟩
  · have hv : v < 16 := (List.getElem?_eq_some_iff.1 h).1
    have hd := great v hv
    rw [h] at hd
    exact ⟨hd, hv⟩

theorem IsDigitOf.isPlain {d : Char} {v : Nat} (h : IsDigitOf d v) : IsPlain (.scalar d) := by
  have small : "0123456789abcdef".toList.all (fun d => decide (IsPlain (.scalar d))) = true := by decide
  have great : "0123456789ABCDEF".toList.all (fun d => decide (IsPlain (.scalar d))) = true := by decide
  rcases h with h | h
  · exact of_decide_eq_true (List.all_eq_true.1 small d (List.mem_of_getElem? h))
  · exact of_decide_eq_true (List.all_eq_true.1 great d (List.mem_of_getElem? h))

theorem isPlain_of_notMem {c : CodePoint} (hs : c ∉ specials) (hl : c ∉ letters.map (·.1)) :
    IsPlain c := by
  simp only [specials, letters, List.map_cons, List.map_nil, List.mem_cons, List.not_mem_nil,
    or_false, not_or] at hs hl
  refine ⟨hs.1, ?_, ?_, hl.2.1, hl.2.2.1⟩
  · simp [isSeparator, hs]
  · simp [isGap, hs, hl]

/-! ## One code point, one pass after the other -/

/-- Whether a backslash at the end of a text waits for what follows; `waits` says so of what is before. -/
def leavesOpen (waits : Bool) : Text → Bool
  | [] => waits
  | c :: t => leavesOpen (c = '\\' && !waits) t

theorem leavesOpen_append (waits : Bool) (s t : Text) :
    leavesOpen waits (s ++ t) = leavesOpen (leavesOpen waits s) t := by
  induction s generalizing waits with
  | nil => rfl
  | cons c s ih => exact ih _

theorem endsOpen_concat (t : Text) (c : CodePoint) :
    endsOpen (t ++ [c]) = (c = '\\' && !endsOpen t) := by
  by_cases hc : c = .scalar '\\'
  · simp only [endsOpen, List.reverse_append, List.reverse_cons, List.reverse_nil, List.nil_append,
      List.singleton_append, hc, List.takeWhile_cons, decide_true, if_true, List.length_cons,
      Bool.true_and]
    rw [← decide_not, decide_eq_decide]
    omega
  · simp [endsOpen, hc]

/-- A line goes on if its last backslash waits. -/
theorem endsOpen_eq_leavesOpen (t : Text) : endsOpen t = leavesOpen false t := by
  rw [← t.reverse_reverse]
  induction t.reverse with
  | nil => rfl
  | cons c t ih =>
    rw [List.reverse_cons, endsOpen_concat, leavesOpen_append, ih]
    rfl

theorem leavesOpen_of_ne_backslash {s : Text} (hs : ∀ c ∈ s, c ≠ .scalar '\\') (t : Text) :
    leavesOpen false (s ++ t) = leavesOpen false t := by
  induction s with
  | nil => rfl
  | cons c s ih =>
    have hc : c ≠ .scalar '\\' := hs c (by simp)
    simpa [leavesOpen, hc] using ih fun c hm => hs c (by simp [hm])

theorem leavesOpen_of_isPlain {c : CodePoint} (hc : IsPlain c) (waits : Bool) (t : Text) :
    leavesOpen waits (c :: t) = leavesOpen false t := by
  simp [leavesOpen, hc.1]

theorem splitKey_of_isPlain {c : CodePoint} (hc : IsPlain c) (t : Text) :
    splitKey (c :: t) = (c :: (splitKey t).1, (splitKey t).2) := by
  rw [splitKey.eq_def]
  simp [hc.1, hc.2.1, hc.2.2.1]

theorem splitKey_pair (e : CodePoint) (t : Text) :
    splitKey (.scalar '\\' :: e :: t) = (.scalar '\\' :: e :: (splitKey t).1, (splitKey t).2) := by
  rw [splitKey]
  simp

theorem unescape?_of_isPlain {c : CodePoint} (hc : IsPlain c) (t : Text) :
    unescape? (c :: t) = (unescape? t).map (c :: ·) := by
  rw [unescape?.eq_def]
  simp [hc.1]

theorem unescape?_pair {e : CodePoint} (he : e ≠ .scalar 'u') (t : Text) :
    unescape? (.scalar '\\' :: e :: t) = (unescape? t).map (unescapeLetter e :: ·) := by
  rw [unescape?.eq_def]
  simp [he]

theorem unescape?_number {d₃ d₂ d₁ d₀ c : CodePoint} (h : hexUnit? d₃ d₂ d₁ d₀ = some c) (t : Text) :
    unescape? (.scalar '\\' :: .scalar 'u' :: d₃ :: d₂ :: d₁ :: d₀ :: t) =
      (unescape? t).map (c :: ·) := by
  rw [unescape?.eq_def]
  simp only [if_true, h]
  cases unescape? t <;> rfl

/-- The number that is written gives its code point back. -/
theorem hexUnit?_of_digits {c : CodePoint} {d₃ d₂ d₁ d₀ : Char} {v₃ v₂ v₁ v₀ : Nat}
    (h₃ : IsDigitOf d₃ v₃) (h₂ : IsDigitOf d₂ v₂) (h₁ : IsDigitOf d₁ v₁) (h₀ : IsDigitOf d₀ v₀)
    (hv : c.val = v₃ * 4096 + v₂ * 256 + v₁ * 16 + v₀) :
    hexUnit? (.scalar d₃) (.scalar d₂) (.scalar d₁) (.scalar d₀) = some c := by
  have hn : ((v₃ * 16 + v₂) * 16 + v₁) * 16 + v₀ = c.val := by omega
  simp [hexUnit?, h₃.hexValue.1, h₂.hexValue.1, h₁.hexValue.1, h₀.hexValue.1, hn, CodePoint.ofNat_val]

variable {c : CodePoint} {u : Text}

theorem WrittenPoint.leavesOpen (h : WrittenPoint c u) (t : Text) :
    leavesOpen false (u ++ t) = leavesOpen false t := by
  cases h with
  | plain hs hl => exact leavesOpen_of_isPlain (isPlain_of_notMem hs hl) false t
  | escaped _ => simp [Properties.leavesOpen]
  | letter _ => simp [Properties.leavesOpen]
  | number h₃ h₂ h₁ h₀ _ =>
    simp [Properties.leavesOpen, h₃.isPlain.1, h₂.isPlain.1, h₁.isPlain.1, h₀.isPlain.1]

theorem WrittenPoint.splitKey (h : WrittenPoint c u) (t : Text) :
    splitKey (u ++ t) = (u ++ (splitKey t).1, (splitKey t).2) := by
  cases h with
  | plain hs hl => exact splitKey_of_isPlain (isPlain_of_notMem hs hl) t
  | escaped _ => exact splitKey_pair _ t
  | letter _ => exact splitKey_pair _ t
  | number h₃ h₂ h₁ h₀ _ =>
    simp [splitKey_pair, splitKey_of_isPlain, h₃.isPlain, h₂.isPlain, h₁.isPlain, h₀.isPlain]

theorem WrittenPoint.unescape (h : WrittenPoint c u) (t : Text) :
    unescape? (u ++ t) = (unescape? t).map (c :: ·) := by
  cases h with
  | plain hs hl => exact unescape?_of_isPlain (isPlain_of_notMem hs hl) t
  | escaped hs =>
    have hc : ∀ c ∈ specials, c ≠ .scalar 'u' ∧ unescapeLetter c = c := by decide
    rw [List.cons_append, List.singleton_append, unescape?_pair (hc c hs).1, (hc c hs).2]
  | @letter l hl =>
    have hp : ∀ p ∈ letters, p.2 ≠ .scalar 'u' ∧ unescapeLetter p.2 = p.1 := by decide
    rw [List.cons_append, List.singleton_append, unescape?_pair (hp _ hl).1, (hp _ hl).2]
  | number h₃ h₂ h₁ h₀ hv => exact unescape?_number (hexUnit?_of_digits h₃ h₂ h₁ h₀ hv) t

/-- What is written for a code point starts like no gap, separator or comment, and holds no line end. -/
theorem WrittenPoint.shape (h : WrittenPoint c u) :
    (∃ x rest, u = x :: rest ∧ x ∉ gaps ∧ isSeparator x = false ∧ x ≠ '#' ∧ x ≠ '!') ∧
      .scalar '\n' ∉ u ∧ .scalar '\r' ∉ u := by
  have hb : CodePoint.scalar '\\' ∉ gaps ∧ isSeparator (.scalar '\\') = false ∧
      CodePoint.scalar '\\' ≠ '#' ∧ CodePoint.scalar '\\' ≠ '!' := by decide
  cases h with
  | plain hs hl =>
    have hp := isPlain_of_notMem hs hl
    refine ⟨⟨c, [], rfl, isGap_eq_false_iff.1 hp.2.2.1, hp.2.1, ?_, ?_⟩, ?_, ?_⟩
    · exact fun e => hs (by simp [e, specials])
    · exact fun e => hs (by simp [e, specials])
    · simpa using fun e => hp.2.2.2.1 e.symm
    · simpa using fun e => hp.2.2.2.2 e.symm
  | escaped hs =>
    have hc : ∀ c ∈ specials, c ≠ .scalar '\n' ∧ c ≠ .scalar '\r' := by decide
    refine ⟨⟨_, _, rfl, hb⟩, ?_, ?_⟩
    · simpa using fun e => (hc c hs).1 e.symm
    · simpa using fun e => (hc c hs).2 e.symm
  | @letter l hl =>
    have hp : ∀ p ∈ letters, p.2 ≠ .scalar '\n' ∧ p.2 ≠ .scalar '\r' := by decide
    refine ⟨⟨_, _, rfl, hb⟩, ?_, ?_⟩
    · simpa using fun e => (hp _ hl).1 e.symm
    · simpa using fun e => (hp _ hl).2 e.symm
  | number h₃ h₂ h₁ h₀ _ =>
    have hd : ∀ {d : Char} {v : Nat}, IsDigitOf d v → '\n' ≠ d ∧ '\r' ≠ d := by
      intro d v h
      exact ⟨fun e => h.isPlain.2.2.2.1 (by rw [e]), fun e => h.isPlain.2.2.2.2 (by rw [e])⟩
    refine ⟨⟨_, _, rfl, hb⟩, ?_, ?_⟩
    · simp [(hd h₃).1, (hd h₂).1, (hd h₁).1, (hd h₀).1]
    · simp [(hd h₃).2, (hd h₂).2, (hd h₁).2, (hd h₀).2]

/-! ## A key or a value -/

variable {t w : Text}

theorem WrittenText.leavesOpen (h : WrittenText t w) (rest : Text) :
    leavesOpen false (w ++ rest) = leavesOpen false rest := by
  induction h with
  | nil => rfl
  | cons hu _ ih => rw [List.append_assoc, hu.leavesOpen, ih]

/-- The key ends where it was written to end, if something follows that cannot be of it. -/
theorem WrittenText.splitKey (h : WrittenText t w) {rest : Text}
    (hr : splitKey rest = ([], rest)) : splitKey (w ++ rest) = (w, rest) := by
  induction h with
  | nil => exact hr
  | cons hu _ ih => rw [List.append_assoc, hu.splitKey, ih]

theorem WrittenText.unescape (h : WrittenText t w) : unescape w = .ok t := by
  have hw : unescape? w = some t := by
    induction h with
    | nil => rfl
    | cons hu _ ih => rw [hu.unescape, ih]; rfl
  simp [Properties.unescape, hw]

theorem WrittenText.notMem_lineEnd (h : WrittenText t w) :
    .scalar '\n' ∉ w ∧ .scalar '\r' ∉ w := by
  induction h with
  | nil => simp
  | cons hu _ ih => simp [hu.shape.2, ih]

/-- What is written starts like no gap, separator or comment. -/
theorem WrittenText.head (h : WrittenText t w) {x : CodePoint} (hx : x ∈ w.head?) :
    x ∉ gaps ∧ isSeparator x = false ∧ x ≠ '#' ∧ x ≠ '!' := by
  cases h with
  | nil => simp at hx
  | cons hu _ =>
    obtain ⟨⟨y, rest, rfl, hy⟩, _⟩ := hu.shape
    have hxy : y = x := by simpa using hx
    exact hxy ▸ hy

/-! ## What separates a key from its value -/

theorem isSeparator_iff {c : CodePoint} : isSeparator c = true ↔ c = '=' ∨ c = ':' := by
  simp [isSeparator]

theorem splitKey_of_boundary {c : CodePoint} (hc : isSeparator c = true ∨ isGap c = true) (t : Text) :
    splitKey (c :: t) = ([], c :: t) := by
  have hne : c ≠ .scalar '\\' := by
    rintro rfl
    exact absurd hc (by decide)
  rw [splitKey.eq_def]
  simp [hne, hc]

variable {key value separator writtenValue : Text}

theorem Separates.splitKey (h : Separates key value separator) (hv : WrittenText value writtenValue) :
    splitKey (separator ++ writtenValue) = ([], separator ++ writtenValue) := by
  cases h with
  | @marked before after mark hb hm _ =>
    cases before with
    | nil => exact splitKey_of_boundary (.inl (isSeparator_iff.2 hm)) _
    | cons c before => exact splitKey_of_boundary (.inr (isGap_iff.2 (hb c (by simp)))) _
  | unmarked hb _ hne =>
    cases separator with
    | nil =>
      have he : value = [] := Classical.byContradiction fun h => hne h rfl
      subst he
      cases hv
      rfl
    | cons c between => exact splitKey_of_boundary (.inr (isGap_iff.2 (hb c (by simp)))) _

theorem Separates.dropSeparator (h : Separates key value separator)
    (hv : WrittenText value writtenValue) :
    dropSeparator (separator ++ writtenValue) = writtenValue := by
  have hw : ∀ c ∈ writtenValue.head?, c ∉ gaps := fun c hc => (hv.head hc).1
  cases h with
  | @marked before after mark hb hm ha =>
    have hs : isSeparator mark = true := isSeparator_iff.2 hm
    have hg : mark ∉ gaps := by rcases hm with rfl | rfl <;> decide
    have hd : ((before ++ mark :: after) ++ writtenValue).dropWhile isGap =
        mark :: (after ++ writtenValue) := by
      rw [List.append_assoc]
      exact dropWhile_gaps hb _ (by simpa using hg)
    rw [Properties.dropSeparator, hd]
    simp only [hs, if_true]
    exact dropWhile_gaps ha _ hw
  | unmarked hb _ _ =>
    rw [Properties.dropSeparator, dropWhile_gaps hb _ hw]
    cases writtenValue with
    | nil => rfl
    | cons c rest => simp [(hv.head (x := c) rfl).2.1]

theorem Separates.ne_backslash (h : Separates key value separator) {c : CodePoint}
    (hc : c ∈ separator) : c ≠ '\\' ∧ c ≠ '\n' ∧ c ≠ '\r' := by
  have hg : ∀ c ∈ gaps, c ≠ .scalar '\\' ∧ c ≠ .scalar '\n' ∧ c ≠ .scalar '\r' := by decide
  cases h with
  | marked hb hm ha =>
    rcases List.mem_append.1 hc with hc | hc
    · exact hg c (hb c hc)
    · rcases List.mem_cons.1 hc with rfl | hc
      · rcases hm with rfl | rfl <;> decide
      · exact hg c (ha c hc)
  | unmarked hb _ _ => exact hg c (hb c hc)

/-! ## One line -/

/-- An entry in a line from which the gaps at its start are taken off: with them goes what stands before
the mark of an empty key. -/
theorem entry_dropWhile {indent writtenKey : Text} (hi : IsGaps indent) (hk : WrittenText key writtenKey)
    (hs : Separates key value separator) :
    ∃ between, Separates key value between ∧
      (indent ++ writtenKey ++ separator ++ writtenValue).dropWhile isGap =
        writtenKey ++ (between ++ writtenValue) ∧
      isIgnored (writtenKey ++ (between ++ writtenValue)) = false := by
  cases hk with
  | nil =>
    cases hs with
    | unmarked _ hne _ => exact absurd rfl hne
    | @marked before after mark hb hm ha =>
      refine ⟨[] ++ mark :: after, .marked (by simp [IsGaps]) hm ha, ?_, ?_⟩
      · have hib : IsGaps (indent ++ before) := by
          intro c hc
          exact (List.mem_append.1 hc).elim (hi c) (hb c)
        have hg : mark ∉ gaps := by rcases hm with rfl | rfl <;> decide
        have hd := dropWhile_gaps hib (mark :: (after ++ writtenValue)) (by simpa using hg)
        simpa using hd
      · rcases hm with rfl | rfl <;> simp [isIgnored]
  | @cons c t u w hu hw =>
    have hkey : WrittenText (c :: t) (u ++ w) := .cons hu hw
    obtain ⟨⟨x, rest, rfl, hx⟩, _⟩ := hu.shape
    refine ⟨separator, hs, ?_, by simp [isIgnored, hx.2.2]⟩
    have hd := dropWhile_gaps hi ((x :: rest ++ w) ++ (separator ++ writtenValue))
      (by simpa using hx.1)
    simpa using hd

theorem parseEntry_written {writtenKey : Text} (hk : WrittenText key writtenKey)
    (hs : Separates key value separator) (hv : WrittenText value writtenValue) :
    parseEntry (writtenKey ++ (separator ++ writtenValue)) = .ok (key, value) := by
  have he : splitEntry (writtenKey ++ (separator ++ writtenValue)) = (writtenKey, writtenValue) := by
    simp only [splitEntry, hk.splitKey (hs.splitKey hv), hs.dropSeparator hv]
  simp [parseEntry, he, hk.unescape, hv.unescape, bind, Except.bind, pure, Except.pure]

theorem endsOpen_written {writtenKey : Text} (hk : WrittenText key writtenKey)
    (hs : Separates key value separator) (hv : WrittenText value writtenValue) :
    endsOpen (writtenKey ++ (separator ++ writtenValue)) = false := by
  rw [endsOpen_eq_leavesOpen, hk.leavesOpen,
    leavesOpen_of_ne_backslash fun c hc => (hs.ne_backslash hc).1, ← writtenValue.append_nil,
    hv.leavesOpen]
  rfl

theorem joinLines_of_ignored {raw body : Text} (hd : raw.dropWhile isGap = body)
    (hn : isIgnored body = true) (rest : List Text) :
    joinLines none (raw :: rest) = joinLines none rest := by
  simp [joinLines, hd, hn]

theorem joinLines_of_closed {raw body : Text} (hd : raw.dropWhile isGap = body)
    (hn : isIgnored body = false) (ho : endsOpen body = false) (rest : List Text) :
    joinLines none (raw :: rest) = body :: joinLines none rest := by
  simp [joinLines, hd, hn, ho]

variable {es : List (Text × Text)} {line : Text}

/-- A line adds what it holds to the logical lines, and no more. -/
theorem WrittenLine.joinLines (h : WrittenLine es line) :
    ∃ bodies, bodies.mapM parseEntry = .ok es ∧
      ∀ rest, joinLines none (line :: rest) = bodies ++ joinLines none rest := by
  cases h with
  | @entry _ _ writtenKey _ _ writtenValue hi hk hs hv =>
    obtain ⟨between, hb, hd, hn⟩ := entry_dropWhile hi hk hs
    refine ⟨[writtenKey ++ (between ++ writtenValue)], ?_, fun rest => ?_⟩
    · rw [List.mapM_cons, parseEntry_written hk hb hv]
      rfl
    · exact joinLines_of_closed hd hn (endsOpen_written hk hb hv) rest
  | blank hi =>
    have hd : line.dropWhile isGap = [] := by
      simpa using dropWhile_gaps hi [] (by simp)
    exact ⟨[], rfl, joinLines_of_ignored hd rfl⟩
  | @comment indent more mark hi hm _ _ =>
    have hg : mark ∉ gaps := by rcases hm with rfl | rfl <;> decide
    have hd : (indent ++ mark :: more).dropWhile isGap = mark :: more :=
      dropWhile_gaps hi _ (by simpa using hg)
    have hn : isIgnored (mark :: more) = true := by
      rcases hm with rfl | rfl <;> simp [isIgnored]
    exact ⟨[], rfl, joinLines_of_ignored hd hn⟩

theorem WrittenLine.notMem_lineEnd (h : WrittenLine es line) :
    .scalar '\n' ∉ line ∧ .scalar '\r' ∉ line := by
  have hg : ∀ t, IsGaps t → .scalar '\n' ∉ t ∧ .scalar '\r' ∉ t := by
    intro t ht
    exact ⟨fun h => absurd (ht _ h) (by decide), fun h => absurd (ht _ h) (by decide)⟩
  cases h with
  | @entry _ _ _ separator _ _ hi hk hs hv =>
    have hsn : .scalar '\n' ∉ separator ∧ .scalar '\r' ∉ separator :=
      ⟨fun h => (hs.ne_backslash h).2.1 rfl, fun h => (hs.ne_backslash h).2.2 rfl⟩
    simp [hg _ hi, hk.notMem_lineEnd, hsn, hv.notMem_lineEnd]
  | blank hi => exact hg _ hi
  | comment hi hm hn hr =>
    rcases hm with rfl | rfl <;> simp [hg _ hi, hn, hr]

/-! ## All lines -/

/-- The line feed of a line end that was cut after its carriage return makes one more line, and a blank
one. -/
theorem joinLines_lines_feed (rest : Text) :
    joinLines none (Line.lines (.scalar '\n') (.scalar '\r') (.scalar '\n' :: rest)) =
      joinLines none (Line.lines (.scalar '\n') (.scalar '\r') rest) := by
  have h := @Line.lines_append_feed CodePoint _ (.scalar '\n') (.scalar '\r') [] (by simp) (by simp)
    (by decide) rest
  rw [List.nil_append] at h
  rw [h]
  exact @joinLines_of_ignored [] [] rfl rfl _

theorem logicalLines_append {ending : Text} (hl : .scalar '\n' ∉ line ∧ .scalar '\r' ∉ line)
    (he : ending ∈ lineEnds) (rest : Text) :
    ∃ more, logicalLines (line ++ ending ++ rest) = joinLines none (line :: more) ∧
      joinLines none more = logicalLines rest := by
  have hne : CodePoint.scalar '\n' ≠ .scalar '\r' := by decide
  obtain ⟨hn, hr⟩ := hl
  simp only [lineEnds, List.mem_cons, List.not_mem_nil, or_false] at he
  unfold logicalLines
  rcases he with rfl | rfl | rfl
  · rw [List.append_assoc, List.singleton_append, Line.lines_append_feed hn hr hne]
    exact ⟨_, rfl, rfl⟩
  · rw [List.append_assoc, List.cons_append, List.singleton_append,
      Line.lines_append_return_feed hn hr hne]
    exact ⟨_, rfl, rfl⟩
  · rw [List.append_assoc, List.singleton_append]
    by_cases hh : rest.head? = some (.scalar '\n')
    · cases rest with
      | nil => simp at hh
      | cons c rest =>
        have hc : c = .scalar '\n' := by simpa using hh
        subst hc
        rw [Line.lines_append_return_feed hn hr hne]
        exact ⟨_, rfl, (joinLines_lines_feed rest).symm⟩
    · rw [Line.lines_append_return hn hr hh]
      exact ⟨_, rfl, rfl⟩

/-- The entries of a written text are those that were written, in their order. -/
theorem Written.entries_eq {text : Text} (h : Written es text) : entries text = .ok es := by
  induction h with
  | last hl =>
    obtain ⟨bodies, hb, hj⟩ := hl.joinLines
    obtain ⟨hn, hr⟩ := hl.notMem_lineEnd
    rw [entries, logicalLines, Line.lines_of_notMem hn hr, hj, joinLines, List.append_nil, hb]
  | @line es more line ending rest hl he _ ih =>
    obtain ⟨bodies, hb, hj⟩ := hl.joinLines
    obtain ⟨tail, ht, hm⟩ := logicalLines_append hl.notMem_lineEnd he rest
    rw [entries] at ih
    rw [entries, ht, hj, hm, List.mapM_append, hb, ih]
    rfl

/-! ## The last value of a key -/

theorem lastValue_cons_iff {e : Text × Text} {value : Text} :
    LastValue (e :: es) key value ↔
      LastValue es key value ∨ (e = (key, value) ∧ ∀ l ∈ es, l.1 ≠ key) := by
  constructor
  · rintro ⟨before, after, he, ha⟩
    cases before with
    | nil =>
      injection he with h₁ h₂
      exact .inr ⟨h₁, h₂ ▸ ha⟩
    | cons b before =>
      injection he with h₁ h₂
      exact .inl ⟨before, after, h₂, ha⟩
  · rintro (⟨before, after, rfl, ha⟩ | ⟨rfl, ha⟩)
    · exact ⟨e :: before, after, rfl, ha⟩
    · exact ⟨[], es, rfl, ha⟩

theorem valueOf_cons (e : Text × Text) (es : List (Text × Text)) (key : Text) :
    valueOf (e :: es) key = (valueOf es key).or (if e.1 = key then some e.2 else none) := by
  have h := valueOf_append [e] es key
  rw [List.singleton_append] at h
  rw [h]
  congr 1
  by_cases he : e.1 = key <;> simp [valueOf, he]

theorem valueOf_eq_none_iff : valueOf es key = none ↔ ∀ e ∈ es, e.1 ≠ key := by
  simp [valueOf]

theorem valueOf_eq_some_iff {value : Text} : valueOf es key = some value ↔ LastValue es key value := by
  induction es with
  | nil => simp [LastValue]
  | cons e es ih =>
    rw [lastValue_cons_iff, ← ih, ← valueOf_eq_none_iff, valueOf_cons]
    cases hv : valueOf es key with
    | some v => simp
    | none =>
      obtain ⟨k, v⟩ := e
      by_cases hk : k = key <;> simp [hk]

theorem effective_cons (e : Text × Text) (es : List (Text × Text)) :
    effective (e :: es) =
      if (effective es).any fun l => l.1 = e.1 then effective es else e :: effective es := rfl

/-- The entries that count are the last ones of their keys. -/
theorem mem_effective_iff {value : Text} : (key, value) ∈ effective es ↔ LastValue es key value := by
  induction es generalizing key value with
  | nil => simp [effective, LastValue]
  | cons e es ih =>
    -- a key counts among the later entries if and only if it has one there
    have hany : (effective es).any (fun l => l.1 = e.1) = true ↔ ¬ ∀ l ∈ es, l.1 ≠ e.1 := by
      rw [← valueOf_eq_none_iff, ← ne_eq, Option.ne_none_iff_exists']
      simp only [List.any_eq_true, decide_eq_true_eq, valueOf_eq_some_iff, ← ih]
      constructor
      · rintro ⟨l, hl, he⟩
        exact ⟨l.2, he ▸ hl⟩
      · rintro ⟨v, hv⟩
        exact ⟨_, hv, rfl⟩
    rw [effective_cons, lastValue_cons_iff]
    split
    · rename_i h
      have hno : ¬ (e = (key, value) ∧ ∀ l ∈ es, l.1 ≠ key) := by
        rintro ⟨rfl, ha⟩
        exact hany.1 h ha
      rw [ih, or_iff_left hno]
    · rename_i h
      have hall : ∀ l ∈ es, l.1 ≠ e.1 := Classical.byContradiction fun hn => h (hany.2 hn)
      rw [List.mem_cons, ih, or_comm]
      refine or_congr_right ⟨fun he => ?_, fun he => he.1.symm⟩
      subst he
      exact ⟨rfl, hall⟩

theorem nodup_effective (es : List (Text × Text)) : ((effective es).map (·.1)).Nodup := by
  induction es with
  | nil => exact List.nodup_nil
  | cons e es ih =>
    rw [effective_cons]
    split
    · exact ih
    · rename_i h
      refine List.nodup_cons.2 ⟨?_, ih⟩
      simpa using h

/-- The table holds each key once, with its last value. -/
theorem table_spec (es : List (Text × Text)) :
    ((table es).map (·.1)).Nodup ∧
      ∀ key value, (key, value) ∈ table es ↔ LastValue es key value := by
  have hp : (table es).Perm (effective es) := List.mergeSort_perm _ _
  exact ⟨(hp.map _).nodup_iff.2 (nodup_effective es), fun key value => by
    rw [hp.mem_iff, mem_effective_iff]⟩

/-- Reading a written text succeeds, with the entries that were written in their order; so every key
that was written, and no other, has the value of its last entry. -/
theorem read_written {text : Text} (h : Written es text) :
    entries text = .ok es ∧
      ∃ props, (entries text).map table = .ok props ∧ (props.map (·.1)).Nodup ∧
        (∀ key value, (key, value) ∈ props ↔ LastValue es key value) ∧
        ∀ key value, find text key = .ok (some value) ↔ LastValue es key value := by
  have he := h.entries_eq
  obtain ⟨hn, hm⟩ := table_spec es
  refine ⟨he, table es, by rw [he]; rfl, hn, hm, fun key value => ?_⟩
  rw [← valueOf_eq_some_iff, find, he]
  simp [Except.map]

/-- A comment that ends in a backslash, a key that starts like a comment and is written in two ways, a
value that is a backslash, an empty entry, and all three line ends. -/
theorem read_written_mixed :
    Written [("#", "\\"), ("", ""), ("#", "\t")] "#x\\\r\n \\#=\\\\\r:\n\\u0023\t\\t" ∧
      entries "#x\\\r\n \\#=\\\\\r:\n\\u0023\t\\t" = .ok [("#", "\\"), ("", ""), ("#", "\t")] ∧
      find "#x\\\r\n \\#=\\\\\r:\n\\u0023\t\\t" "#" = .ok (some "\t") := by
  have noGap : IsGaps [] := by simp [IsGaps]
  have space : IsGaps [.scalar ' '] := by simp [IsGaps, gaps]
  have tab : IsGaps [.scalar '\t'] := by simp [IsGaps, gaps]
  have feed : [.scalar '\n'] ∈ lineEnds := by decide
  have carriage : [.scalar '\r'] ∈ lineEnds := by decide
  have both : [.scalar '\r', .scalar '\n'] ∈ lineEnds := by decide
  have hash : WrittenText "#" "\\#" := .cons (.escaped (by decide)) .nil
  have number : WrittenText "#" "\\u0023" :=
    .cons (@WrittenPoint.number _ '0' '0' '2' '3' 0 0 2 3 (.inl rfl) (.inl rfl) (.inl rfl) (.inl rfl)
      (by decide)) .nil
  have backslash : WrittenText "\\" "\\\\" := .cons (.escaped (by decide)) .nil
  have letter : WrittenText "\t" "\\t" := .cons (.letter (by decide)) .nil
  have comment : WrittenLine [] "#x\\" := .comment noGap (.inl rfl) (by decide) (by decide)
  have first : WrittenLine [("#", "\\")] " \\#=\\\\" :=
    .entry space hash (.marked noGap (.inl rfl) noGap) backslash
  have second : WrittenLine [("", "")] ":" := .entry noGap .nil (.marked noGap (.inr rfl) noGap) .nil
  have third : WrittenLine [("#", "\t")] "\\u0023\t\\t" :=
    .entry noGap number (.unmarked tab (by decide) (by decide)) letter
  have h : Written [("#", "\\"), ("", ""), ("#", "\t")] "#x\\\r\n \\#=\\\\\r:\n\\u0023\t\\t" :=
    .line comment both (.line first carriage (.line second feed (.last third)))
  obtain ⟨he, _, _, _, _, hf⟩ := read_written h
  exact ⟨h, he, (hf "#" "\t").2 ⟨[("#", "\\"), ("", "")], [], rfl, by simp⟩⟩

end SbtWorkspace.Properties
