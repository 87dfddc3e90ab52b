import SbtWorkspace.Layout
import SbtWorkspace.Proofs.Version.Grammar

/-! The line of releases that a version belongs to, as it is read and as the place of global plugins has it. The
place is found by the first four characters of the text, the version by its numerals, with blanks before them and
in any script. Main statement: `globalPlugins_iff_line`, by which the two agree on every version but those that
`IsMisfiled` describes: more digits follow the four characters, or the line 0.13 is spelled in another way. -/

namespace SbtWorkspace.Version

variable {α : Type} {text t lead lead' first first' second second' rest : Text} {n n' m m' : Int} {v w : Version}

/-! ## How a text opens -/

/-- A text opens with two numerals and a point between them, behind blanks. The second one is whole. -/
structure Opens (text lead first second : Text) (n m : Int) : Prop where
  blank : ∀ c ∈ lead, c.isBlank = true
  isNumeral_first : IsNumeral first n
  isNumeral_second : IsNumeral second m
  exists_rest : ∃ rest, text = lead ++ (first ++ .scalar '.' :: (second ++ rest)) ∧
    ∀ c ∈ rest.head?, c.decimal? = none

theorem takeWhile_append_of_stops {p : α → Bool} {l r : List α} (hl : ∀ x ∈ l, p x = true)
    (hr : ∀ x ∈ r.head?, p x = false) : (l ++ r).takeWhile p = l := by
  rw [List.takeWhile_append_of_pos hl]
  cases r with
  | nil => rw [List.takeWhile_nil, List.append_nil]
  | cons x r => rw [List.takeWhile_cons_of_neg (by simp [hr x rfl]), List.append_nil]

/-- Two ways to cut a list where members with a property end are the same. -/
theorem append_inj_of_stops {p : α → Bool} {l l' r r' : List α} (h : l ++ r = l' ++ r')
    (hl : ∀ x ∈ l, p x = true) (hr : ∀ x ∈ r.head?, p x = false) (hl' : ∀ x ∈ l', p x = true)
    (hr' : ∀ x ∈ r'.head?, p x = false) : l = l' ∧ r = r' := by
  have heq : l = l' := by
    rw [← takeWhile_append_of_stops hl hr, h, takeWhile_append_of_stops hl' hr']
  exact ⟨heq, List.append_cancel_left (heq ▸ h)⟩

theorem IsNumeral.isBlank_head? (h : IsNumeral t n) : ∀ c ∈ (t ++ rest).head?, c.isBlank = false := by
  intro c hc
  rw [List.head?_append_of_ne_nil _ h.ne_nil] at hc
  obtain ⟨d, hd⟩ := h.exists_decimal? (List.mem_of_mem_head? hc)
  exact isBlank_of_decimal? hd

theorem IsNumeral.isSome_decimal? (h : IsNumeral t n) : ∀ c ∈ t, c.decimal?.isSome = true := by
  intro c hc
  obtain ⟨d, hd⟩ := h.exists_decimal? hc
  rw [hd]
  rfl

theorem IsNumeral.unique (h : IsNumeral t n) (h' : IsNumeral t n') : n = n' := by
  obtain ⟨digits, hd, rfl⟩ := h.value
  obtain ⟨digits', hd', rfl⟩ := h'.value
  rw [List.map_injective_iff.2 (Option.some_injective _) (hd.symm.trans hd')]

theorem Opens.unique (h : Opens text lead first second n m) (h' : Opens text lead' first' second' n' m') :
    lead = lead' ∧ first = first' ∧ second = second' := by
  obtain ⟨rest, rfl, hrest⟩ := h.exists_rest
  obtain ⟨rest', htext, hrest'⟩ := h'.exists_rest
  have hnone {rest : Text} (hrest : ∀ c ∈ rest.head?, c.decimal? = none) :
      ∀ c ∈ rest.head?, c.decimal?.isSome = false := fun c hc => by rw [hrest c hc]; rfl
  have hpoint {rest : Text} : ∀ c ∈ (CodePoint.scalar '.' :: rest).head?, c.decimal?.isSome = false := by
    rintro c ⟨⟩
    rfl
  obtain ⟨rfl, hopen⟩ := append_inj_of_stops htext h.blank h.isNumeral_first.isBlank_head?
    h'.blank h'.isNumeral_first.isBlank_head?
  obtain ⟨rfl, hafter⟩ := append_inj_of_stops hopen h.isNumeral_first.isSome_decimal? hpoint
    h'.isNumeral_first.isSome_decimal? hpoint
  obtain ⟨rfl, -⟩ := append_inj_of_stops (List.cons.inj hafter).2 h.isNumeral_second.isSome_decimal?
    (hnone hrest) h'.isNumeral_second.isSome_decimal? (hnone hrest')
  exact ⟨rfl, rfl, rfl⟩

/-! ## Versions that are read -/

/-- A version stands between blanks, and its numbers end where no digit and no point follows. -/
theorem exists_numerals_of_parse (h : parse text = .ok v) :
    ∃ lead numbers rest, text = lead ++ (numbers ++ rest) ∧ (∀ c ∈ lead, c.isBlank = true) ∧
      AreNumerals numbers v.components ∧ ∀ c ∈ rest.head?, c.decimal? = none ∧ c ≠ .scalar '.' := by
  obtain ⟨lead, trail, htext, hlead, htrail⟩ := exists_eq_trimWhile CodePoint.isBlank text
  have hw := parse_eq_ok_iff_trim.1 h
  rw [Text.trim] at hw
  generalize trimWhile CodePoint.isBlank text = written at htext hw
  cases hw with
  | bare hn =>
    refine ⟨lead, written, trail, by rw [htext, List.append_assoc], hlead, hn, fun c hc => ?_⟩
    have hblank := htrail c (List.mem_of_mem_head? hc)
    refine ⟨Option.eq_none_iff_forall_ne_some.2 fun d hd => ?_, ?_⟩
    · rw [isBlank_of_decimal? hd] at hblank
      cases hblank
    · rintro rfl
      cases hblank
  | @tagged numbers tag ns mark hn hmark =>
    refine ⟨lead, numbers, mark :: tag ++ trail, by simp [htext], hlead, hn, ?_⟩
    rintro c ⟨⟩
    obtain rfl | rfl := hmark <;> exact ⟨rfl, by decide⟩

theorem AreNumerals.exists_opens {numbers : Text} {ns : List Int} (hn : AreNumerals numbers (n :: m :: ns))
    (hlead : ∀ c ∈ lead, c.isBlank = true) (hrest : ∀ c ∈ rest.head?, c.decimal? = none) :
    ∃ first second, Opens (lead ++ (numbers ++ rest)) lead first second n m := by
  cases hn with
  | @cons first numbers _ _ hfirst hn =>
    refine ⟨first, ?_⟩
    cases hn with
    | single hsecond => exact ⟨numbers, hlead, hfirst, hsecond, rest, by simp, hrest⟩
    | @cons second more _ _ hsecond hn =>
      refine ⟨second, hlead, hfirst, hsecond, .scalar '.' :: more ++ rest, by simp, ?_⟩
      rintro c ⟨⟩
      rfl

/-- The first two numbers of a version are those that its text opens with. -/
theorem prefix_components_iff_opens (h : parse text = .ok v) :
    [n, m] <+: v.components ↔ ∃ lead first second, Opens text lead first second n m := by
  obtain ⟨lead, numbers, rest, rfl, hlead, hn, hrest⟩ := exists_numerals_of_parse h
  constructor
  · rintro ⟨ns, hns⟩
    rw [← hns] at hn
    exact ⟨lead, hn.exists_opens hlead fun c hc => (hrest c hc).1⟩
  · rintro ⟨lead', first', second', ho⟩
    generalize v.components = ns at hn
    cases hn with
    | @single first n' hfirst =>
      -- no point follows a number that is alone
      obtain ⟨rest', htext, -⟩ := ho.exists_rest
      obtain ⟨rfl, hopen⟩ := append_inj_of_stops htext hlead hfirst.isBlank_head? ho.blank
        ho.isNumeral_first.isBlank_head?
      obtain ⟨-, rfl⟩ := append_inj_of_stops hopen hfirst.isSome_decimal? (fun c hc => by simp [hrest c hc])
        ho.isNumeral_first.isSome_decimal? (by rintro c ⟨⟩; rfl)
      exact absurd rfl (hrest _ rfl).2
    | @cons first numbers n' ns hfirst hn =>
      obtain ⟨m', ns, rfl⟩ : ∃ m' more, ns = m' :: more := by cases hn <;> exact ⟨_, _, rfl⟩
      obtain ⟨_, _, ho'⟩ := (AreNumerals.cons hfirst hn).exists_opens hlead fun c hc => (hrest c hc).1
      obtain ⟨rfl, rfl, rfl⟩ := ho.unique ho'
      rw [ho.isNumeral_first.unique ho'.isNumeral_first, ho.isNumeral_second.unique ho'.isNumeral_second]
      exact ⟨ns, rfl⟩

/-! ## The place of a line -/

def lineStart : Text := Text.ofString "0.13"

/-- Versions whose text and whose numbers are not of the same line. -/
inductive IsMisfiled : Text → Prop
  | longer {d : CodePoint} {k : Nat} {rest : Text} : d.decimal? = some k → IsMisfiled (lineStart ++ d :: rest)
  | respelled {text lead first second : Text} : Opens text lead first second 0 13 →
    lead ≠ [] ∨ first ≠ Text.ofString "0" ∨ second ≠ Text.ofString "13" → IsMisfiled text

/-- More digits make another number, unless it is zero. -/
theorem IsNumeral.eq_nil_of_append (h : IsNumeral t n) (h' : IsNumeral (t ++ rest) n) (hn : n ≠ 0) : rest = [] := by
  obtain ⟨digits, hd, rfl⟩ := h.value
  obtain ⟨digits', hd', hv⟩ := h'.value
  rw [List.map_append] at hd'
  obtain ⟨before, after, rfl, hbefore, hafter⟩ := List.map_eq_append_iff.1 hd'.symm
  obtain rfl : before = digits :=
    List.map_injective_iff.2 (Option.some_injective _) (hbefore.trans hd)
  by_contra hne
  have hpos : 0 < Nat.ofDigits 10 before.reverse := by omega
  have hpow : 10 ≤ 10 ^ after.reverse.length := by
    refine Nat.le_self_pow ?_ 10
    rw [List.length_reverse, ← List.length_map (f := some), hafter, List.length_map]
    exact fun hz => hne (List.eq_nil_of_length_eq_zero hz)
  rw [List.reverse_append, Nat.ofDigits_append] at hv
  have hle := Nat.mul_le_mul_right (Nat.ofDigits 10 before.reverse) hpow
  omega

theorem isNumeral_zero : IsNumeral (Text.ofString "0") 0 := ⟨by decide, by decide, [0], rfl, rfl⟩

theorem isNumeral_thirteen : IsNumeral (Text.ofString "13") 13 := ⟨by decide, by decide, [1, 3], rfl, rfl⟩

/-- A text that starts with the four characters opens with them. -/
theorem lineStart_prefix_iff (h : Opens text lead first second n m) :
    lineStart <+: text ↔ lead = [] ∧ first = Text.ofString "0" ∧ Text.ofString "13" <+: second := by
  obtain ⟨rest, rfl, hrest⟩ := h.exists_rest
  constructor
  · rintro ⟨more, htext⟩
    obtain ⟨hlead, hopen⟩ := append_inj_of_stops (l := []) htext (by simp) (by rintro c ⟨⟩; decide)
      h.blank h.isNumeral_first.isBlank_head?
    obtain ⟨hfirst, hafter⟩ := append_inj_of_stops (l := Text.ofString "0") hopen (by decide)
      (by rintro c ⟨⟩; rfl) h.isNumeral_first.isSome_decimal? (by rintro c ⟨⟩; rfl)
    have hsecond := takeWhile_append_of_stops h.isNumeral_second.isSome_decimal?
      (fun c hc => by rw [hrest c hc]; rfl)
    rw [← (List.cons.inj hafter).2] at hsecond
    exact ⟨hlead.symm, hfirst.symm, more.takeWhile fun c => c.decimal?.isSome, hsecond⟩
  · rintro ⟨rfl, rfl, more, rfl⟩
    exact ⟨more ++ rest, by simp [lineStart, Text.ofString]⟩

theorem Opens.eq_of_lineStart (h : Opens text lead first second 0 13) (hp : lineStart <+: text) :
    lead = [] ∧ first = Text.ofString "0" ∧ second = Text.ofString "13" := by
  obtain ⟨hlead, hfirst, more, rfl⟩ := (lineStart_prefix_iff h).1 hp
  rw [isNumeral_thirteen.eq_nil_of_append h.isNumeral_second (by decide), List.append_nil]
  exact ⟨hlead, hfirst, rfl⟩

/-- A version is misfiled just when its text and its numbers disagree. -/
theorem isMisfiled_iff (h : parse text = .ok v) :
    IsMisfiled text ↔ ¬ (lineStart <+: text ↔ [0, 13] <+: v.components) := by
  constructor
  · intro hm hagree
    cases hm with
    | @longer d k rest hd =>
      obtain ⟨lead, first, second, ho⟩ := (prefix_components_iff_opens h).1 (hagree.1 (List.prefix_append ..))
      obtain ⟨rfl, rfl, rfl⟩ := ho.eq_of_lineStart (List.prefix_append ..)
      obtain ⟨rest', htext, hrest'⟩ := ho.exists_rest
      have htext : lineStart ++ d :: rest = lineStart ++ rest' := htext
      obtain rfl := List.append_cancel_left htext
      rw [hrest' d rfl] at hd
      cases hd
    | respelled ho hother =>
      obtain ⟨hlead, hfirst, hsecond⟩ :=
        ho.eq_of_lineStart (hagree.2 ((prefix_components_iff_opens h).2 ⟨_, _, _, ho⟩))
      obtain hne | hne | hne := hother
      · exact hne hlead
      · exact hne hfirst
      · exact hne hsecond
  · intro hdiffer
    by_cases hp : lineStart <+: text
    · by_contra hm
      refine hdiffer (iff_of_true hp ((prefix_components_iff_opens h).2
        ⟨[], Text.ofString "0", Text.ofString "13", ?_⟩))
      obtain ⟨rest, rfl⟩ := hp
      refine ⟨by simp, isNumeral_zero, isNumeral_thirteen, rest, rfl, fun d hd => ?_⟩
      obtain ⟨rest, rfl⟩ := List.head?_eq_some_iff.1 hd
      exact Option.eq_none_iff_forall_ne_some.2 fun k hk => hm (.longer hk)
    · have hcomponents : [0, 13] <+: v.components := by
        by_contra hc
        exact hdiffer (iff_of_false hp hc)
      obtain ⟨lead, first, second, ho⟩ := (prefix_components_iff_opens h).1 hcomponents
      refine .respelled ho ?_
      by_contra hsame
      simp only [not_or, not_not] at hsame
      obtain ⟨rfl, rfl, rfl⟩ := hsame
      exact hp ((lineStart_prefix_iff ho).2 ⟨rfl, rfl, List.prefix_rfl⟩)

theorem places_ne (home : Path) : home / ".sbt" / "1.0" / "plugins" ≠ home / ".sbt" / "0.13" / "plugins" := by
  intro h
  have hnames := congrArg (fun p => p.render.toList) h
  rw [Path.render_div _ (by decide), Path.render_div _ (by decide), Path.stem_div (_ / ".sbt") (by decide),
    Path.stem_div (_ / ".sbt") (by decide)] at hnames
  simp at hnames

theorem globalPlugins_eq_iff (home : Path) :
    Layout.globalPlugins text home = home / ".sbt" / "0.13" / "plugins" ↔ lineStart <+: text := by
  unfold Layout.globalPlugins
  rw [← List.isPrefixOf_iff_prefix, ← lineStart]
  cases lineStart.isPrefixOf text with
  | true => simp
  | false => simpa using places_ne home

theorem globalPlugins_eq_globalPlugins_iff {home : Path} {other : Text} :
    Layout.globalPlugins text home = Layout.globalPlugins other home ↔
      (lineStart <+: text ↔ lineStart <+: other) := by
  rw [← globalPlugins_eq_iff home, ← globalPlugins_eq_iff home]
  unfold Layout.globalPlugins
  cases (Text.ofString "0.13").isPrefixOf text <;> cases (Text.ofString "0.13").isPrefixOf other <;>
    simp [places_ne home, (places_ne home).symm]

/-- Zeros at the end do not matter to how a list of numbers starts, if what it starts with does not end in one. -/
theorem prefix_dropTrailingZeros_iff {ns : List Int} (ms : List Int) (h : dropTrailingZeros ns = ns) :
    ns <+: ms ↔ ns <+: dropTrailingZeros ms := by
  induction ns generalizing ms with
  | nil => simp
  | cons n ns ih =>
    have hn : ¬ (n = 0 ∧ dropTrailingZeros ns = []) ∧ dropTrailingZeros ns = ns := by
      rw [dropTrailingZeros] at h
      split at h
      · cases h
      · exact ⟨‹_›, (List.cons.inj h).2⟩
    cases ms with
    | nil => rfl
    | cons m ms =>
      rw [List.cons_prefix_cons, ih ms hn.2, dropTrailingZeros]
      split
      · rename_i hm
        refine iff_of_false ?_ (by simp)
        rintro ⟨rfl, hp⟩
        rw [hm.2, List.prefix_nil] at hp
        exact hn.1 ⟨hm.1, by rw [hp]; rfl⟩
      · rw [List.cons_prefix_cons]

theorem prefix_components_of_same (h : v.same w = true) : [0, 13] <+: v.components ↔ [0, 13] <+: w.components := by
  have hkey := (order_eq_eq_iff_key v w).1 (of_decide_eq_true h)
  have hnormal : dropTrailingZeros [0, 13] = [0, 13] := by decide
  rw [prefix_dropTrailingZeros_iff v.components hnormal, prefix_dropTrailingZeros_iff w.components hnormal,
    (Prod.mk.inj hkey).1]

/-- Global plugins have their place by the line of the version just for versions that are not misfiled, and texts of
equal versions have one place just if both of them are misfiled or neither is. -/
theorem globalPlugins_iff_line (home : Path) (h : parse text = .ok v) :
    ((Layout.globalPlugins text home = home / ".sbt" / "0.13" / "plugins" ↔ [0, 13] <+: v.components) ↔
      ¬ IsMisfiled text) ∧
    ∀ {other w}, parse other = .ok w → v.same w = true →
      (Layout.globalPlugins text home = Layout.globalPlugins other home ↔ (IsMisfiled text ↔ IsMisfiled other)) := by
  refine ⟨?_, fun {other w} hother hsame => ?_⟩
  · rw [globalPlugins_eq_iff, isMisfiled_iff h, not_not]
  · rw [globalPlugins_eq_globalPlugins_iff, isMisfiled_iff h, isMisfiled_iff hother, not_iff_not,
      prefix_components_of_same hsame]
    tauto

/-- A release, with a zero at its end or without, is filed with its line. -/
theorem globalPlugins_iff_line_release :
    parse (Text.ofString "0.13.18") = .ok ⟨[0, 13, 18], none⟩ ∧
    parse (Text.ofString "0.13.18.0") = .ok ⟨[0, 13, 18, 0], none⟩ ∧
    ¬ IsMisfiled (Text.ofString "0.13.18") ∧ ¬ IsMisfiled (Text.ofString "0.13.18.0") ∧
    Layout.globalPlugins (Text.ofString "0.13.18") (.parse "/home/u") =
      Layout.globalPlugins (Text.ofString "0.13.18.0") (.parse "/home/u") := by
  have h : parse (Text.ofString "0.13.18") = .ok ⟨[0, 13, 18], none⟩ := by decide
  have h' : parse (Text.ofString "0.13.18.0") = .ok ⟨[0, 13, 18, 0], none⟩ := by decide
  obtain ⟨hline, hsame⟩ := globalPlugins_iff_line (.parse "/home/u") h
  obtain ⟨hline', -⟩ := globalPlugins_iff_line (.parse "/home/u") h'
  have hfiled := hline.1 (iff_of_true (by decide) (by decide))
  have hfiled' := hline'.1 (iff_of_true (by decide) (by decide))
  exact ⟨h, h', hfiled, hfiled', (hsame h' (by decide)).2 (iff_of_false hfiled hfiled')⟩

/-- A release between blanks, or with a zero before it, is not filed with its line, and a version whose second
number is 130 is. -/
theorem globalPlugins_misfiled :
    parse (Text.ofString " 0.13.18") = .ok ⟨[0, 13, 18], none⟩ ∧
    Layout.globalPlugins (Text.ofString " 0.13.18") (.parse "/home/u") = .parse "/home/u/.sbt/1.0/plugins" ∧
    parse (Text.ofString "00.13.18") = .ok ⟨[0, 13, 18], none⟩ ∧
    Layout.globalPlugins (Text.ofString "00.13.18") (.parse "/home/u") = .parse "/home/u/.sbt/1.0/plugins" ∧
    parse (Text.ofString "0.130.0") = .ok ⟨[0, 130, 0], none⟩ ∧
    Layout.globalPlugins (Text.ofString "0.130.0") (.parse "/home/u") = .parse "/home/u/.sbt/0.13/plugins" := by
  decide

end SbtWorkspace.Version
