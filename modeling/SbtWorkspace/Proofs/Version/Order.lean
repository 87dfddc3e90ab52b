import Mathlib.Data.List.DropRight
import Mathlib.Tactic.Common
import SbtWorkspace.Version.Parser

/-! Versions are in a total order, up to equality in the order. Two versions are compared as if the
components of both were filled up with zeros, and how far does not matter as long as neither is longer
(`compareComponents_eq_compareLex`). So three versions have a common width, and the order of lists of
one length carries over: `Version.order` is oriented and transitive (the instances of `TransCmp`).
Main statement: `Version.order_laws`, by which the six comparisons are those of one total order, no
zeros at the end of the components change any of them, equal versions are those of one key, and the
comparison of texts with a minimum inherits all of this. -/

namespace SbtWorkspace.Version

open Std

/-! ### Components -/

theorem compare_then (a b : Int) (rest : Ordering) :
    (compare a b).then rest = if a = b then rest else if a < b then .lt else .gt := by
  rcases Int.lt_trichotomy a b with h | rfl | h
  · rw [Int.compare_eq_lt.2 h, if_neg (Int.ne_of_lt h), if_pos h]
    rfl
  · simp
  · rw [Int.compare_eq_gt.2 h, if_neg (Int.ne_of_gt h), if_neg (Int.not_lt.2 (Int.le_of_lt h))]
    rfl

theorem compareComponents_cons_cons (a b : Int) (as bs : List Int) :
    compareComponents (a :: as) (b :: bs) = (compare a b).then (compareComponents as bs) :=
  (compare_then ..).symm

theorem compareComponents_cons_nil (a : Int) (as : List Int) :
    compareComponents (a :: as) [] = (compare a 0).then (compareComponents as []) := by
  have hz : compareComponents as [] = compareToZeros as := by cases as <;> rfl
  rw [compare_then, hz]
  rfl

theorem compareComponents_nil_cons (b : Int) (bs : List Int) :
    compareComponents [] (b :: bs) = (compare 0 b).then (compareComponents [] bs) := by
  rw [compare_then]
  simp only [compareComponents, compareToZeros]
  grind [Ordering.swap]

/-- Components are compared as lists of one length, both filled up with zeros to a width that is at
least their own. -/
theorem compareComponents_eq_compareLex {as bs : List Int} {width : Nat} (ha : as.length ≤ width)
    (hb : bs.length ≤ width) : compareComponents as bs =
      List.compareLex compare (as.rightpad width 0) (bs.rightpad width 0) := by
  induction width generalizing as bs with
  | zero =>
    obtain rfl := List.length_eq_zero_iff.1 (Nat.le_zero.1 ha)
    obtain rfl := List.length_eq_zero_iff.1 (Nat.le_zero.1 hb)
    rfl
  | succ width ih =>
    have filled : ([] : List Int).rightpad (width + 1) 0 = 0 :: [].rightpad width 0 := by
      simp [List.rightpad, List.replicate_succ]
    have kept (a : Int) (as : List Int) :
        (a :: as).rightpad (width + 1) 0 = a :: as.rightpad width 0 := by
      simp [List.rightpad]
    cases as with
    | nil =>
      cases bs with
      | nil => simp [compareComponents, compareToZeros, ReflCmp.compare_self]
      | cons b bs =>
        rw [compareComponents_nil_cons, filled, kept, List.compareLex_cons_cons,
          ih (Nat.zero_le _) (Nat.le_of_succ_le_succ hb)]
    | cons a as =>
      cases bs with
      | nil =>
        rw [compareComponents_cons_nil, filled, kept, List.compareLex_cons_cons,
          ih (Nat.le_of_succ_le_succ ha) (Nat.zero_le _)]
      | cons b bs =>
        rw [compareComponents_cons_cons, kept, kept, List.compareLex_cons_cons,
          ih (Nat.le_of_succ_le_succ ha) (Nat.le_of_succ_le_succ hb)]

instance : TransCmp compareComponents where
  eq_swap {as bs} := by
    have ha : as.length ≤ max as.length bs.length := le_max_left ..
    have hb : bs.length ≤ max as.length bs.length := le_max_right ..
    rw [compareComponents_eq_compareLex ha hb, compareComponents_eq_compareLex hb ha]
    exact OrientedCmp.eq_swap
  isLE_trans {as bs cs} := by
    -- Each pair would do with a width of its own; a width for all three turns the claim into that
    -- for lists of one length.
    have ha : as.length ≤ max as.length (max bs.length cs.length) := by omega
    have hb : bs.length ≤ max as.length (max bs.length cs.length) := by omega
    have hc : cs.length ≤ max as.length (max bs.length cs.length) := by omega
    rw [compareComponents_eq_compareLex ha hb, compareComponents_eq_compareLex hb hc,
      compareComponents_eq_compareLex ha hc]
    exact TransCmp.isLE_trans

theorem compareComponents_append_zeros (as bs : List Int) (i j : Nat) :
    compareComponents (as ++ List.replicate i 0) (bs ++ List.replicate j 0) =
      compareComponents as bs := by
  have filled (cs : List Int) (k : Nat) {width : Nat} (h : cs.length + k ≤ width) :
      (cs ++ List.replicate k 0).rightpad width 0 = cs.rightpad width 0 := by
    rw [List.rightpad, List.rightpad, List.append_assoc, List.replicate_append_replicate]
    congr 2
    simp only [List.length_append, List.length_replicate]
    omega
  have grown (cs : List Int) (k : Nat) : (cs ++ List.replicate k 0).length = cs.length + k := by
    rw [List.length_append, List.length_replicate]
  have ha : as.length + i ≤ max (as.length + i) (bs.length + j) := le_max_left ..
  have hb : bs.length + j ≤ max (as.length + i) (bs.length + j) := le_max_right ..
  rw [compareComponents_eq_compareLex ((grown as i).trans_le ha) ((grown bs j).trans_le hb),
    filled as i ha, filled bs j hb, ← compareComponents_eq_compareLex (by omega) (by omega)]

/-! ### Tags -/

theorem compareTags_eq_lt {s t : Text} (h : s.precedes t = true) :
    compareTags (some s) (some t) = .lt := by
  rw [compareTags, if_neg (Text.ne_of_precedes h), if_pos h]

theorem compareTags_eq_gt {s t : Text} (h : t.precedes s = true) :
    compareTags (some s) (some t) = .gt := by
  rw [compareTags, if_neg (Text.ne_of_precedes h).symm, Text.precedes_asymm h]
  rfl

theorem isLE_compareTags_iff (s t : Text) :
    (compareTags (some s) (some t)).isLE = true ↔ s = t ∨ s.precedes t = true := by
  rcases Text.precedes_total s t with h | rfl | h
  · simp [compareTags_eq_lt h, h]
  · simp [compareTags]
  · simp [compareTags_eq_gt h, Text.precedes_asymm h, (Text.ne_of_precedes h).symm]

instance : TransCmp compareTags where
  eq_swap {s t} := by
    cases s with
    | none => cases t <;> rfl
    | some s =>
      cases t with
      | none => rfl
      | some t =>
        rcases Text.precedes_total s t with h | rfl | h
        · rw [compareTags_eq_lt h, compareTags_eq_gt h]
          rfl
        · simp [compareTags]
        · rw [compareTags_eq_lt h, compareTags_eq_gt h]
          rfl
  isLE_trans {s t u} h₁ h₂ := by
    cases s with
    | none => cases u <;> rfl
    | some s =>
      cases t with
      | none => cases h₁
      | some t =>
        cases u with
        | none => cases h₂
        | some u =>
          rw [isLE_compareTags_iff] at h₁ h₂ ⊢
          rcases h₁ with rfl | h₁
          · exact h₂
          · rcases h₂ with rfl | h₂
            · exact .inr h₁
            · exact .inr (Text.precedes_trans h₁ h₂)

/-! ### Versions -/

instance : TransCmp order where
  eq_swap {v w} := by
    rw [order, order, Ordering.swap_then, ← OrientedCmp.eq_swap, ← OrientedCmp.eq_swap]
  isLE_trans {u v w} h₁ h₂ := by
    rw [order, Ordering.isLE_then_iff_or] at h₁ h₂ ⊢
    rcases h₁ with h₁ | ⟨h₁, ht₁⟩
    · refine .inl ?_
      rcases h₂ with h₂ | ⟨h₂, -⟩
      · exact TransCmp.lt_trans h₁ h₂
      · exact TransCmp.lt_of_lt_of_eq h₁ h₂
    · rcases h₂ with h₂ | ⟨h₂, ht₂⟩
      · exact .inl (TransCmp.lt_of_eq_of_lt h₁ h₂)
      · exact .inr ⟨TransCmp.eq_trans h₁ h₂, TransCmp.isLE_trans ht₁ ht₂⟩

/-- The version with some more components, all of them zero. -/
def padded (v : Version) (zeros : Nat) : Version :=
  { v with components := v.components ++ List.replicate zeros 0 }

theorem order_padded (v w : Version) (i j : Nat) : (v.padded i).order (w.padded j) = v.order w := by
  rw [order, order, padded, padded, compareComponents_append_zeros]

/-! ### Comparisons -/

@[simp] theorem same_iff (v w : Version) : v.same w = true ↔ v.order w = .eq := by
  simp [same]

@[simp] theorem older_iff (v w : Version) : v.older w = true ↔ v.order w = .lt := by
  simp [older]

@[simp] theorem newer_iff (v w : Version) : v.newer w = true ↔ v.order w = .gt := by
  cases h : v.order w <;> simp [newer, differs, older, same, h]

@[simp] theorem atMost_iff (v w : Version) : v.atMost w = true ↔ (v.order w).isLE = true := by
  cases h : v.order w <;> simp [atMost, older, same, h]

@[simp] theorem atLeast_iff (v w : Version) : v.atLeast w = true ↔ (v.order w).isGE = true := by
  cases h : v.order w <;> simp [atLeast, older, h]

theorem count_comparisons (v w : Version) : [v.older w, v.same w, v.newer w].count true = 1 := by
  cases h : v.order w <;> simp [newer, differs, older, same, h]

theorem newer_eq_older (v w : Version) : v.newer w = w.older v :=
  Bool.eq_iff_iff.2 (by simp [OrientedCmp.gt_iff_lt])

theorem atLeast_eq_atMost (v w : Version) : v.atLeast w = w.atMost v :=
  Bool.eq_iff_iff.2 (by simp [OrientedCmp.isGE_iff_isLE])

theorem atLeast_eq_newer_or_same (v w : Version) : v.atLeast w = (v.newer w || v.same w) := by
  cases h : v.order w <;> simp [atLeast, newer, differs, older, same, h]

/-! ### Texts of versions -/

theorem meets_eq {minimum version : Text} {m v : Version} (hm : parse minimum = .ok m)
    (hv : parse version = .ok v) : meets minimum version = .ok (v.atLeast m) := by
  rw [meets, hm, hv]
  rfl

theorem meets_eq_true_iff (minimum version : Text) : meets minimum version = .ok true ↔
    ∃ m v, parse minimum = .ok m ∧ parse version = .ok v ∧ (m.order v).isLE = true := by
  constructor
  · intro h
    cases hv : parse version with
    | error e => rw [meets, hv] at h; cases h
    | ok v =>
      cases hm : parse minimum with
      | error e => rw [meets, hv, hm] at h; cases h
      | ok m =>
        rw [meets_eq hm hv, atLeast_eq_atMost] at h
        exact ⟨m, v, rfl, rfl, (atMost_iff m v).1 (Except.ok.inj h)⟩
  · rintro ⟨m, v, hm, hv, h⟩
    rw [meets_eq hm hv, atLeast_eq_atMost, (atMost_iff m v).2 h]

theorem meets_self {text : Text} {v : Version} (h : parse text = .ok v) :
    meets text text = .ok true :=
  (meets_eq_true_iff ..).2 ⟨v, v, h, h, by simp [ReflCmp.compare_self]⟩

theorem meets_trans {a b c : Text} (hab : meets a b = .ok true) (hbc : meets b c = .ok true) :
    meets a c = .ok true := by
  obtain ⟨u, v, ha, hb, huv⟩ := (meets_eq_true_iff a b).1 hab
  obtain ⟨v', w, hb', hc, hvw⟩ := (meets_eq_true_iff b c).1 hbc
  obtain rfl : v = v' := Except.ok.inj (hb.symm.trans hb')
  exact (meets_eq_true_iff a c).2 ⟨u, w, ha, hc, TransCmp.isLE_trans huv hvw⟩

theorem meets_total {a b : Text} {u v : Version} (ha : parse a = .ok u) (hb : parse b = .ok v) :
    meets a b = .ok true ∨ meets b a = .ok true := by
  rw [meets_eq_true_iff, meets_eq_true_iff]
  by_cases h : u.order v = .gt
  · exact .inr ⟨v, u, hb, ha, by simp [OrientedCmp.gt_iff_lt.1 h]⟩
  · exact .inl ⟨u, v, ha, hb, Ordering.isLE_iff_ne_gt.2 h⟩

theorem meets_of_atLeast {minimum version later : Text} {v w : Version}
    (hv : parse version = .ok v) (hw : parse later = .ok w) (h : w.atLeast v = true)
    (hm : meets minimum version = .ok true) : meets minimum later = .ok true := by
  rw [atLeast_eq_atMost, atMost_iff] at h
  exact meets_trans hm ((meets_eq_true_iff ..).2 ⟨v, w, hv, hw, h⟩)

theorem meets_of_atMost {minimum lower version : Text} {m l : Version}
    (hl : parse lower = .ok l) (hm : parse minimum = .ok m) (h : l.atMost m = true)
    (hv : meets minimum version = .ok true) : meets lower version = .ok true :=
  meets_trans ((meets_eq_true_iff ..).2 ⟨l, m, hl, hm, (atMost_iff ..).1 h⟩) hv

/-! ### Keys -/

theorem dropTrailingZeros_concat_zero (as : List Int) :
    dropTrailingZeros (as ++ [0]) = dropTrailingZeros as := by
  induction as with
  | nil => rfl
  | cons a as ih => rw [List.cons_append, dropTrailingZeros, ih, dropTrailingZeros]

theorem dropTrailingZeros_concat (as : List Int) {a : Int} (h : a ≠ 0) :
    dropTrailingZeros (as ++ [a]) = as ++ [a] := by
  induction as with
  | nil => simp [dropTrailingZeros, h]
  | cons b as ih => simp [dropTrailingZeros, ih]

/-- The key of a version has the components that are left when, as long as the last one is zero, it is
taken away. -/
theorem dropTrailingZeros_eq_rdropWhile (as : List Int) :
    dropTrailingZeros as = as.rdropWhile (· = 0) := by
  induction as using List.reverseRecOn with
  | nil => rfl
  | append_singleton as a ih =>
    by_cases h : a = 0
    · rw [h, dropTrailingZeros_concat_zero, ih, List.rdropWhile_concat_pos _ _ _ (by simp)]
    · rw [dropTrailingZeros_concat as h, List.rdropWhile_concat_neg _ _ _ (by simpa using h)]

/-! ### The laws -/

/-- The comparisons of versions, and of their texts with a minimum, are those of one total order. -/
theorem order_laws (u v w : Version) (i j : Nat) (a b c : Text) :
    -- Two versions stand in just one of three relations, and the other three are made of these.
    [v.older w, v.same w, v.newer w].count true = 1 ∧
    v.atMost w = (v.older w || v.same w) ∧ v.newer w = w.older v ∧
    v.atLeast w = (v.newer w || v.same w) ∧ v.atLeast w = w.atMost v ∧ v.differs w = !v.same w ∧
    -- Equality is an equivalence, and the order is transitive and does not tell equals apart.
    v.same v = true ∧ v.same w = w.same v ∧
    (u.same v = true → v.same w = true → u.same w = true) ∧
    (u.older v = true → v.older w = true → u.older w = true) ∧
    (u.same v = true → u.older w = v.older w ∧ w.older u = w.older v) ∧
    -- Zeros at the end do not count.
    (∀ relation ∈ [same, differs, older, atMost, newer, atLeast],
      relation (v.padded i) (w.padded j) = relation v w) ∧
    (v.same w = true ↔ v.key = w.key) ∧
    v.key = (v.components.rdropWhile (· = 0), v.tag) ∧
    -- What is asked of texts.
    (parse a = .ok u → meets a a = .ok true) ∧
    (parse a = .ok u → parse b = .ok v →
      meets a b = .ok (v.atLeast u) ∧ (meets a b = .ok true ∨ meets b a = .ok true)) ∧
    (meets a b = .ok true → meets b c = .ok true → meets a c = .ok true) ∧
    (parse b = .ok v → parse c = .ok w → w.atLeast v = true → meets a b = .ok true →
      meets a c = .ok true) ∧
    (parse a = .ok u → parse b = .ok v → u.atMost v = true → meets b c = .ok true →
      meets a c = .ok true) := by
  refine ⟨count_comparisons v w, rfl, newer_eq_older v w, atLeast_eq_newer_or_same v w,
    atLeast_eq_atMost v w, rfl, ?_, ?_, ?_, ?_, ?_, ?_, ?_, ?_, meets_self,
    fun ha hb => ⟨meets_eq ha hb, meets_total ha hb⟩, meets_trans, meets_of_atLeast,
    meets_of_atMost⟩
  · simp [ReflCmp.compare_self]
  · exact Bool.eq_iff_iff.2 (by simp [OrientedCmp.eq_comm])
  · simp only [same_iff]
    exact TransCmp.eq_trans
  · simp only [older_iff]
    exact TransCmp.lt_trans
  · intro h
    rw [same_iff] at h
    exact ⟨by rw [older, older, TransCmp.congr_left h],
      by rw [older, older, TransCmp.congr_right h]⟩
  · have h : (v.padded i).order (w.padded j) = v.order w := order_padded v w i j
    intro relation hr
    simp only [List.mem_cons, List.not_mem_nil, or_false] at hr
    rcases hr with rfl | rfl | rfl | rfl | rfl | rfl <;>
      simp only [same, differs, older, atMost, newer, atLeast, h]
  · rw [same_iff, order_eq_eq_iff_key]
  · rw [key, dropTrailingZeros_eq_rdropWhile]

/-- A release, a candidate with a longer number and the next release; and one release in three
spellings. -/
theorem order_laws_releases :
    Version.older ⟨[1, 4], none⟩ ⟨[1, 4, 1], none⟩ = true ∧
    Version.same ⟨[1, 4], none⟩ ⟨[1, 4, 0, 0], none⟩ = true ∧
    meets (.ofString "1.4") (.ofString "1.4") = .ok true ∧
    meets (.ofString "1.4") (.ofString "1.4.1") = .ok true ∧
    meets (.ofString "1.4") (.ofString "1.4.0.0") = .ok true := by
  have release : parse (.ofString "1.4") = .ok ⟨[1, 4], none⟩ := by decide +kernel
  have candidate : parse (.ofString "1.4.0-RC1") = .ok ⟨[1, 4, 0], some (.ofString "RC1")⟩ := by
    decide +kernel
  have next : parse (.ofString "1.4.1") = .ok ⟨[1, 4, 1], none⟩ := by decide +kernel
  have respelled : parse (.ofString "1.4.0") = .ok ⟨[1, 4, 0], none⟩ := by decide +kernel
  have longest : parse (.ofString "1.4.0.0") = .ok ⟨[1, 4, 0, 0], none⟩ := by decide +kernel
  obtain ⟨-, -, -, -, -, -, -, -, -, older_trans, -, -, -, -, self, -, -, -, downward⟩ :=
    order_laws ⟨[1, 4], none⟩ ⟨[1, 4, 0], some (.ofString "RC1")⟩ ⟨[1, 4, 1], none⟩ 1 2
      (.ofString "1.4") (.ofString "1.4.0-RC1") (.ofString "1.4.1")
  obtain ⟨-, -, -, -, -, -, -, -, same_trans, -, -, -, -, -, -, pair, -, upward, -⟩ :=
    order_laws ⟨[1, 4], none⟩ ⟨[1, 4, 0], none⟩ ⟨[1, 4, 0, 0], none⟩ 0 0
      (.ofString "1.4") (.ofString "1.4.0") (.ofString "1.4.0.0")
  have ⟨first, _⟩ := pair release respelled
  exact ⟨older_trans (by decide +kernel) (by decide +kernel),
    same_trans (by decide +kernel) (by decide +kernel), self release,
    downward release candidate (by decide +kernel) (by decide +kernel),
    upward respelled longest (by decide +kernel) (first.trans (by decide +kernel))⟩

end SbtWorkspace.Version
