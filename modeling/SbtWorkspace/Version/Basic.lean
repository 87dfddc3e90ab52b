import SbtWorkspace.Text.CodePoint

/-! Versions and their order. Components are compared from the left, where a missing one counts as
zero; on a tie a version without a tag comes before every tagged one, and tags are ordered as texts.
Main statement: `Version.order_eq_eq_iff_key`, by which versions are equal in the order just when their
keys, without trailing zeros, are the same. -/

namespace SbtWorkspace

/-- A version: its numbers, and the text that a dash or a plus sign introduces. -/
structure Version where
  components : List Int
  tag : Option Text
  deriving DecidableEq

namespace Version

def compareToZeros : List Int → Ordering
  | [] => .eq
  | a :: as => if a = 0 then compareToZeros as else if a < 0 then .lt else .gt

/-- The order of components. Where one list ends, zeros stand for the rest of it. -/
def compareComponents : List Int → List Int → Ordering
  | [], bs => (compareToZeros bs).swap
  | as, [] => compareToZeros as
  | a :: as, b :: bs => if a = b then compareComponents as bs else if a < b then .lt else .gt

def compareTags : Option Text → Option Text → Ordering
  | none, none => .eq
  | none, some _ => .lt
  | some _, none => .gt
  | some s, some t => if s = t then .eq else if s.precedes t then .lt else .gt

/-- The order of versions. -/
def order (v w : Version) : Ordering :=
  (compareComponents v.components w.components).then (compareTags v.tag w.tag)

/-- Whether two versions are equal in the order. -/
def same (v w : Version) : Bool := v.order w = .eq

/-- Whether the first version is older. -/
def older (v w : Version) : Bool := v.order w = .lt

/-- Whether two versions are not equal in the order. -/
def differs (v w : Version) : Bool := !v.same w

/-- Whether the first version is older than the second or equal to it. -/
def atMost (v w : Version) : Bool := v.older w || v.same w

/-- Whether the first version is newer: it is not older, and differs. -/
def newer (v w : Version) : Bool := !v.older w && v.differs w

/-- Whether the first version is not older. -/
def atLeast (v w : Version) : Bool := !v.older w

def dropTrailingZeros : List Int → List Int
  | [] => []
  | a :: as =>
    let rest := dropTrailingZeros as
    if a = 0 ∧ rest = [] then [] else a :: rest

/-- What equal versions share: the components without trailing zeros, and the tag. -/
def key (v : Version) : List Int × Option Text := (dropTrailingZeros v.components, v.tag)

theorem compareToZeros_eq_eq_iff (as : List Int) :
    compareToZeros as = .eq ↔ dropTrailingZeros as = [] := by
  induction as with
  | nil => simp [compareToZeros, dropTrailingZeros]
  | cons a as ih =>
    by_cases h : a = 0
    · simp [compareToZeros, dropTrailingZeros, h, ih]
    · by_cases hl : a < 0 <;> simp [compareToZeros, dropTrailingZeros, h, hl]

theorem compareComponents_eq_eq_iff (as bs : List Int) :
    compareComponents as bs = .eq ↔ dropTrailingZeros as = dropTrailingZeros bs := by
  induction as generalizing bs with
  | nil =>
    rw [@eq_comm (List Int), show dropTrailingZeros [] = [] from rfl, ← compareToZeros_eq_eq_iff]
    cases h : compareToZeros bs <;> simp [compareComponents, h]
  | cons a as ih =>
    cases bs with
    | nil =>
      rw [show dropTrailingZeros [] = [] from rfl, ← compareToZeros_eq_eq_iff]
      rfl
    | cons b bs =>
      simp only [compareComponents, dropTrailingZeros]
      by_cases hab : a = b
      · subst hab
        rw [if_pos rfl, ih]
        by_cases ha : a = 0 <;> grind
      · grind

theorem compareTags_eq_eq_iff (s t : Option Text) : compareTags s t = .eq ↔ s = t := by
  cases s <;> cases t <;> simp only [compareTags, reduceCtorEq]
  split
  · simp_all
  · split <;> simp_all

/-- Versions are equal in the order just when their keys are the same. -/
theorem order_eq_eq_iff_key (v w : Version) : v.order w = .eq ↔ v.key = w.key := by
  simp only [order, Ordering.then_eq_eq, compareComponents_eq_eq_iff, compareTags_eq_eq_iff, key,
    Prod.mk.injEq]

def digestModulus : Int := Nat.pow 2 61 - 1

/-- The digest of a number: the remainder with the sign of the number. Minus one is no digest, minus two
stands for it. -/
def digest (n : Int) : Int :=
  let remainder := n.tmod digestModulus
  if remainder = -1 then -2 else remainder

def fingerprint (v : Version) : List Int × Option Text := (v.key.1.map digest, v.key.2)

end Version

end SbtWorkspace
