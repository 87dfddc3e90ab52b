/-! Text as a list of code points. An escape in a properties file can name a surrogate on its
own, and such a text still has an order, a length and a quoted form, so `Char` alone is too small.
Main statements: `CodePoint.ofNat_val` and `CodePoint.val_ofNat`, by which a code point is its number. -/

namespace SbtWorkspace

/-- A code point is a Unicode scalar value or one of the 2048 surrogates. -/
inductive CodePoint where
  | scalar (c : Char)
  | surrogate (n : Fin 2048)
  deriving DecidableEq, Repr

/-- Text that may hold surrogates. -/
abbrev Text := List CodePoint

namespace CodePoint

instance : Coe Char CodePoint := ⟨scalar⟩

instance : Inhabited CodePoint := ⟨scalar ' '⟩

/-- The number of a code point; surrogates fill the gap from U+D800 to U+DFFF. -/
def val : CodePoint → Nat
  | scalar c => c.toNat
  | surrogate n => 0xD800 + n

/-- The code point of a number below 0x110000. -/
def ofNat (n : Nat) : CodePoint :=
  if n.isValidChar then scalar (Char.ofNat n) else surrogate (Fin.ofNat 2048 (n - 0xD800))

theorem ofNat_val (c : CodePoint) : ofNat c.val = c := by
  cases c with
  | scalar c =>
    have h : c.toNat.isValidChar := c.valid
    simp [ofNat, val, h]
  | surrogate n =>
    have h : ¬ (0xD800 + n.val).isValidChar := by
      have := n.isLt
      simp only [Nat.isValidChar]
      omega
    have hn : Fin.ofNat 2048 (0xD800 + n.val - 0xD800) = n := by
      ext
      simp
    simp only [ofNat, val, h, if_false, hn]

theorem val_injective {c d : CodePoint} (h : c.val = d.val) : c = d := by
  rw [← ofNat_val c, h, ofNat_val]

/-- A character is its number. -/
theorem toNat_ofNat {n : Nat} (h : n.isValidChar) : (Char.ofNat n).toNat = n := by
  rw [Char.ofNat, dif_pos h]
  rfl

theorem val_ofNat {n : Nat} (h : n < 0x110000) : (ofNat n).val = n := by
  unfold ofNat
  split
  · rename_i hv
    exact toNat_ofNat hv
  · rename_i hv
    simp only [Nat.isValidChar] at hv
    simp only [val, Fin.ofNat]
    omega

def toChar? : CodePoint → Option Char
  | scalar c => some c
  | surrogate _ => none

end CodePoint

namespace Text

/-- The code points of a string. -/
def ofString (s : String) : Text := s.toList.map CodePoint.scalar

instance : Coe String Text := ⟨ofString⟩

def toString? (t : Text) : Option String := (t.mapM CodePoint.toChar?).map String.ofList

/-- The order of texts: by the first code point that differs, and a proper beginning comes first. -/
def precedes : Text → Text → Bool
  | _, [] => false
  | [], _ :: _ => true
  | a :: as, b :: bs => if a = b then precedes as bs else decide (a.val < b.val)

theorem precedes_irrefl (a : Text) : precedes a a = false := by
  induction a with
  | nil => rfl
  | cons c a ih => simp [precedes, ih]

theorem precedes_trans {a b c : Text} (h₁ : precedes a b = true) (h₂ : precedes b c = true) :
    precedes a c = true := by
  induction a generalizing b c with
  | nil =>
    cases c with
    | nil => cases b <;> simp [precedes] at h₂
    | cons _ _ => rfl
  | cons x a ih =>
    cases b with
    | nil => simp [precedes] at h₁
    | cons y b =>
      cases c with
      | nil => simp [precedes] at h₂
      | cons z c =>
        simp only [precedes] at h₁ h₂ ⊢
        by_cases hxy : x = y
        · by_cases hyz : y = z
          · subst hxy hyz
            simp only [if_true] at h₁ h₂ ⊢
            exact ih h₁ h₂
          · subst hxy
            simpa [hyz] using h₂
        · by_cases hyz : y = z
          · subst hyz
            simpa [hxy] using h₁
          · simp only [hxy, hyz, if_false, decide_eq_true_eq] at h₁ h₂
            have hxz : x ≠ z := fun h => by subst h; omega
            simp only [hxz, if_false, decide_eq_true_eq]
            omega

theorem ne_of_precedes {a b : Text} (h : precedes a b = true) : a ≠ b := by
  rintro rfl
  rw [precedes_irrefl] at h
  cases h

theorem precedes_asymm {a b : Text} (h : precedes a b = true) : precedes b a = false :=
  Bool.eq_false_iff.2 fun h' => ne_of_precedes (precedes_trans h h') rfl

theorem precedes_total (a b : Text) : precedes a b = true ∨ a = b ∨ precedes b a = true := by
  induction a generalizing b with
  | nil => cases b <;> simp [precedes]
  | cons x a ih =>
    cases b with
    | nil => simp [precedes]
    | cons y b =>
      by_cases h : x = y
      · subst h
        simpa [precedes] using ih b
      · have hv : x.val ≠ y.val := fun hv => h (CodePoint.val_injective hv)
        have h' : y ≠ x := fun e => h e.symm
        simp only [precedes, h, h', if_false, decide_eq_true_eq]
        omega

end Text

end SbtWorkspace
