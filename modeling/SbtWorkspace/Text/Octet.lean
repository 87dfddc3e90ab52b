import SbtWorkspace.Text.CodePoint
import SbtWorkspace.Text.Utf8

/-! Octets as the characters of the same numbers. Programs that know no other characters work on texts in this form.
Main statement: nothing is lost on the way (`ofChars_toChars`). -/

namespace SbtWorkspace.Octets

def toChars (bytes : Bytes) : List Char := bytes.map fun b => Char.ofNat b.toNat

def ofChars (cs : List Char) : Bytes := cs.map fun c => UInt8.ofNat c.toNat

/-- A string in the form of its octets. -/
def ofString (s : String) : List Char := toChars (Utf8.encode s)

theorem ofChars_toChars (bytes : Bytes) : ofChars (toChars bytes) = bytes := by
  induction bytes with
  | nil => rfl
  | cons b rest ih =>
    have hb : (Char.ofNat b.toNat).toNat = b.toNat := by
      have h : b.toNat.isValidChar := by
        have := b.toNat_lt
        unfold Nat.isValidChar
        omega
      exact CodePoint.toNat_ofNat h
    have ht : ofChars (toChars rest) = rest := ih
    simp only [toChars, ofChars, List.map_cons, hb, UInt8.ofNat_toNat] at ht ⊢
    rw [ht]

/-- The string whose octets are given, if there is one; otherwise the characters themselves. -/
def toString (cs : List Char) : String :=
  match Utf8.decode (ofChars cs) with
  | .ok found => String.ofList found
  | .error _ => String.ofList cs

end SbtWorkspace.Octets
