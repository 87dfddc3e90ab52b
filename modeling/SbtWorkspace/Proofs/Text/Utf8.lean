import SbtWorkspace.Text.Utf8

/-! Text that is written in UTF-8 and read again. The octets of a character are those that its lead octet
asks for, and they read as the number of the character. Main statement: `decode_encode`. -/

namespace SbtWorkspace.Utf8

variable {isLast : Bool} {position n : Nat} {low high : UInt8} {bits taken count : Nat} {rest : Bytes}

/-! ## One sequence -/

theorem toNat_ofNat_of_lt (h : n < 256) : (UInt8.ofNat n).toNat = n := UInt8.toNat_ofNat_of_lt' h

theorem continuations_cons (h : n < 256) (hl : low.toNat ≤ n) (hh : n ≤ high.toNat) :
    continuations low high bits taken (count + 1) (UInt8.ofNat n :: rest) =
      continuations 0x80 0xBF (bits * 64 + (n - 0x80)) (taken + 1) count rest := by
  rw [continuations, if_pos, toNat_ofNat_of_lt h]
  rw [UInt8.le_iff_toNat_le, UInt8.le_iff_toNat_le, toNat_ofNat_of_lt h]
  exact ⟨hl, hh⟩

theorem continuations_tail (h : n < 64) :
    continuations 0x80 0xBF bits taken (count + 1) (UInt8.ofNat (n + 128) :: rest) =
      continuations 0x80 0xBF (bits * 64 + n) (taken + 1) count rest := by
  rw [continuations_cons (by omega) (show 128 ≤ n + 128 by omega) (show n + 128 ≤ 191 by omega),
    Nat.add_sub_cancel]

theorem lead?_one : ∀ n < 0x80, lead? (UInt8.ofNat n) = some ⟨0, 0x80, 0xBF, n⟩ := by
  decide +kernel

theorem lead?_two : ∀ n < 32, 2 ≤ n → lead? (UInt8.ofNat (n + 192)) = some ⟨1, 0x80, 0xBF, n⟩ := by
  decide +kernel

/-- Of the first continuations in three octets, those are left out that two would do for, and those of
surrogates. -/
theorem lead?_three : ∀ n < 16, lead? (UInt8.ofNat (n + 224)) =
    some ⟨2, if n = 0 then 0xA0 else 0x80, if n = 13 then 0x9F else 0xBF, n⟩ := by
  decide +kernel

/-- Of those in four octets, those are left out that three would do for, and those beyond the last
character. -/
theorem lead?_four : ∀ n < 5, lead? (UInt8.ofNat (n + 240)) =
    some ⟨3, if n = 0 then 0x90 else 0x80, if n = 4 then 0x8F else 0xBF, n⟩ := by
  decide +kernel

theorem verdict_of_lead {b : UInt8} {l : Lead} (h : lead? b = some l) :
    verdict true b rest = continuations l.low l.high l.bits 0 l.count rest := by
  simp [verdict, h]

theorem verdict_utf8EncodeChar (c : Char) (rest : Bytes) :
    ∃ b tail, String.utf8EncodeChar c = b :: tail ∧
      verdict true b (tail ++ rest) = .scalar c.toNat tail.length := by
  have hv : c.toNat < 0xD800 ∨ 0xDFFF < c.toNat ∧ c.toNat < 0x110000 := c.valid
  have hc : c.val.toNat = c.toNat := rfl
  rw [String.utf8EncodeChar]
  simp only [hc]
  generalize c.toNat = v at hv
  split
  · refine ⟨_, _, rfl, ?_⟩
    rw [verdict_of_lead (lead?_one v (by omega))]
    rfl
  split
  · refine ⟨_, _, rfl, ?_⟩
    rw [verdict_of_lead (lead?_two (v / 64 % 32) (by omega) (by omega)), List.cons_append,
      continuations_tail (by omega), continuations]
    dsimp only
    congr 1
    omega
  split
  · refine ⟨_, _, rfl, ?_⟩
    rw [verdict_of_lead (lead?_three (v / 4096 % 16) (by omega)), List.cons_append, List.cons_append,
      continuations_cons (by omega) ?_ ?_, continuations_tail (by omega), continuations]
    · dsimp only
      congr 1
      omega
    · dsimp only
      split
      · show 0xA0 ≤ _
        omega
      · show 0x80 ≤ _
        omega
    · dsimp only
      split
      · show _ ≤ 0x9F
        omega
      · show _ ≤ 0xBF
        omega
  · refine ⟨_, _, rfl, ?_⟩
    rw [verdict_of_lead (lead?_four (v / 262144 % 8) (by omega)), List.cons_append, List.cons_append,
      List.cons_append, continuations_cons (by omega) ?_ ?_, continuations_tail (by omega),
      continuations_tail (by omega), continuations]
    · dsimp only
      congr 1
      omega
    · dsimp only
      split
      · show 0x90 ≤ _
        omega
      · show 0x80 ≤ _
        omega
    · dsimp only
      split
      · show _ ≤ 0x8F
        omega
      · show _ ≤ 0xBF
        omega

/-! ## All sequences -/

/-- The octets that belong to the character before are passed over. -/
theorem decodePiece_skip (tail rest : Bytes) (position : Nat) :
    decodePiece isLast position tail.length (tail ++ rest) =
      decodePiece isLast (position + tail.length) 0 rest := by
  induction tail generalizing position with
  | nil => rfl
  | cons b tail ih =>
    rw [List.cons_append, decodePiece, if_pos (by simp), List.length_cons, Nat.add_sub_cancel, ih,
      Nat.add_assoc, Nat.add_comm 1]

theorem decodePiece_encode (cs : List Char) (position : Nat) :
    decodePiece true position 0 (cs.flatMap String.utf8EncodeChar) = .ok (cs, []) := by
  induction cs generalizing position with
  | nil => rfl
  | cons c cs ih =>
    obtain ⟨b, tail, hc, hv⟩ := verdict_utf8EncodeChar c (cs.flatMap String.utf8EncodeChar)
    rw [List.flatMap_cons, hc, List.cons_append, decodePiece, if_neg (by simp), hv]
    simp only [decodePiece_skip, ih]
    rw [show Char.ofNat c.toNat = c from Char.ofNat_toNat c]
    rfl

/-- A text that is written in UTF-8 is read back. -/
theorem decode_encode (s : String) : decode (encode s) = .ok s.toList := by
  rw [decode, encode, decodePiece_encode]
  rfl

end SbtWorkspace.Utf8
