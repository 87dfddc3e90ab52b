import SbtWorkspace.Proofs.Text.Utf8

/-! What is read as UTF-8, whole or in pieces. The octets that a reader takes are those of the characters that it
gives, so only the octets of a text are read; and where a piece ends inside of a character, the octets of it that
are there are carried over. Main statements: `decode_eq_ok_iff` and `decodeStream_eq_ok_iff`. -/

namespace SbtWorkspace.Utf8

variable {isLast : Bool} {position n number extra : Nat} {low high b : UInt8} {bits taken count : Nat}
  {l : Lead} {rest carried bytes x y : Bytes} {cs : List Char}

/-! ## The sequence of one character -/

/-- The lead octets, by the number of octets in their sequences. -/
inductive IsLead : UInt8 → Lead → Prop
  | one {n : Nat} : n < 0x80 → IsLead (.ofNat n) ⟨0, 0x80, 0xBF, n⟩
  | two {n : Nat} : 2 ≤ n → n < 32 → IsLead (.ofNat (n + 192)) ⟨1, 0x80, 0xBF, n⟩
  | three {n : Nat} : n < 16 → IsLead (.ofNat (n + 224))
      ⟨2, if n = 0 then 0xA0 else 0x80, if n = 13 then 0x9F else 0xBF, n⟩
  | four {n : Nat} : n < 5 → IsLead (.ofNat (n + 240))
      ⟨3, if n = 0 then 0x90 else 0x80, if n = 4 then 0x8F else 0xBF, n⟩

theorem lead?_none : ∀ n < 256, (0x80 ≤ n ∧ n < 0xC2) ∨ 0xF5 ≤ n → lead? (UInt8.ofNat n) = none := by
  decide +kernel

theorem isLead_of_lead? (h : lead? b = some l) : IsLead b l := by
  obtain ⟨n, hn, rfl⟩ : ∃ n < 256, b = UInt8.ofNat n := ⟨b.toNat, b.toNat_lt, by simp⟩
  by_cases h₁ : n < 0x80
  · rw [lead?_one n h₁, Option.some.injEq] at h
    exact h ▸ .one h₁
  by_cases h₂ : n < 0xC2
  · rw [lead?_none n hn (.inl ⟨by omega, h₂⟩)] at h
    cases h
  by_cases h₃ : n < 0xE0
  · obtain ⟨k, rfl⟩ : ∃ k, n = k + 192 := ⟨n - 192, by omega⟩
    rw [lead?_two k (by omega) (by omega), Option.some.injEq] at h
    exact h ▸ .two (by omega) (by omega)
  by_cases h₄ : n < 0xF0
  · obtain ⟨k, rfl⟩ : ∃ k, n = k + 224 := ⟨n - 224, by omega⟩
    rw [lead?_three k (by omega), Option.some.injEq] at h
    exact h ▸ .three (by omega)
  by_cases h₅ : n < 0xF5
  · obtain ⟨k, rfl⟩ : ∃ k, n = k + 240 := ⟨n - 240, by omega⟩
    rw [lead?_four k (by omega), Option.some.injEq] at h
    exact h ▸ .four (by omega)
  · rw [lead?_none n hn (.inr (by omega))] at h
    cases h

/-- A sequence that is read has a continuation in its range, if it asks for one, and six bits from that. -/
theorem exists_of_continuations (hlow : 0x80 ≤ low.toNat)
    (h : continuations low high bits taken (count + 1) rest = .scalar number extra) :
    ∃ k more, rest = UInt8.ofNat (k + 128) :: more ∧ low.toNat ≤ k + 128 ∧ k + 128 ≤ high.toNat ∧
      continuations 0x80 0xBF (bits * 64 + k) (taken + 1) count more = .scalar number extra := by
  cases rest with
  | nil => cases h
  | cons b more =>
    rw [continuations] at h
    split at h
    · rename_i hb
      rw [UInt8.le_iff_toNat_le, UInt8.le_iff_toNat_le] at hb
      have hk : b.toNat - 0x80 + 128 = b.toNat := by omega
      exact ⟨b.toNat - 0x80, more, by simp [hk], by omega, by omega, h⟩
    · cases h

/-- The continuations after the first have the whole range. -/
theorem exists_of_tail (h : continuations 0x80 0xBF bits taken (count + 1) rest = .scalar number extra) :
    ∃ k more, k < 64 ∧ rest = UInt8.ofNat (k + 128) :: more ∧
      continuations 0x80 0xBF (bits * 64 + k) (taken + 1) count more = .scalar number extra := by
  have hlow : 0x80 ≤ (0x80 : UInt8).toNat := by decide
  obtain ⟨k, more, rfl, -, hk, h⟩ := exists_of_continuations hlow h
  have hk : k + 128 ≤ 0xBF := hk
  exact ⟨k, more, by omega, rfl, h⟩

theorem eq_of_continuations_zero (h : continuations low high bits taken 0 rest = .scalar number extra) :
    bits = number ∧ taken = extra := by
  rw [continuations] at h
  injection h with h₁ h₂
  exact ⟨h₁, h₂⟩

theorem exists_char (hn : n < 0xD800 ∨ 0xDFFF < n ∧ n < 0x110000) : ∃ c : Char, c.toNat = n :=
  ⟨Char.ofNatAux n hn, rfl⟩

theorem utf8EncodeChar_one {c : Char} (hc : c.toNat < 0x80) :
    String.utf8EncodeChar c = [.ofNat c.toNat] := by
  have hv : c.val.toNat = c.toNat := rfl
  simp only [String.utf8EncodeChar, hv]
  rw [if_pos (by omega)]

theorem utf8EncodeChar_two {c : Char} {n k : Nat} (hc : c.toNat = n * 64 + k) (hlow : 2 ≤ n)
    (hn : n < 32) (hk : k < 64) :
    String.utf8EncodeChar c = [.ofNat (n + 192), .ofNat (k + 128)] := by
  have hv : c.val.toNat = n * 64 + k := hc
  have h₁ : (n * 64 + k) / 64 % 32 = n := by omega
  have h₂ : (n * 64 + k) % 64 = k := by omega
  simp only [String.utf8EncodeChar, hv, h₁, h₂]
  rw [if_neg (by omega), if_pos (by omega)]

theorem utf8EncodeChar_three {c : Char} {n k j : Nat} (hc : c.toNat = (n * 64 + k) * 64 + j)
    (hlow : 0x800 ≤ c.toNat) (hn : n < 16) (hk : k < 64) (hj : j < 64) :
    String.utf8EncodeChar c = [.ofNat (n + 224), .ofNat (k + 128), .ofNat (j + 128)] := by
  have hv : c.val.toNat = (n * 64 + k) * 64 + j := hc
  rw [hc] at hlow
  have h₁ : ((n * 64 + k) * 64 + j) / 4096 % 16 = n := by omega
  have h₂ : ((n * 64 + k) * 64 + j) / 64 % 64 = k := by omega
  have h₃ : ((n * 64 + k) * 64 + j) % 64 = j := by omega
  simp only [String.utf8EncodeChar, hv, h₁, h₂, h₃]
  rw [if_neg (by omega), if_neg (by omega), if_pos (by omega)]

theorem utf8EncodeChar_four {c : Char} {n k j i : Nat} (hc : c.toNat = ((n * 64 + k) * 64 + j) * 64 + i)
    (hlow : 0x10000 ≤ c.toNat) (hn : n < 8) (hk : k < 64) (hj : j < 64) (hi : i < 64) :
    String.utf8EncodeChar c =
      [.ofNat (n + 240), .ofNat (k + 128), .ofNat (j + 128), .ofNat (i + 128)] := by
  have hv : c.val.toNat = ((n * 64 + k) * 64 + j) * 64 + i := hc
  rw [hc] at hlow
  have h₁ : (((n * 64 + k) * 64 + j) * 64 + i) / 262144 % 8 = n := by omega
  have h₂ : (((n * 64 + k) * 64 + j) * 64 + i) / 4096 % 64 = k := by omega
  have h₃ : (((n * 64 + k) * 64 + j) * 64 + i) / 64 % 64 = j := by omega
  have h₄ : (((n * 64 + k) * 64 + j) * 64 + i) % 64 = i := by omega
  simp only [String.utf8EncodeChar, hv, h₁, h₂, h₃, h₄]
  rw [if_neg (by omega), if_neg (by omega), if_neg (by omega)]

/-- What is read as one character are the octets of a character. -/
theorem exists_of_scalar (hl : IsLead b l)
    (h : continuations l.low l.high l.bits 0 l.count rest = .scalar number extra) :
    ∃ c tail more, rest = tail ++ more ∧ tail.length = extra ∧ String.utf8EncodeChar c = b :: tail ∧
      c.toNat = number := by
  cases hl with
  | @one n hn =>
    obtain ⟨rfl, rfl⟩ := eq_of_continuations_zero h
    obtain ⟨c, rfl⟩ := exists_char (n := n) (by omega)
    exact ⟨c, [], rest, rfl, rfl, utf8EncodeChar_one hn, rfl⟩
  | @two n hlow hn =>
    obtain ⟨k, more, hk, rfl, hrest⟩ := exists_of_tail h
    obtain ⟨rfl, rfl⟩ := eq_of_continuations_zero hrest
    obtain ⟨c, hc⟩ := exists_char (n := n * 64 + k) (by omega)
    exact ⟨c, [_], more, rfl, rfl, utf8EncodeChar_two hc hlow hn hk, hc⟩
  | @three n hn =>
    have hlow : (if n = 0 then (0xA0 : UInt8) else 0x80).toNat = if n = 0 then 0xA0 else 0x80 :=
      apply_ite UInt8.toNat ..
    have hhigh : (if n = 13 then (0x9F : UInt8) else 0xBF).toNat = if n = 13 then 0x9F else 0xBF :=
      apply_ite UInt8.toNat ..
    obtain ⟨k, _, rfl, hk₁, hk₂, hnext⟩ := exists_of_continuations (by rw [hlow]; split <;> omega) h
    obtain ⟨j, more, hj, rfl, hrest⟩ := exists_of_tail hnext
    obtain ⟨rfl, rfl⟩ := eq_of_continuations_zero hrest
    rw [hlow] at hk₁
    rw [hhigh] at hk₂
    have hk : k < 64 := by split at hk₂ <;> omega
    have hvalue : 0x800 ≤ (n * 64 + k) * 64 + j := by split at hk₁ <;> omega
    obtain ⟨c, hc⟩ := exists_char (n := (n * 64 + k) * 64 + j) (by split at hk₂ <;> omega)
    exact ⟨c, [_, _], more, rfl, rfl, utf8EncodeChar_three hc (hc ▸ hvalue) hn hk hj, hc⟩
  | @four n hn =>
    have hlow : (if n = 0 then (0x90 : UInt8) else 0x80).toNat = if n = 0 then 0x90 else 0x80 :=
      apply_ite UInt8.toNat ..
    have hhigh : (if n = 4 then (0x8F : UInt8) else 0xBF).toNat = if n = 4 then 0x8F else 0xBF :=
      apply_ite UInt8.toNat ..
    obtain ⟨k, _, rfl, hk₁, hk₂, hnext⟩ := exists_of_continuations (by rw [hlow]; split <;> omega) h
    obtain ⟨j, _, hj, rfl, hnext'⟩ := exists_of_tail hnext
    obtain ⟨i, more, hi, rfl, hrest⟩ := exists_of_tail hnext'
    obtain ⟨rfl, rfl⟩ := eq_of_continuations_zero hrest
    rw [hlow] at hk₁
    rw [hhigh] at hk₂
    have hk : k < 64 := by split at hk₂ <;> omega
    have hvalue : 0x10000 ≤ ((n * 64 + k) * 64 + j) * 64 + i := by split at hk₁ <;> omega
    obtain ⟨c, hc⟩ := exists_char (n := ((n * 64 + k) * 64 + j) * 64 + i) (by
      split at hk₂ <;> omega)
    exact ⟨c, [_, _, _], more, rfl, rfl, utf8EncodeChar_four hc (hc ▸ hvalue) (by omega) hk hj hi, hc⟩

theorem exists_octets (c : Char) : ∃ b tail, String.utf8EncodeChar c = b :: tail ∧
    ∀ rest, verdict true b (tail ++ rest) = .scalar c.toNat tail.length := by
  obtain ⟨b, tail, hc, -⟩ := verdict_utf8EncodeChar c []
  refine ⟨b, tail, hc, fun rest => ?_⟩
  obtain ⟨b', tail', hc', hv⟩ := verdict_utf8EncodeChar c rest
  rw [hc, List.cons.injEq] at hc'
  obtain ⟨rfl, rfl⟩ := hc'
  exact hv

theorem continuations_eq_cutOff (h : continuations low high bits taken count (x ++ y) = .scalar number extra)
    (hx : x.length < count) : continuations low high bits taken count x = .cutOff := by
  induction count generalizing low high bits taken x with
  | zero => omega
  | succ count ih =>
    cases x with
    | nil => rfl
    | cons b x =>
      rw [List.cons_append, continuations] at h
      rw [continuations]
      split at h
      · rename_i hb
        rw [if_pos hb]
        exact ih h (Nat.lt_of_succ_lt_succ hx)
      · cases h

theorem count_of_continuations (h : continuations low high bits taken count rest = .scalar number extra) :
    extra = taken + count ∧ count ≤ rest.length := by
  induction count generalizing low high bits taken rest with
  | zero =>
    obtain ⟨rfl, rfl⟩ := eq_of_continuations_zero h
    exact ⟨rfl, Nat.zero_le _⟩
  | succ count ih =>
    cases rest with
    | nil => cases h
    | cons b rest =>
      rw [continuations] at h
      split at h
      · obtain ⟨rfl, hle⟩ := ih h
        exact ⟨by omega, Nat.succ_le_succ hle⟩
      · cases h

/-- What is read as one character has a lead octet and its continuations. -/
theorem exists_of_verdict (h : verdict isLast b rest = .scalar number extra) :
    ∃ l, lead? b = some l ∧ continuations l.low l.high l.bits 0 l.count rest = .scalar number extra := by
  unfold verdict at h
  split at h
  · cases h
  · rename_i l hl
    split at h
    · cases h
    · exact ⟨l, hl, h⟩

/-- The octets of a character are read as it in every piece that has them all. -/
theorem verdict_false_of_scalar (h : verdict true b rest = .scalar number extra) :
    verdict false b rest = .scalar number extra := by
  obtain ⟨l, hl, hc⟩ := exists_of_verdict h
  have hlen : (b == 0xED && rest.length == 1) = false := by
    by_cases hb : b = 0xED
    · subst hb
      obtain rfl : ⟨2, 0x80, 0x9F, 13⟩ = l := Option.some.inj hl
      have hlen : 2 ≤ rest.length := (count_of_continuations hc).2
      simp only [beq_self_eq_true, Bool.true_and, beq_eq_false_iff_ne]
      omega
    · simp [hb]
  simp [verdict, hl, hc, hlen]

/-- The octets of a character of which some are missing are left to the next piece. -/
theorem verdict_false_of_cutOff (h : verdict true b (x ++ y) = .scalar number extra) (hx : x.length < extra) :
    verdict false b x = .cutOff := by
  obtain ⟨l, hl, hc⟩ := exists_of_verdict h
  obtain ⟨rfl, -⟩ := count_of_continuations hc
  have hcut := continuations_eq_cutOff hc (by omega)
  simp [verdict, hl, hcut]

/-! ## All sequences -/

/-- After the octets of a character the reader goes on with the rest. -/
theorem decodePiece_char {c : Char} {tail : Bytes}
    (h : verdict isLast b (tail ++ rest) = .scalar c.toNat tail.length) :
    decodePiece isLast position 0 (b :: (tail ++ rest)) =
      (decodePiece isLast (position + 1 + tail.length) 0 rest).map fun read => (c :: read.1, read.2) := by
  rw [decodePiece, if_neg (by simp), h]
  simp only [decodePiece_skip, Char.ofNat_toNat]
  cases decodePiece isLast (position + 1 + tail.length) 0 rest <;> rfl

/-- What is read is what was given, but for a carried end; and the last piece carries nothing. -/
theorem eq_of_decodePiece (h : decodePiece isLast position 0 bytes = .ok (cs, carried)) :
    bytes = cs.flatMap String.utf8EncodeChar ++ carried ∧ (isLast = true → carried = []) := by
  induction hn : bytes.length using Nat.strongRecOn generalizing bytes position cs with
  | ind n ih =>
    cases bytes with
    | nil =>
      cases h
      exact ⟨rfl, fun _ => rfl⟩
    | cons b rest =>
      cases hv : verdict isLast b rest with
      | scalar number extra =>
        obtain ⟨l, hl, hc⟩ := exists_of_verdict hv
        obtain ⟨c, tail, more, rfl, rfl, hoctets, rfl⟩ := exists_of_scalar (isLead_of_lead? hl) hc
        rw [decodePiece_char hv] at h
        cases hd : decodePiece isLast (position + 1 + tail.length) 0 more with
        | error e => simp [hd, Except.map] at h
        | ok found =>
          rw [hd] at h
          cases h
          have hshorter : more.length < n := by
            rw [← hn, List.length_cons, List.length_append]
            omega
          obtain ⟨hmore, hlast⟩ := ih more.length hshorter hd rfl
          refine ⟨?_, hlast⟩
          rw [List.flatMap_cons, hoctets, List.append_assoc, ← hmore]
          rfl
      | invalidStart =>
        rw [decodePiece, if_neg (by simp), hv] at h
        cases h
      | invalidContinuation length =>
        rw [decodePiece, if_neg (by simp), hv] at h
        cases h
      | cutOff =>
        rw [decodePiece, if_neg (by simp), hv] at h
        cases isLast <;> cases h
        exact ⟨rfl, by simp⟩

/-- Octets are read as a whole if and only if they are those of the characters that they are read as. -/
theorem decode_eq_ok_iff : decode bytes = .ok cs ↔ bytes = cs.flatMap String.utf8EncodeChar := by
  constructor
  · intro h
    cases hd : decodePiece true 0 0 bytes with
    | error e => simp [decode, hd, Except.map] at h
    | ok found =>
      obtain ⟨rfl⟩ : found.1 = cs := by simpa [decode, hd, Except.map] using h
      obtain ⟨heq, hcarried⟩ := eq_of_decodePiece hd
      rw [hcarried rfl, List.append_nil] at heq
      exact heq
  · rintro rfl
    rw [decode, decodePiece_encode]
    rfl

/-! ## Pieces -/

/-- What is read in pieces is what was carried over and what they hold. -/
theorem eq_of_decodePieces {ps : List Bytes} (h : decodePieces carried ps = .ok cs) :
    carried ++ ps.flatten = cs.flatMap String.utf8EncodeChar := by
  induction ps generalizing carried cs with
  | nil => rw [List.flatten_nil, List.append_nil, decode_eq_ok_iff.1 h]
  | cons piece ps ih =>
    rw [decodePieces] at h
    cases hd : decodePiece false 0 0 (carried ++ piece) with
    | error e => simp [hd, bind, Except.bind] at h
    | ok found =>
      obtain ⟨chars, left⟩ := found
      cases hr : decodePieces left ps with
      | error e => simp [hd, hr, bind, Except.bind] at h
      | ok more =>
        obtain rfl : chars ++ more = cs := by
          simpa [hd, hr, bind, Except.bind, pure, Except.pure] using h
        rw [List.flatten_cons, ← List.append_assoc, (eq_of_decodePiece hd).1, List.append_assoc, ih hr,
          List.flatMap_append]

/-- A piece of the octets of a text is read as far as its characters are whole. -/
theorem exists_of_prefix (cs : List Char) (position : Nat)
    (h : x ++ y = cs.flatMap String.utf8EncodeChar) :
    ∃ chars left, decodePiece false position 0 x = .ok (chars, left) ∧
      ∃ more, cs = chars ++ more ∧ left ++ y = more.flatMap String.utf8EncodeChar := by
  induction cs generalizing x position with
  | nil =>
    obtain ⟨rfl, rfl⟩ := List.append_eq_nil_iff.1 h
    exact ⟨[], [], rfl, [], rfl, rfl⟩
  | cons c cs ih =>
    cases x with
    | nil => exact ⟨[], [], rfl, c :: cs, rfl, h⟩
    | cons b x =>
      obtain ⟨lead, tail, hc, hv⟩ := exists_octets c
      have hsplit := h
      rw [List.flatMap_cons, hc, List.cons_append, List.cons_append, List.cons.injEq] at hsplit
      obtain ⟨rfl, hsplit⟩ := hsplit
      obtain hlt | hle := Nat.lt_or_ge x.length tail.length
      · -- the piece ends inside of the character, which is all left to the next one
        have hcut := verdict_false_of_cutOff (hsplit ▸ hv _) hlt
        refine ⟨[], b :: x, ?_, c :: cs, rfl, h⟩
        rw [decodePiece, if_neg (by simp), hcut]
        rfl
      · obtain ⟨x, rfl⟩ := List.prefix_of_prefix_length_le (List.prefix_append tail _)
          (hsplit ▸ List.prefix_append x y) hle
        rw [List.append_assoc, List.append_cancel_left_eq] at hsplit
        obtain ⟨chars, left, hread, more, rfl, hmore⟩ := ih (position + 1 + tail.length) hsplit
        refine ⟨c :: chars, left, ?_, more, rfl, hmore⟩
        rw [decodePiece_char (verdict_false_of_scalar (hv x)), hread]
        rfl

/-- Pieces that hold the octets of a text are read as that. -/
theorem decodePieces_of_eq {ps : List Bytes}
    (h : carried ++ ps.flatten = cs.flatMap String.utf8EncodeChar) : decodePieces carried ps = .ok cs := by
  induction ps generalizing carried cs with
  | nil => exact decode_eq_ok_iff.2 (by simpa using h)
  | cons piece ps ih =>
    rw [List.flatten_cons, ← List.append_assoc] at h
    obtain ⟨chars, left, hpiece, more, rfl, hmore⟩ := exists_of_prefix cs 0 h
    rw [decodePieces, hpiece]
    simp only [bind, Except.bind, ih hmore]
    rfl

theorem flatten_pieces {size : Nat} (hs : 0 < size) (bytes : Bytes) : (pieces size bytes).flatten = bytes := by
  have htake (k : Nat) : ((List.range k).map fun i => (bytes.drop (i * size)).take size).flatten =
      bytes.take (k * size) := by
    induction k with
    | zero => simp
    | succ k ih =>
      rw [List.range_succ, List.map_append, List.flatten_append, ih, Nat.succ_mul, List.take_add]
      simp
  rw [pieces, htake, List.take_of_length_le]
  have hmod := Nat.mod_lt (bytes.length + size - 1) hs
  have hdiv := Nat.div_add_mod' (bytes.length + size - 1) size
  omega

/-- A file is read in pieces if and only if its octets are those of the characters that it is read as. -/
theorem decodeStream_eq_ok_iff : decodeStream bytes = .ok cs ↔ bytes = cs.flatMap String.utf8EncodeChar := by
  have hp : (pieces pieceSize bytes).flatten = bytes := flatten_pieces (by decide) bytes
  constructor
  · intro h
    rw [← hp]
    exact eq_of_decodePieces h
  · intro h
    refine decodePieces_of_eq ?_
    rw [List.nil_append, hp, h]

/-- The octets of a text, and no others, are read in pieces. -/
theorem exists_decodeStream_eq_iff : (∃ cs, decodeStream bytes = .ok cs) ↔ ∃ s, bytes = encode s := by
  constructor
  · rintro ⟨cs, h⟩
    exact ⟨.ofList cs, by rw [decodeStream_eq_ok_iff.1 h, encode, String.toList_ofList]⟩
  · rintro ⟨s, rfl⟩
    exact ⟨s.toList, decodeStream_eq_ok_iff.2 rfl⟩

end SbtWorkspace.Utf8
