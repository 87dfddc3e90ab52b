import Mathlib.Data.Nat.Digits.Defs
import SbtWorkspace.Proofs.Text.Json
import SbtWorkspace.Properties.Parser

/-! Reading an array of strings in JSON. An escape by number names a UTF-16 unit, so a character beyond U+FFFF
is the pair of two; what is written is read again, units first and then pairs. Main statement:
`readArray_renderArray`. -/

namespace SbtWorkspace.Json

variable {c p : CodePoint} {t rest : Text} {n : Nat}

/-! ## Reading -/

def unescapeLetter? (c : CodePoint) : Option CodePoint :=
  if c = '"' ∨ c = '\\' ∨ c = '/' then some c
  else if c = 'b' then some '\x08'
  else if c = 'f' then some '\x0c'
  else if c = 'n' then some '\n'
  else if c = 'r' then some '\r'
  else if c = 't' then some '\t'
  else none

/-- Where a reader of a string stands: in its text, after a backslash, or in the digits of a unit, of which
there are `count` to come and `value` is read. -/
inductive Mode where
  | text
  | backslash
  | digits (count value : Nat)

def prepend (units : Text) : Text × Text → Text × Text
  | (t, rest) => (units ++ t, rest)

/-- The units of a string up to its closing quotation mark, the opening one being read. Controls have to be
escaped, and a surrogate can only be named by an escape. -/
def readString : Mode → Text → Option (Text × Text)
  | _, [] => none
  | .text, c :: rest =>
    if c = '"' then some ([], rest)
    else if c = '\\' then readString .backslash rest
    else if 0x20 ≤ c.val ∧ c.toChar?.isSome then (readString .text rest).map (prepend [c])
    else none
  | .backslash, c :: rest =>
    if c = 'u' then readString (.digits 4 0) rest
    else do
      let d ← unescapeLetter? c
      (readString .text rest).map (prepend [d])
  | .digits count value, c :: rest => do
    let digit ← Properties.hexValue? c
    let value := value * 16 + digit
    if count = 1 then (readString .text rest).map (prepend [.ofNat value])
    else readString (.digits (count - 1) value) rest

def joinPairs : Text → Text
  | .surrogate high :: .surrogate low :: rest =>
    if high.val < 0x400 ∧ 0x400 ≤ low.val then
      .ofNat (0x10000 + high.val * 0x400 + (low.val - 0x400)) :: joinPairs rest
    else .surrogate high :: joinPairs (.surrogate low :: rest)
  | c :: rest => c :: joinPairs rest
  | [] => []

/-- Whether a code point can stand between the parts of a value. -/
def isBlank (c : CodePoint) : Bool := c = ' ' || c = '\t' || c = '\n' || c = '\r'

/-- The strings of an array up to its closing bracket, of which there are at most `fuel` and one at least. -/
def readItems : (fuel : Nat) → Text → Option (List Text × Text)
  | 0, _ => none
  | fuel + 1, t =>
    match t.dropWhile isBlank with
    | .scalar '"' :: rest => do
      let (item, rest) ← readString .text rest
      match rest.dropWhile isBlank with
      | .scalar ']' :: rest => some ([joinPairs item], rest)
      | .scalar ',' :: rest => do
        let (items, rest) ← readItems fuel rest
        pure (joinPairs item :: items, rest)
      | _ => none
    | _ => none

def readElements (t : Text) : Option (List Text × Text) :=
  match t.dropWhile isBlank with
  | .scalar ']' :: rest => some ([], rest)
  | _ => readItems t.length t

/-- The strings of a text that is an array of strings. -/
def readArray (t : Text) : Option (List Text) :=
  match t.dropWhile isBlank with
  | .scalar '[' :: rest => do
    let (items, rest) ← readElements rest
    if rest.all isBlank then some items else none
  | _ => none

/-! ## Units -/

def unitPoints (p : CodePoint) : Text := (units p.val).map CodePoint.ofNat

theorem hexValue_digitChar : ∀ k < 16, Properties.hexValue? (.scalar (Nat.digitChar k)) = some k := by
  decide

/-- The last digit is the remainder, and those before it write the quotient. -/
theorem hex_succ {width : Nat} (hw : 0 < width) (n : Nat) :
    Quoted.hex (width + 1) n = Quoted.hex width (n / 16) ++ [Nat.digitChar (n % 16)] := by
  have hr : n % 16 < 16 := Nat.mod_lt _ (by decide)
  unfold Quoted.hex
  by_cases hq : n / 16 = 0
  · have hn : n < 16 := by omega
    rw [hq, Nat.mod_eq_of_lt hn, Nat.toDigits_of_lt_base hn, Nat.toDigits_of_lt_base (by decide : 0 < 16)]
    obtain ⟨k, rfl⟩ := Nat.exists_eq_add_of_lt hw
    simp [List.replicate_succ']
  · rw [Nat.toDigits_of_base_le (by decide) (by omega : 16 ≤ n)]
    simp

theorem exists_hex (h : n < 0x10000) : ∃ a b c d, a < 16 ∧ b < 16 ∧ c < 16 ∧ d < 16 ∧
    n = ((a * 16 + b) * 16 + c) * 16 + d ∧
      Quoted.hex 4 n = [Nat.digitChar a, Nat.digitChar b, Nat.digitChar c, Nat.digitChar d] := by
  have hone : Quoted.hex 1 (n / 16 / 16 / 16) = [Nat.digitChar (n / 16 / 16 / 16)] := by
    rw [Quoted.hex, Nat.toDigits_of_lt_base (by omega)]
    rfl
  refine ⟨n / 16 / 16 / 16, n / 16 / 16 % 16, n / 16 % 16, n % 16, by omega, by omega, by omega, by omega,
    by omega, ?_⟩
  rw [hex_succ (by decide), hex_succ (by decide), hex_succ (by decide), hone]
  rfl

theorem readString_unit (h : n < 0x10000) (rest : Text) :
    readString .text (('\\' :: 'u' :: Quoted.hex 4 n).map .scalar ++ rest) =
      (readString .text rest).map (prepend [.ofNat n]) := by
  obtain ⟨a, b, c, d, ha, hb, hc, hd, hn, hh⟩ := exists_hex h
  rw [hh]
  simp [readString, hexValue_digitChar, ha, hb, hc, hd, hn]

theorem units_lt (p : CodePoint) : ∀ unit ∈ units p.val, unit < 0x10000 := by
  have hp : p.val < 0x110000 := by
    cases p with
    | scalar c =>
      have hc : c.toNat.isValidChar := c.valid
      simp only [Nat.isValidChar] at hc
      simp only [CodePoint.val]
      omega
    | surrogate n =>
      have := n.isLt
      simp only [CodePoint.val]
      omega
  intro unit hu
  unfold units at hu
  split at hu
  · simp only [List.mem_singleton] at hu
    omega
  · simp only [List.mem_cons, List.not_mem_nil, or_false] at hu
    omega

theorem prepend_prepend (s t : Text) (r : Option (Text × Text)) :
    (r.map (prepend t)).map (prepend s) = r.map (prepend (s ++ t)) := by
  cases r with
  | none => rfl
  | some r => simp [prepend]

theorem readString_units (us : List Nat) (hu : ∀ unit ∈ us, unit < 0x10000) (rest : Text) :
    readString .text ((us.flatMap fun unit => '\\' :: 'u' :: Quoted.hex 4 unit).map .scalar ++ rest) =
      (readString .text rest).map (prepend (us.map CodePoint.ofNat)) := by
  induction us with
  | nil =>
    simp only [List.flatMap_nil, List.map_nil, List.nil_append]
    cases readString .text rest <;> rfl
  | cons unit us ih =>
    rw [List.flatMap_cons, List.map_append, List.append_assoc, readString_unit (hu _ List.mem_cons_self),
      ih fun v hv => hu v (List.mem_cons_of_mem _ hv), prepend_prepend]
    rfl

theorem unitPoints_of_lt (h : p.val < 0x10000) : unitPoints p = [p] := by
  rw [unitPoints, units, if_pos h, List.map_singleton, CodePoint.ofNat_val]

/-- What a code point is written as is read as its units. -/
theorem readString_escape (p : CodePoint) (rest : Text) :
    readString .text ((escape p).map .scalar ++ rest) =
      (readString .text rest).map (prepend (unitPoints p)) := by
  unfold escape
  split
  · subst p
    rfl
  rename_i hq
  split
  · subst p
    rfl
  rename_i hb
  iterate 5
    split
    · subst p
      rfl
  split
  · rename_i h
    obtain ⟨c, rfl⟩ : ∃ c, p = .scalar c := by
      cases p with
      | scalar c => exact ⟨c, rfl⟩
      | surrogate n =>
        simp only [CodePoint.val] at h
        omega
    have hc : Char.ofNat (CodePoint.scalar c).val = c := Char.ofNat_toNat c
    rw [hc, List.map_singleton, List.singleton_append, readString, if_neg hq, if_neg hb,
      if_pos ⟨h.1, rfl⟩, unitPoints_of_lt (by omega)]
  · exact readString_units _ (units_lt p) rest

theorem readString_escapes (t rest : Text) :
    readString .text ((t.flatMap escape).map .scalar ++ .scalar '"' :: rest) =
      some (t.flatMap unitPoints, rest) := by
  induction t with
  | nil => rfl
  | cons p t ih =>
    rw [List.flatMap_cons, List.map_append, List.append_assoc, readString_escape, ih]
    rfl

/-- A character beyond U+FFFF has two surrogates for units, which are numbered by its quotient and its
remainder. -/
theorem exists_surrogates {c : Char} (h : ¬c.toNat < 0x10000) : ∃ high low : Fin 2048,
    unitPoints (.scalar c) = [.surrogate high, .surrogate low] ∧ high.val < 0x400 ∧ 0x400 ≤ low.val ∧
      0x10000 + high.val * 0x400 + (low.val - 0x400) = c.toNat := by
  have hc : c.toNat.isValidChar := c.valid
  simp only [Nat.isValidChar] at hc
  let high : Fin 2048 := ⟨(c.toNat - 0x10000) / 0x400, by omega⟩
  let low : Fin 2048 := ⟨0x400 + (c.toNat - 0x10000) % 0x400, by omega⟩
  have hunits : units c.toNat = [(CodePoint.surrogate high).val, (CodePoint.surrogate low).val] := by
    rw [units, if_neg h]
    simp only [CodePoint.val, high, low, List.cons.injEq, and_true, true_and]
    omega
  refine ⟨high, low, ?_, ?_, ?_, ?_⟩
  · show (units c.toNat).map CodePoint.ofNat = _
    rw [hunits, List.map_cons, List.map_singleton, CodePoint.ofNat_val, CodePoint.ofNat_val]
  · simp only [high]
    omega
  · simp only [low]
    omega
  · simp only [high, low]
    omega

/-- The units of a character are joined to the character, whatever follows. -/
theorem joinPairs_unitPoints (c : Char) (rest : Text) :
    joinPairs (unitPoints (.scalar c) ++ rest) = .scalar c :: joinPairs rest := by
  by_cases h : c.toNat < 0x10000
  · have hone : unitPoints (.scalar c) = [.scalar c] := unitPoints_of_lt h
    rw [hone]
    simp [joinPairs]
  · obtain ⟨high, low, hunits, hhigh, hlow, hsum⟩ := exists_surrogates h
    have hc : CodePoint.ofNat c.toNat = .scalar c := CodePoint.ofNat_val (.scalar c)
    rw [hunits]
    show joinPairs (.surrogate high :: .surrogate low :: rest) = _
    rw [joinPairs, if_pos ⟨hhigh, hlow⟩, hsum, hc]

theorem joinPairs_flatMap (s : List Char) :
    joinPairs ((s.map CodePoint.scalar).flatMap unitPoints) = s.map .scalar := by
  induction s with
  | nil => simp [joinPairs]
  | cons c s ih => rw [List.map_cons, List.flatMap_cons, joinPairs_unitPoints, ih]

/-! ## Arrays -/

theorem readString_render (s : String) (rest : Text) :
    readString .text (((Text.ofString s).flatMap escape ++ ['"']).map .scalar ++ rest) =
      some ((Text.ofString s).flatMap unitPoints, rest) := by
  rw [List.map_append, List.append_assoc]
  exact readString_escapes _ rest

theorem joinPairs_ofString (s : String) : joinPairs ((Text.ofString s).flatMap unitPoints) = Text.ofString s :=
  joinPairs_flatMap s.toList

theorem readItems_string (s : String) (fuel : Nat) (rest : Text) :
    readItems (fuel + 1) ((renderString (Text.ofString s)).map .scalar ++ rest) =
      match rest.dropWhile isBlank with
      | .scalar ']' :: rest => some ([Text.ofString s], rest)
      | .scalar ',' :: rest => do
        let (items, rest) ← readItems fuel rest
        pure (Text.ofString s :: items, rest)
      | _ => none := by
  have hopen : ((renderString (Text.ofString s)).map CodePoint.scalar ++ rest).dropWhile isBlank =
      .scalar '"' :: (((Text.ofString s).flatMap escape ++ ['"']).map .scalar ++ rest) := rfl
  rw [readItems, hopen]
  simp only [readString_render, joinPairs_ofString, Option.bind_eq_bind, Option.bind_some]

theorem readItems_space (fuel : Nat) (t : Text) : readItems fuel (.scalar ' ' :: t) = readItems fuel t := by
  cases fuel with
  | zero => rfl
  | succ fuel =>
    have hspace : (CodePoint.scalar ' ' :: t).dropWhile isBlank = t.dropWhile isBlank := rfl
    rw [readItems, hspace, readItems]

/-- The written strings of an array are read up to the bracket after them. -/
theorem readItems_render {items : List String} (hne : items ≠ []) {fuel : Nat} (hf : items.length ≤ fuel)
    (rest : Text) :
    readItems fuel (([',', ' '].intercalate (items.map fun s => renderString (Text.ofString s))).map .scalar ++
        .scalar ']' :: rest) = some (items.map Text.ofString, rest) := by
  induction items generalizing fuel with
  | nil => exact absurd rfl hne
  | cons s items ih =>
    obtain ⟨fuel, rfl⟩ : ∃ k, fuel = k + 1 := Nat.exists_eq_add_one.2 (Nat.lt_of_lt_of_le (by simp) hf)
    rw [List.length_cons, Nat.add_le_add_iff_right] at hf
    cases items with
    | nil =>
      rw [List.map_singleton, List.intercalate_singleton, readItems_string]
      rfl
    | cons next items =>
      have hrest := ih (List.cons_ne_nil next items) hf
      rw [List.map_cons] at hrest ⊢
      rw [List.map_cons, List.intercalate_cons_cons, List.map_append, List.map_append, List.append_assoc,
        List.append_assoc, readItems_string]
      show (do
        let (items, rest) ← readItems fuel (CodePoint.scalar ' ' :: (_ ++ CodePoint.scalar ']' :: rest))
        pure (Text.ofString s :: items, rest)) = _
      rw [readItems_space, hrest]
      rfl

theorem length_le_length_intercalate (joint : List Char) (items : List String) :
    items.length ≤ (joint.intercalate (items.map fun s => renderString (Text.ofString s))).length := by
  induction items with
  | nil => exact Nat.zero_le _
  | cons s items ih =>
    have hs : 0 < (renderString (Text.ofString s)).length := by simp [renderString]
    cases items with
    | nil =>
      rw [List.map_singleton, List.intercalate_singleton]
      exact hs
    | cons next items =>
      rw [List.map_cons] at ih ⊢
      rw [List.map_cons, List.intercalate_cons_cons, List.length_cons, List.length_append, List.length_append]
      omega

theorem exists_cons_intercalate (joint : List Char) (s : String) (items : List String) : ∃ more,
    joint.intercalate ((s :: items).map fun s => renderString (Text.ofString s)) = '"' :: more := by
  cases items with
  | nil => exact ⟨_, List.intercalate_singleton ..⟩
  | cons next items => exact ⟨_, List.intercalate_cons_cons ..⟩

theorem readElements_render (items : List String) (rest : Text) :
    readElements (([',', ' '].intercalate (items.map fun s => renderString (Text.ofString s))).map .scalar ++
        .scalar ']' :: rest) = some (items.map Text.ofString, rest) := by
  cases items with
  | nil => rfl
  | cons s items =>
    have hlength := length_le_length_intercalate [',', ' '] (s :: items)
    rw [readElements]
    split
    · rename_i heq
      obtain ⟨more, hmore⟩ := exists_cons_intercalate [',', ' '] s items
      rw [hmore] at heq
      cases heq
    · refine readItems_render (List.cons_ne_nil s items) ?_ rest
      rw [List.length_append, List.length_map]
      omega

/-- An array that is written is read as its strings, a line end after it notwithstanding. -/
theorem readArray_renderArray (items : List String) :
    readArray (Text.ofString (renderArray items ++ "\n")) = some (items.map Text.ofString) := by
  have htext : Text.ofString (renderArray items ++ "\n") = .scalar '[' ::
      (([',', ' '].intercalate (items.map fun s => renderString (Text.ofString s))).map .scalar ++
        [.scalar ']', .scalar '\n']) := by
    simp [Text.ofString, renderArray]
  rw [htext]
  show (do
    let (items, rest) ← readElements _
    if rest.all isBlank then some items else none) = _
  rw [readElements_render]
  rfl

theorem dropSequences_renderArray (items : List String) :
    Terminal.dropSequences (Text.ofString (renderArray items ++ "\n")) =
      Text.ofString (renderArray items ++ "\n") := by
  refine Terminal.dropSequences_of_no_escape fun h => ?_
  obtain ⟨c, hc, he⟩ := List.mem_map.1 h
  obtain rfl := CodePoint.scalar.inj he
  rw [String.toList_append, List.mem_append] at hc
  obtain hc | hc := hc
  · exact absurd (isPrintable_of_mem_renderArray hc) (by decide)
  · exact absurd hc (by decide)

end SbtWorkspace.Json
