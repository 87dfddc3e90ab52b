import SbtWorkspace.Terminal.Escape
import SbtWorkspace.Text.Json

/-! JSON is written in printable ASCII: whatever the strings hold, nothing else is between the ends of lines. So
no terminal takes a part of it for a control sequence. Main statements: `isPrintable_of_mem_renderArray`,
`isPrintable_of_mem_renderObject` and `dropSequences_renderObject`. -/

namespace SbtWorkspace.Json

def IsPrintable (c : Char) : Prop := 0x20 ≤ c.toNat ∧ c.toNat < 0x7f

instance (c : Char) : Decidable (IsPrintable c) := inferInstanceAs (Decidable (_ ∧ _))

variable {c : Char} {n : Nat}

/-! ## Digits -/

theorem exists_eq_digitChar_of_mem {base fuel : Nat} {digits : List Char}
    (h : c ∈ Nat.toDigitsCore base fuel n digits) : (∃ k, c = Nat.digitChar k) ∨ c ∈ digits := by
  induction fuel generalizing n digits with
  | zero => exact .inr h
  | succ fuel ih =>
    rw [Nat.toDigitsCore] at h
    split at h
    · exact (List.mem_cons.1 h).imp (fun hc => ⟨_, hc⟩) id
    · obtain hk | hc := ih h
      · exact .inl hk
      · exact (List.mem_cons.1 hc).imp (fun hc => ⟨_, hc⟩) id

theorem isPrintable_digitChar (k : Nat) : IsPrintable k.digitChar := by
  by_cases hk : k < 16
  · have hall : ∀ k < 16, IsPrintable (Nat.digitChar k) := by decide
    exact hall k hk
  · rw [Nat.digitChar_eq_star.2 (Nat.le_of_not_lt hk)]
    decide

theorem isPrintable_of_mem_hex {width : Nat} (h : c ∈ Quoted.hex width n) : IsPrintable c := by
  simp only [Quoted.hex, List.mem_append, List.mem_replicate] at h
  obtain ⟨-, rfl⟩ | h := h
  · decide
  · obtain ⟨k, rfl⟩ | h := exists_eq_digitChar_of_mem h
    · exact isPrintable_digitChar k
    · cases h

/-! ## Strings -/

theorem isPrintable_of_mem_escape {p : CodePoint} (h : c ∈ escape p) : IsPrintable c := by
  -- the escapes of two characters come first
  have two {d e : Char} (hd : IsPrintable d) (he : IsPrintable e) (h : c ∈ [d, e]) : IsPrintable c := by
    simp only [List.mem_cons, List.not_mem_nil, or_false] at h
    obtain rfl | rfl := h <;> assumption
  unfold escape at h
  iterate 7
    split at h
    · exact two (by decide) (by decide) h
  split at h
  · rename_i hp
    obtain rfl := List.mem_singleton.1 h
    have hv : p.val.isValidChar := .inl (by omega)
    rw [IsPrintable, CodePoint.toNat_ofNat hv]
    exact hp
  · obtain ⟨unit, -, h⟩ := List.mem_flatMap.1 h
    simp only [List.mem_cons] at h
    obtain rfl | rfl | h := h
    · decide
    · decide
    · exact isPrintable_of_mem_hex h

theorem isPrintable_of_mem_renderString {t : Text} (h : c ∈ renderString t) : IsPrintable c := by
  simp only [renderString, List.mem_append, List.mem_cons, List.not_mem_nil, or_false] at h
  obtain (rfl | h) | rfl := h
  · decide
  · obtain ⟨p, -, h⟩ := List.mem_flatMap.1 h
    exact isPrintable_of_mem_escape h
  · decide

/-! ## Arrays and objects -/

/-- What joined lists hold stands in one of them or in what joins them. -/
theorem mem_of_mem_intercalate {α : Type} {x : α} {joint : List α} {parts : List (List α)}
    (h : x ∈ joint.intercalate parts) : x ∈ joint ∨ ∃ part ∈ parts, x ∈ part := by
  induction parts with
  | nil => cases h
  | cons part rest ih =>
    cases rest with
    | nil =>
      rw [List.intercalate_singleton] at h
      exact .inr ⟨part, List.mem_cons_self .., h⟩
    | cons next rest =>
      rw [List.intercalate_cons_cons, List.append_assoc, List.mem_append, List.mem_append] at h
      obtain h | h | h := h
      · exact .inr ⟨part, List.mem_cons_self .., h⟩
      · exact .inl h
      · exact (ih h).imp id fun ⟨other, ho, hx⟩ => ⟨other, List.mem_cons_of_mem _ ho, hx⟩

theorem isPrintable_of_mem_renderArray {items : List String} (h : c ∈ (renderArray items).toList) :
    IsPrintable c := by
  simp only [renderArray, String.toList_ofList, List.mem_append, List.mem_singleton] at h
  obtain (rfl | h) | rfl := h
  · decide
  · obtain h | ⟨part, hp, h⟩ := mem_of_mem_intercalate h
    · simp only [List.mem_cons, List.not_mem_nil, or_false] at h
      obtain rfl | rfl := h <;> decide
    · obtain ⟨item, -, rfl⟩ := List.mem_map.1 hp
      exact isPrintable_of_mem_renderString h
  · decide

theorem isPrintable_of_mem_render {value : Scalar} (h : c ∈ value.render) : IsPrintable c := by
  have hword {word : List Char} (hw : word.all (fun d => decide (IsPrintable d)) = true) (h : c ∈ word) :
      IsPrintable c := of_decide_eq_true (List.all_eq_true.1 hw c h)
  cases value with
  | null => exact hword (by decide) h
  | boolean b => cases b <;> exact hword (by decide) h
  | string t => exact isPrintable_of_mem_renderString h

theorem isPrintable_of_mem_renderField {field : String × Scalar} (h : c ∈ renderField field) :
    IsPrintable c := by
  simp only [renderField, List.mem_append, List.mem_cons, List.not_mem_nil, or_false] at h
  obtain (((rfl | rfl) | h) | rfl | rfl) | h := h
  · decide
  · decide
  · exact isPrintable_of_mem_renderString h
  · decide
  · decide
  · exact isPrintable_of_mem_render h

theorem isPrintable_of_mem_renderObject {fields : List (String × Scalar)}
    (h : c ∈ (renderObject fields).toList) : c = '\n' ∨ IsPrintable c := by
  simp only [renderObject, String.toList_ofList, List.mem_append, List.mem_cons, List.not_mem_nil,
    or_false] at h
  obtain ((rfl | rfl) | h) | rfl | rfl := h
  · decide
  · decide
  · obtain h | ⟨part, hp, h⟩ := mem_of_mem_intercalate h
    · simp only [List.mem_cons, List.not_mem_nil, or_false] at h
      obtain rfl | rfl := h <;> decide
    · obtain ⟨field, -, rfl⟩ := List.mem_map.1 hp
      exact .inr (isPrintable_of_mem_renderField h)
  · decide
  · decide

theorem dropSequences_renderObject (fields : List (String × Scalar)) :
    Terminal.dropSequences (Text.ofString (renderObject fields ++ "\n")) =
      Text.ofString (renderObject fields ++ "\n") := by
  refine Terminal.dropSequences_of_no_escape fun h => ?_
  obtain ⟨c, hc, he⟩ := List.mem_map.1 h
  obtain rfl := CodePoint.scalar.inj he
  rw [String.toList_append, List.mem_append] at hc
  obtain hc | hc := hc
  · exact absurd (isPrintable_of_mem_renderObject hc) (by decide)
  · exact absurd hc (by decide)

end SbtWorkspace.Json
