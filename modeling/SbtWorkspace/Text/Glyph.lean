import SbtWorkspace.Text.Width
import SbtWorkspace.Total

/-! Texts as a terminal shows them. A joiner hides the code point after it, and a selector makes the
code point before it an emoji of two cells, so the width of a text is not a sum over its code points.
A glyph is a code point with what is shown in its place. Main statements: a text without joiners and
selectors is as wide as its code points (`Text.width_eq_total`), and the glyphs hold the text in order
(`Text.flatten_glyphs`). -/

namespace SbtWorkspace

/-- The joiner U+200D: the code point after it is shown in the place of the one before. -/
def joiner : CodePoint := .scalar '\u200d'

def emojiSelector : CodePoint := .scalar '\ufe0f'

/-- Whether a selector still widens the text, after one more code point. Marks leave it as it is. -/
def CodePoint.selectableAfter (c : CodePoint) (selectable : Bool) : Bool :=
  if c.width = 0 then selectable else c.isSelectable

namespace Text

/-- The cells that a text takes. `joined` says whether a joiner stands before it, and `selectable`
whether a selector would widen what stands before it. -/
def widthFrom (joined selectable : Bool) : Text → Nat
  | [] => 0
  | c :: rest =>
    if joined then widthFrom false selectable rest
    else if c = joiner then widthFrom true selectable rest
    else if c = emojiSelector then (if selectable then 1 else 0) + widthFrom false false rest
    else c.width + widthFrom false (c.selectableAfter selectable) rest

def width (t : Text) : Nat := widthFrom false false t

@[simp] theorem width_nil : width [] = 0 := rfl

theorem widthFrom_eq_total {t : Text} (selectable : Bool)
    (h : ∀ c ∈ t, c ≠ joiner ∧ c ≠ emojiSelector) :
    widthFrom false selectable t = total CodePoint.width t := by
  induction t generalizing selectable with
  | nil => rfl
  | cons c t ih =>
    have hc := h c (by simp)
    simp [widthFrom, hc.1, hc.2, ih _ fun d hd => h d (by simp [hd])]

theorem width_eq_total {t : Text} (h : ∀ c ∈ t, c ≠ joiner ∧ c ≠ emojiSelector) :
    t.width = total CodePoint.width t :=
  widthFrom_eq_total false h

end Text

/-- Code points that are shown in one place, and the cells that they take. -/
structure Glyph where
  text : Text
  width : Nat

namespace Text

def glyphsFrom (text : Text) (width : Nat) (joined selectable : Bool) : Text → List Glyph
  | [] => [⟨text, width⟩]
  | c :: rest =>
    if joined then glyphsFrom (text ++ [c]) width false selectable rest
    else if c = joiner then glyphsFrom (text ++ [c]) width true selectable rest
    else if c = emojiSelector then
      glyphsFrom (text ++ [c]) (if selectable then width + 1 else width) false false rest
    else if c.width = 0 then glyphsFrom (text ++ [c]) width false selectable rest
    else ⟨text, width⟩ :: glyphsFrom [c] c.width false c.isSelectable rest

/-- The glyphs of a text. Marks without a code point before them, and a joiner or a selector at the
beginning, make a glyph of no cells. -/
def glyphs : Text → List Glyph
  | [] => []
  | c :: rest => glyphsFrom [c] c.width false c.isSelectable rest

theorem flatten_glyphsFrom (text : Text) (width : Nat) (joined selectable : Bool) (t : Text) :
    (glyphsFrom text width joined selectable t).flatMap Glyph.text = text ++ t := by
  fun_induction glyphsFrom text width joined selectable t <;> simp_all

/-- Glyphs leave nothing out. -/
theorem flatten_glyphs (t : Text) : t.glyphs.flatMap Glyph.text = t := by
  cases t with
  | nil => rfl
  | cons c t => simp [glyphs, flatten_glyphsFrom]

end Text

end SbtWorkspace
