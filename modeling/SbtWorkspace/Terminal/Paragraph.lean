import SbtWorkspace.Terminal.Styled
import SbtWorkspace.Text.Glyph

/-! Text broken into lines of a given width. Lines break between words, where blanks after a word go
with it; what is wider than a line is folded, or cut with an ellipsis in a cell of a table. A glyph is
never divided. A joiner at the beginning of a text hides the code point after it from the width of the
text, but makes no glyph with it, so a text can be too wide for a line that its glyphs do not fill; such a
text cannot be cut. Main statement: the pieces of a folded word hold its code points in order
(`flatten_chop`). -/

namespace SbtWorkspace.Terminal

/-- What happens to a word that is wider than the line. -/
inductive Overflow where
  | fold
  | ellipsis
  deriving DecidableEq

/-- The words of a line, each with the blanks after it, the first one also with those before it.
Blanks without a word give none. -/
def wordsWithBlanks (line : Text) : List Text :=
  let lead := line.takeWhile CodePoint.isBlank
  let rec go (word blanks : Text) : Text → List Text
    | [] => if word = [] then [] else [word ++ blanks]
    | c :: rest =>
      if c.isBlank then go word (blanks ++ [c]) rest
      else if blanks = [] then go (word ++ [c]) [] rest
      else (word ++ blanks) :: go [c] [] rest
  match line.drop lead.length with
  | [] => []
  | c :: rest => go (lead ++ [c]) [] rest

/-- Joins glyphs to a piece as long as they fit the width, the piece so far being `used` cells wide. -/
def chopGlyphs (width : Nat) (piece : Text) (used : Nat) : List Glyph → List Text
  | [] => [piece]
  | g :: rest =>
    if width < used + g.width then piece :: chopGlyphs width g.text g.width rest
    else chopGlyphs width (piece ++ g.text) (used + g.width) rest

/-- Cuts a word into pieces of at most the given width. -/
def chop (width : Nat) (word : Text) : List Text := chopGlyphs width [] 0 word.glyphs

theorem flatten_chopGlyphs (width : Nat) (piece : Text) (used : Nat) (gs : List Glyph) :
    (chopGlyphs width piece used gs).flatten = piece ++ gs.flatMap Glyph.text := by
  fun_induction chopGlyphs width piece used gs <;> simp_all

/-- Folding loses nothing. -/
theorem flatten_chop (width : Nat) (word : Text) : (chop width word).flatten = word := by
  simp [chop, flatten_chopGlyphs, Text.flatten_glyphs]

def trimEnd (t : Text) : Text := dropEndWhile CodePoint.isBlank t

def foldStarts (start : Nat) : List Text → List Nat
  | [] => []
  | piece :: rest => (if start = 0 then [] else [start]) ++ foldStarts (start + piece.length) rest

/-- The pieces of a word that is folded; one whose glyphs take no cells has none. -/
def folded (width : Nat) (word : Text) : List Text :=
  if total Glyph.width word.glyphs = 0 then [] else chop width word

/-- Where lines begin, other than the first. `start` is where the next word begins, and `used` the cells
taken on its line so far. -/
def breaks (width : Nat) (overflow : Overflow) (start used : Nat) : List Text → List Nat
  | [] => []
  | word :: rest =>
    let next := start + word.length
    let core := (trimEnd word).width
    if used + core ≤ width then breaks width overflow next (used + word.width) rest
    else if width < core then
      match overflow with
      | .fold =>
        let pieces := folded width word
        foldStarts start pieces
          ++ breaks width overflow next ((pieces.getLast?.map Text.width).getD used) rest
      | .ellipsis =>
        (if start = 0 then [] else [start]) ++ breaks width overflow next word.width rest
    else if used ≠ 0 ∧ start ≠ 0 then start :: breaks width overflow next word.width rest
    else breaks width overflow next used rest

/-- Why a text cannot be cut to a width: its glyphs take no cells, or fewer than the width. -/
inductive CutFault where
  | noCells
  | tooFewCells
  deriving DecidableEq

/-- The wording of a fault. -/
def CutFault.message : CutFault → String
  | noCells => "division by zero"
  | tooFewCells => "list index out of range"

/-- The glyphs at the beginning that fill the given room, and spaces in place of one that is too wide
for the rest of it. -/
def takeGlyphs (room : Nat) : List Glyph → Text
  | [] => []
  | g :: rest =>
    if g.width ≤ room then g.text ++ takeGlyphs (room - g.width) rest
    else List.replicate room (.scalar ' ')

/-- The beginning of a text that takes the given width, of a text that is wider. -/
def takeCells (width : Nat) (t : Text) : Except CutFault Text :=
  let cells := total Glyph.width t.glyphs
  if width = 0 then .ok []
  else if cells = 0 then .error .noCells
  else if cells < width then .error .tooFewCells
  else .ok (takeGlyphs width t.glyphs)

def padTo (width : Nat) (t : Text) : Text :=
  t ++ List.replicate (width - t.width) (.scalar ' ')

def setWidth (width : Nat) (t : Text) : Except CutFault Text :=
  if width < t.width then takeCells width t else .ok (padTo width t)

/-- Pieces of a line in exactly the given width, or in no more than it. -/
def fit (pads : Bool) (width : Nat) (pieces : List Text) : Except CutFault (List Text) :=
  let cells := total Text.width pieces
  if width < cells then cut 0 pieces
  else .ok (if pads ∧ cells < width then pieces ++ [List.replicate (width - cells) (.scalar ' ')] else pieces)
where
  /-- The pieces after `used` cells, the last of which is cut. -/
  cut (used : Nat) : List Text → Except CutFault (List Text)
    | [] => .ok []
    | piece :: rest =>
      if used + piece.width < width then (piece :: ·) <$> cut (used + piece.width) rest
      else (fun t => [t]) <$> setWidth (width - used) piece

namespace Styled

def truncate (width : Nat) (overflow : Overflow) (t : Styled) : Except CutFault Styled :=
  if t.text.width ≤ width then .ok t
  else match overflow with
    | .fold => t.withText <$> setWidth width t.text
    | .ellipsis => (fun cut => t.withText (cut ++ [.scalar '…'])) <$> setWidth (width - 1) t.text

def justify (width : Nat) (overflow : Overflow) (t : Styled) : Except CutFault Styled :=
  if t.text.width < width then .ok { t with text := padTo width t.text } else t.truncate width overflow

/-- A line without as many of the blanks at its end as it has code points above the width. -/
def dropExcessBlanks (width : Nat) (t : Styled) : Styled :=
  let blanks := t.text.length - (trimEnd t.text).length
  let excess := min blanks (t.text.length - width)
  if excess = 0 then t else t.keep (t.text.length - excess)

def tabStop : Nat := 8

/-- The pieces that end in tabs, each with spaces in place of its tab up to the next stop. -/
def fillStops (used : Nat) : List Styled → List Styled
  | [] => []
  | piece :: rest =>
    match piece.text.getLast? with
    | some (.scalar '\t') =>
      let spaced : Styled := { piece with text := piece.text.dropLast ++ [.scalar ' '] }
      let reached := used + spaced.text.width
      let stop := (reached + tabStop - 1) / tabStop * tabStop
      spaced.extend (stop - reached) :: fillStops stop rest
    | _ => piece :: fillStops (used + piece.text.width) rest

def expandTabs (line : Styled) : Styled :=
  let tab : CodePoint := .scalar '\t'
  if tab ∈ line.text then
    join (fillStops 0 ((line.divide (after tab 0 line.text)).filter (·.text ≠ [])))
  else line

/-- The lines of a text, each made of one or more of its own; those for a cell of a table are justified. -/
def layOut (justifies : Bool) (width : Nat) (overflow : Overflow) (made : Styled → List Styled)
    (t : Styled) : Except CutFault (List Styled) := do
  let broken ← t.lines.mapM fun line => do
    let made := (made line.expandTabs).map (dropExcessBlanks width)
    let justified ← if justifies then made.mapM (justify width overflow) else pure made
    justified.mapM (truncate width overflow)
  pure broken.flatten

def wrap (justifies : Bool) (width : Nat) (overflow : Overflow) : Styled → Except CutFault (List Styled) :=
  layOut justifies width overflow fun line =>
    line.divide (breaks width overflow 0 0 (wordsWithBlanks line.text))

/-- The lines of a text, each on one line of the given width whatever is cut off. -/
def wrapNot (width : Nat) : Styled → Except CutFault (List Styled) :=
  layOut true width .ellipsis fun line => [line]

def center (width : Nat) (line : Styled) : Except CutFault Text := do
  let line := (← (line.withText (trimEnd line.text)).truncate width .fold).text
  pure (padTo width (List.replicate ((width - line.width) / 2) (.scalar ' ') ++ line))

end Styled

end SbtWorkspace.Terminal
