import SbtWorkspace.Terminal.Markup
import SbtWorkspace.Terminal.Paragraph

/-! Tables of two columns with a title, drawn with a heavy head. The first column keeps its lines
whole; the second one gives way when the table is wider than the terminal, and only then the first.
Main statement: a table is no wider than a terminal that has room for its rules (`tableWidth_le`). -/

namespace SbtWorkspace.Terminal

/-- A table: its title, the heads of its columns and its rows, all as marked-up text. -/
structure Table where
  title : Text
  heads : Text × Text
  rows : List (Text × Text)

namespace Table

def ruleWidth : Nat := 3

/-- The cells of a column that the spaces beside the text take. -/
def marginWidth : Nat := 2

def isLineEnd (c : CodePoint) : Bool :=
  [0x0a, 0x1c, 0x1d, 0x1e, 0x85, 0x2028, 0x2029].contains c.val

def naturalWidth (t : Text) : Nat :=
  let unified := t.map fun c => if isLineEnd c then .scalar '\n' else c
  ((List.splitOn (.scalar '\n') unified).map Text.width).foldl max 0

/-- The width that a column asks for where it may take `room`. -/
def measure (room : Nat) (texts : List Text) : Nat :=
  if room ≤ marginWidth then room
  else (texts.map fun t => min room (naturalWidth t + marginWidth)).foldl max 0

theorem foldl_max_le {l : List Nat} {a bound : Nat} (ha : a ≤ bound) (h : ∀ x ∈ l, x ≤ bound) :
    l.foldl max a ≤ bound := by
  induction l generalizing a with
  | nil => exact ha
  | cons x l ih =>
    exact ih (Nat.max_le.2 ⟨ha, h x (by simp)⟩) fun y hy => h y (by simp [hy])

theorem measure_le (room : Nat) (texts : List Text) : measure room texts ≤ room := by
  unfold measure
  split
  · exact Nat.le_refl _
  · refine foldl_max_le (Nat.zero_le _) fun x hx => ?_
    obtain ⟨t, _, rfl⟩ := List.mem_map.1 hx
    exact Nat.min_le_left ..

def columnWidths (terminal : Nat) (first second : List Text) : Nat × Nat :=
  let room := terminal - ruleWidth
  let asked := (max 1 (measure room first), max 1 (measure room second))
  if asked.1 + asked.2 ≤ room then asked
  else
    let given := min asked.1 room
    (measure given first, measure (room - given) second)

theorem tableWidth_le {terminal : Nat} (h : ruleWidth ≤ terminal) (first second : List Text) :
    (columnWidths terminal first second).1 + (columnWidths terminal first second).2 + ruleWidth ≤
      terminal := by
  unfold columnWidths
  simp only
  split
  · simp only
    omega
  · have h₁ := measure_le (min (max 1 (measure (terminal - ruleWidth) first)) (terminal - ruleWidth)) first
    have h₂ := measure_le (terminal - ruleWidth -
      min (max 1 (measure (terminal - ruleWidth) first)) (terminal - ruleWidth)) second
    simp only
    omega

/-- The lines of a laid out text as pieces, after a look at their styles. -/
def checkedPieces (lines : Except CutFault (List Styled)) : Except Markup.Error (List (List Text)) := do
  let lines ← lines.mapError .cut
  lines.forM Markup.checkStyles
  pure (lines.map Styled.pieces)

/-- The lines of a cell with a space at both sides, as pieces. A column without room for text shows
none. -/
def cellLines (width : Nat) (layout : Nat → Except CutFault (List Styled)) :
    Except Markup.Error (List (List Text)) := do
  if width ≤ marginWidth then pure []
  else
    let space : Text := [CodePoint.scalar ' ']
    let lines ← checkedPieces (layout (width - marginWidth))
    let inner ← (lines.mapM (fit true (width - marginWidth))).mapError .cut
    let outer ← (inner.mapM fun line => fit true width (space :: line ++ [space])).mapError .cut
    (outer.mapM (fit true width)).mapError .cut

def rowLines (rule : Char) (widths : Nat × Nat) (row : Styled × Styled) :
    Except Markup.Error (List (List Text)) := do
  let first ← cellLines widths.1 fun width => row.1.wrapNot width
  let second ← cellLines widths.2 fun width => row.2.wrap true width .ellipsis
  let blank (width : Nat) : List Text := [List.replicate width (.scalar ' ')]
  let line : List Text := [[CodePoint.scalar rule]]
  pure ((List.range (max 1 (max first.length second.length))).map fun i =>
    line ++ first.getD i (blank widths.1) ++ line ++ second.getD i (blank widths.2) ++ line)

def border (left line joint right : Char) (widths : Nat × Nat) : Text :=
  Text.ofString (String.ofList
    ([left] ++ List.replicate widths.1 line ++ [joint] ++ List.replicate widths.2 line ++ [right]))

def columnTexts (terminal : Nat) (cells : List Text) : Except Markup.Error (List Styled) :=
  if terminal ≤ ruleWidth + marginWidth then pure (cells.map fun _ => ⟨[], []⟩)
  else cells.mapM Markup.render

/-- The lines of a table on a terminal of the given width. -/
def lines (terminal : Nat) (table : Table) : Except Markup.Error (List Text) := do
  let first ← columnTexts terminal (table.heads.1 :: table.rows.map (·.1))
  let second ← columnTexts terminal (table.heads.2 :: table.rows.map (·.2))
  let title ← Markup.render table.title
  let widths := columnWidths terminal (first.map (·.text)) (second.map (·.text))
  let width := widths.1 + widths.2 + ruleWidth
  let titles ← (title.wrap false width .fold).mapError .cut
  let titles ← (titles.mapM (Styled.center width)).mapError .cut
  let rows := first.zip second
  let heads ← (rows.take 1).mapM (rowLines '┃' widths)
  let body ← (rows.drop 1).mapM (rowLines '│' widths)
  let drawn :=
    titles.map ([·])
    ++ [[border '┏' '━' '┳' '┓' widths]]
    ++ heads.flatten
    ++ [[border '┡' '━' '╇' '┩' widths]]
    ++ body.flatten
    ++ [[border '└' '─' '┴' '┘' widths]]
  let fitted ← (drawn.mapM (fit false terminal)).mapError .cut
  pure (fitted.map List.flatten)

end Table

def messageLines (terminal : Nat) (message : Text) : Except Markup.Error (List Text) := do
  let shown ← Markup.render message
  let lines ← Table.checkedPieces (shown.wrap false terminal .fold)
  let fitted ← (lines.mapM (fit false terminal)).mapError .cut
  pure (fitted.map List.flatten)

/-- Lines as they are sent to a terminal. -/
def joinLines (lines : List Text) : Text := lines.flatMap (· ++ [CodePoint.scalar '\n'])

end SbtWorkspace.Terminal
