import SbtWorkspace.Text.Blank
import SbtWorkspace.Text.CodePoint

/-! Texts and the styles of their parts. What is done to a text is done to the parts with it: a part that
is divided goes on in the next line, and one of which nothing is left goes away. A text that is not divided
keeps its parts, those of no code points among them. Main statement: the lines of a divided text hold its
code points in order (`flatMap_text_divide`). -/

namespace SbtWorkspace.Terminal

/-- A part of a text and the definition of its style. -/
structure Span where
  start : Nat
  stop : Nat
  style : Text

namespace Span

/-- What of a part stands between two positions, counted from the first of them. -/
def clip? (first last : Nat) (s : Span) : Option Span :=
  let start := max s.start first - first
  let stop := min s.stop last - first
  if start < stop then some { s with start, stop } else none

def shift (n : Nat) (s : Span) : Span := { s with start := s.start + n, stop := s.stop + n }

end Span

structure Styled where
  text : Text
  spans : List Span := []

namespace Styled

/-- The lines of a text that begins at a position, cut at positions in increasing order. -/
def cutAt (base : Nat) (t : Text) (spans : List Span) : List Nat → List Styled
  | [] => [⟨t, spans.filterMap (Span.clip? base (base + t.length))⟩]
  | p :: rest =>
    ⟨t.take (p - base), spans.filterMap (Span.clip? base p)⟩ :: cutAt p (t.drop (p - base)) spans rest

def divide (t : Styled) (positions : List Nat) : List Styled :=
  if positions = [] then [t] else cutAt 0 t.text t.spans positions

theorem flatMap_text_cutAt (base : Nat) (t : Text) (spans : List Span) (ps : List Nat) :
    (cutAt base t spans ps).flatMap text = t := by
  induction ps generalizing base t with
  | nil => simp [cutAt]
  | cons p ps ih => simp [cutAt, ih]

/-- Dividing loses nothing. -/
theorem flatMap_text_divide (t : Styled) (ps : List Nat) : (t.divide ps).flatMap text = t.text := by
  unfold divide
  split
  · simp
  · exact flatMap_text_cutAt 0 t.text t.spans ps

def around (c : CodePoint) (position : Nat) : Text → List Nat
  | [] => []
  | d :: rest =>
    (if d = c then [position, position + 1] else []) ++ around c (position + 1) rest

/-- The positions after each code point of a kind. -/
def after (c : CodePoint) (position : Nat) : Text → List Nat
  | [] => []
  | d :: rest => (if d = c then [position + 1] else []) ++ after c (position + 1) rest

/-- The lines of a text between its line ends. -/
def lines (t : Styled) : List Styled :=
  (t.divide (around (.scalar '\n') 0 t.text)).filter fun l => l.text ≠ [.scalar '\n']

/-- The first code points of a text. -/
def keep (n : Nat) (t : Styled) : Styled where
  text := t.text.take n
  spans := (t.spans.filter fun s => s.start < n).map fun s => { s with stop := min s.stop n }

def withText (t : Styled) (text : Text) : Styled :=
  if text.length < t.text.length then { t.keep text.length with text } else { t with text }

/-- The text with spaces at its end, which go on with what reaches the end. -/
def extend (n : Nat) (t : Styled) : Styled where
  text := t.text ++ List.replicate n (.scalar ' ')
  spans := t.spans.map fun s =>
    if t.text.length ≤ s.stop then { s with stop := s.stop + n } else s

/-- Texts one after the other. -/
def join : List Styled → Styled
  | [] => ⟨[], []⟩
  | t :: rest =>
    let more := join rest
    ⟨t.text ++ more.text, t.spans ++ more.spans.map (·.shift t.text.length)⟩

def pieces (t : Styled) : List Text :=
  let positions := ((t.spans.flatMap fun s => [s.start, s.stop]).mergeSort (· ≤ ·)).eraseDups
  ((cutAt 0 t.text [] positions).map text).filter (· ≠ [])

end Styled

end SbtWorkspace.Terminal
