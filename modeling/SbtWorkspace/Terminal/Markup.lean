import SbtWorkspace.Terminal.Handler
import SbtWorkspace.Terminal.Paragraph
import SbtWorkspace.Terminal.Style

/-! Marked-up text. A tag stands between brackets and starts with a small ASCII letter, `#`, `/` or
`@`; other brackets are text. Backslashes before a tag count in pairs for one, and one left over makes
the tag text. A closing tag needs an open one. The style of a tag holds from the tag to the one that closes
it, or to the end of the text. -/

namespace SbtWorkspace.Terminal.Markup

/-- Why a text cannot be shown: a closing tag closes nothing, the parameters of a handler or a number in a
style cannot be read, or a line cannot be cut to its width. -/
inductive Error where
  | nothingOpen (position : Nat)
  | notOpen (position : Nat) (tag : Text)
  | parameters (error : Handler.Error)
  | number (fault : NumberFault)
  | cut (fault : CutFault)
  deriving DecidableEq

/-- The wording of a refusal. -/
def Error.message : Error → Text
  | nothingOpen position =>
    Text.ofString s!"closing tag '[/]' at position {position} has nothing to close"
  | notOpen position tag =>
    Text.ofString "closing tag '[" ++ tag ++
      Text.ofString s!"]' at position {position} doesn't match any open tag"
  | parameters error => Text.ofString error.message
  | number fault => Text.ofString fault.message
  | cut fault => Text.ofString fault.message

def isTagStart (c : CodePoint) : Bool :=
  (0x61 ≤ c.val && c.val ≤ 0x7a) || c = '#' || c = '/' || c = '@'

def tagHere? (t : Text) : Option (Nat × Text) :=
  let slashes := (t.takeWhile (· = .scalar '\\')).length
  match t.drop slashes with
  | .scalar '[' :: c :: rest =>
    if isTagStart c then
      let more := rest.takeWhile fun d => d ≠ .scalar ']' ∧ d ≠ .scalar '['
      match rest.drop more.length with
      | .scalar ']' :: _ => some (slashes, c :: more)
      | _ => none
    else none
  | _ => none

/-- Text between tags, where a backslash before a bracket does not count. -/
def plain : Text → Text
  | .scalar '\\' :: .scalar '[' :: rest => .scalar '[' :: plain rest
  | c :: rest => c :: plain rest
  | [] => []

/-- A piece of marked-up text: plain text, or a tag with its position. -/
inductive Piece where
  | text (t : Text)
  | tag (position : Nat) (content : Text)
  deriving DecidableEq

/-- The pieces of a text from a position on, of which `skip` code points are read and `before` is plain
text that is not in a piece yet, last code point first. -/
def piecesFrom (position skip : Nat) (before : Text) : Text → List Piece
  | [] => [.text (plain before.reverse)]
  | c :: rest =>
    if skip ≠ 0 then piecesFrom (position + 1) (skip - 1) before rest
    else match tagHere? (c :: rest) with
      | none => piecesFrom (position + 1) 0 (c :: before) rest
      | some (slashes, content) =>
        let length := slashes + content.length + 2
        let kept : Text := List.replicate (slashes / 2) '\\'
        let piece :=
          if slashes % 2 = 1 then
            Piece.text ([CodePoint.scalar '['] ++ content ++ [CodePoint.scalar ']'])
          else .tag (position + slashes) content
        .text (plain before.reverse) :: .text kept :: piece
          :: piecesFrom (position + 1) (length - 1) [] rest

def pieces (t : Text) : List Piece := piecesFrom 0 0 [] t

def isTerminalControl (c : CodePoint) : Bool :=
  c.val = 7 || c.val = 8 || c.val = 11 || c.val = 12 || c.val = 13

/-- A tag that is open: the normal form of its style, what follows its name after an equals sign, and
where it stands in the shown text. -/
structure Opened where
  name : Text
  parameters : Option Text
  start : Nat

namespace Opened

def ofContent (start : Nat) (content : Text) : Except Error Opened := do
  let name := content.takeWhile (· ≠ .scalar '=')
  let parameters := if name.length = content.length then none else some (content.drop (name.length + 1))
  match Style.normalize name with
  | .ok name => pure { name, parameters, start }
  | .error fault => throw (.number fault)

def isHandler (o : Opened) : Bool := o.name.head? = some (.scalar '@')

/-- The part in the style of a tag. Its parameters count as words of the style. -/
def span (o : Opened) (stop : Nat) : Span where
  start := o.start
  stop := stop
  style := o.name ++ ((o.parameters.map fun p => CodePoint.scalar ' ' :: p).getD [])

/-- The part in the style of a tag that is closed. A handler has no style, but its parameters are
read. -/
def close (o : Opened) (stop : Nat) : Except Error (List Span) :=
  if o.isHandler then
    match Handler.read (o.parameters.getD []) with
    | .ok () => .ok [⟨o.start, stop, []⟩]
    | .error e => .error (.parameters e)
  else .ok [o.span stop]

end Opened

/-- The text of pieces after `length` code points of it, where the tags of `opened` are open, the last one
first. Its parts are in the order in which they end. -/
def showPieces (length : Nat) (opened : List Opened) : List Piece → Except Error Styled
  | [] => .ok ⟨[], opened.map (·.span length)⟩
  | .text t :: rest => do
    let t := t.filter (!isTerminalControl ·)
    let shown ← showPieces (length + t.length) opened rest
    pure { shown with text := t ++ shown.text }
  | .tag position content :: rest =>
    match content with
    | .scalar '/' :: name => do
      let closed ← match Text.trim (name.takeWhile (· ≠ .scalar '=')) with
        | [] =>
          match opened with
          | [] => .error (.nothingOpen position)
          | o :: _ => .ok o.name
        | name => (Style.normalize name).mapError .number
      match opened.find? (·.name = closed) with
      | none => .error (.notOpen position content)
      | some o =>
        let spans ← o.close length
        let shown ← showPieces length (opened.eraseP (·.name = closed)) rest
        pure { shown with spans := spans ++ shown.spans }
    | content => do
      let o ← Opened.ofContent length content
      showPieces length (o :: opened) rest

/-- What marked-up text shows. Its parts are in the order in which they begin, and of those that begin
together the one that ends last is first. -/
def render (t : Text) : Except Error Styled := do
  let shown ← showPieces 0 [] (pieces t)
  pure { shown with spans := shown.spans.reverse.mergeSort fun a b => a.start ≤ b.start }

/-- Looks up the styles of the parts of a text. One that is not defined counts as the plain style. -/
def checkStyles (t : Styled) : Except Error Unit :=
  t.spans.forM fun span => ((Style.parse span.style).map fun _ => ()).mapError .number

end SbtWorkspace.Terminal.Markup
