import SbtWorkspace.Terminal.ColorName
import SbtWorkspace.Text.Blank
import SbtWorkspace.Text.Case
import SbtWorkspace.Text.Digit
import SbtWorkspace.Text.Numeral

/-! Styles that tags of marked-up text name. Of a style only its normal form matters: a closing tag
closes the last open tag whose style has the same one. Attributes come first, in a fixed order and
under their long names, then the colour, the background and the link. -/

namespace SbtWorkspace.Terminal

def words (t : Text) : List Text :=
  (t.splitBy fun c d => c.isBlank == d.isBlank).filter fun run => !run.all CodePoint.isBlank

def attributes : List (String × List String) :=
  [("bold", ["b"]), ("dim", ["d"]), ("italic", ["i"]), ("underline", ["u"]), ("blink", []),
    ("blink2", []), ("reverse", ["r"]), ("conceal", ["c"]), ("strike", ["s"]),
    ("underline2", ["uu"]), ("frame", []), ("encircle", []), ("overline", ["o"])]

def attribute? (word : String) : Option String :=
  (attributes.find? fun a => a.1 = word || a.2.contains word).map (·.1)

/-- Why a part of a colour is no number. -/
inductive NumberFault where
  | empty
  | tooManyDigits (count : Nat)
  deriving DecidableEq

/-- The wording of a fault. -/
def NumberFault.message : NumberFault → String
  | empty => Numeral.notANumeral "\x27\x27"
  | tooManyDigits count => Numeral.tooManyDigits count

def readNumber (digits : List Nat) : Except NumberFault Nat :=
  if digits = [] then .error .empty
  else if Numeral.maxDigits < digits.length then .error (.tooManyDigits digits.length)
  else .ok (Numeral.ofDigits 10 digits)

def argument? (name : String) (t : Text) : Option Text :=
  let start := Text.ofString name ++ [CodePoint.scalar '(']
  if start.isPrefixOf t ∧ t.getLast? = some (CodePoint.scalar ')') then
    some ((t.drop start.length).dropLast)
  else none

def isPlainDigit (c : CodePoint) : Bool := 0x30 ≤ c.val && c.val ≤ 0x39

def isHexDigit (c : CodePoint) : Bool := isPlainDigit c || (0x61 ≤ c.val && c.val ≤ 0x66)

def isPaletteNumber (argument : Text) : Bool :=
  1 ≤ argument.length && argument.length ≤ 3 && argument.all isPlainDigit
    && Numeral.ofDigits 10 (argument.filterMap CodePoint.decimal?) ≤ 255

/-- Whether the argument names a colour by its three parts. One that is made of digits and commas and has
three parts is read, and a part that is no number is a fault. -/
def isTriple (argument : Text) : Except NumberFault Bool :=
  let comma : CodePoint := .scalar ','
  if argument = [] ∨ !argument.all fun c => c.decimal?.isSome || c = comma then .ok false
  else
    match (List.splitOn comma argument).map (·.filterMap CodePoint.decimal?) with
    | [red, green, blue] => do
      let parts := [← readNumber red, ← readNumber green, ← readNumber blue]
      pure (parts.all (· ≤ 255))
    | _ => .ok false

/-- Whether a word names a colour: by its name, six hexadecimal digits, its number in the palette or its
three parts. -/
def isColor (word : Text) : Except NumberFault Bool :=
  let word := word.lower
  let hexadecimal := match word with
    | .scalar '#' :: digits => digits.length = 6 && digits.all isHexDigit
    | _ => false
  if hexadecimal || word.toString?.any colorNames.contains
      || (argument? "color" word).any isPaletteNumber then .ok true
  else match argument? "rgb" word with
    | some argument => isTriple argument
    | none => .ok false

/-- A style: the attributes that it turns on or off, its colours and its link. -/
structure Style where
  attributes : List (String × Bool) := []
  color : Option Text := none
  background : Option Text := none
  link : Option Text := none

namespace Style

def withAttribute (s : Style) (name : String) (on : Bool) : Style :=
  { s with attributes := (name, on) :: s.attributes.filter fun a => a.1 ≠ name }

/-- Adds the words of a definition to a style; `none` if a word means nothing. -/
def addWords : Style → List Text → Except NumberFault (Option Style)
  | s, [] => .ok (some s)
  | s, word :: rest =>
    let name := (word.lower.toString?).getD ""
    if name = "on" then
      match rest with
      | color :: rest => do
        if ← isColor color then addWords { s with background := some color.lower } rest
        else pure none
      | [] => .ok none
    else if name = "not" then
      match rest with
      | negated :: rest =>
        match negated.toString?.bind attribute? with
        | some a => addWords (s.withAttribute a false) rest
        | none => .ok none
      | [] => .ok none
    else if name = "link" then
      match rest with
      | link :: rest => addWords { s with link := some link } rest
      | [] => .ok none
    else
      match attribute? name with
      | some a => addWords (s.withAttribute a true) rest
      | none => do
        if ← isColor word then addWords { s with color := some word.lower } rest else pure none

/-- The style that a text defines; one of no words defines the plain style. -/
def parse (definition : Text) : Except NumberFault (Option Style) :=
  if definition.trim = Text.ofString "none" then .ok (some {})
  else addWords {} (words definition)

/-- The words of the normal form. -/
def render (s : Style) : List Text :=
  (Terminal.attributes.flatMap fun a =>
    match s.attributes.find? fun b => b.1 = a.1 with
    | some (name, true) => [Text.ofString name]
    | some (name, false) => [Text.ofString "not", Text.ofString name]
    | none => [])
  ++ s.color.toList
  ++ (s.background.map fun c => [Text.ofString "on", c]).getD []
  ++ (s.link.map fun l => [Text.ofString "link", l]).getD []

/-- The normal form of the style that a text defines; a text that defines none is its own, in small
letters. -/
def normalize (definition : Text) : Except NumberFault Text := do
  match ← parse definition with
  | some s =>
    match s.render with
    | [] => pure (Text.ofString "none")
    | names => pure ([CodePoint.scalar ' '].intercalate names)
  | none => pure definition.trim.lower

end Style

end SbtWorkspace.Terminal
