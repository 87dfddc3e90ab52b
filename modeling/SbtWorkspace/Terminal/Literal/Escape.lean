import SbtWorkspace.Text.CharacterName
import SbtWorkspace.Text.Quoted

/-! Escapes in strings. A back slash stands for a character together with what follows it, and an escape that
breaks off is a fault. The place of a fault is told in a spelling of the string in which each character that
is not ASCII takes ten. Main statement: a string of ASCII without back slashes is spelled as it is
(`spelled_of_plain`) and has no fault (`textFault?_of_plain`). -/

namespace SbtWorkspace.Terminal.Literal

abbrev Fault := String

namespace Escape

def isWide (c : Char) : Bool := 128 ≤ c.toNat

def byNumber (c : Char) : List Char := '\\' :: 'U' :: Quoted.hex 8 c.toNat

/-- A string in ASCII. A back slash that ends it or stands before another sort of character means itself. -/
def spelled : List Char → List Char
  | [] => []
  | ['\\'] => ['\\', 'u', '0', '0', '5', 'c']
  | '\\' :: c :: rest =>
    (if isWide c then ['\\', 'u', '0', '0', '5', 'c'] ++ byNumber c else ['\\', c]) ++ spelled rest
  | c :: rest => (if isWide c then byNumber c else [c]) ++ spelled rest

def isHex (c : Char) : Bool := c.isDigit || ('a' ≤ c.toLower && c.toLower ≤ 'f')

def hexValue (c : Char) : Nat := if c.isDigit then c.toNat - 48 else c.toLower.toNat - 87

def undecoded (first last : Nat) (reason : String) : Fault :=
  s!"(unicode error) 'unicodeescape' codec can't decode bytes in position {first}-{last - 1}: {reason}"

/-- The fault of an escape that gives the number of a character in `count` digits. -/
def numberFault? (place count : Nat) (letter : Char) (rest : List Char) : Option Fault :=
  let digits := (rest.take count).takeWhile isHex
  if digits.length < count then
    some (undecoded place (place + 2 + digits.length)
      ("truncated \\" ++ String.ofList (letter :: List.replicate count 'X') ++ " escape"))
  else if 0x10ffff < digits.foldl (fun n c => 16 * n + hexValue c) 0 then
    some (undecoded place (place + 2 + count) "illegal Unicode character")
  else none

def nameFault? (place : Nat) (rest : List Char) : Option Fault :=
  let malformed (last : Nat) : Option Fault := some (undecoded place last "malformed \\N character escape")
  match rest with
  | '\x7b' :: inside =>
    let name := inside.takeWhile (· ≠ '\x7d')
    if name.length = inside.length ∨ name = [] then malformed (place + 3 + name.length)
    else if CharacterName.isKnown name then none
    else some (undecoded place (place + 4 + name.length) "unknown Unicode character name")
  | _ => malformed (place + 2)

def escapeFault? (place : Nat) (letter : Char) (rest : List Char) : Option Fault :=
  match letter with
  | 'x' => numberFault? place 2 'x' rest
  | 'u' => numberFault? place 4 'u' rest
  | 'U' => numberFault? place 8 'U' rest
  | 'N' => nameFault? place rest
  | _ => none

def textFaultFrom (place : Nat) : List Char → Option Fault
  | [] => none
  | '\\' :: letter :: rest => (escapeFault? place letter rest).or (textFaultFrom (place + 2) rest)
  | _ :: rest => textFaultFrom (place + 1) rest

def textFault? (cs : List Char) : Option Fault := textFaultFrom 0 (spelled cs)

def bytesFaultFrom (place : Nat) : List Char → Option Fault
  | [] => none
  | '\\' :: 'x' :: rest =>
    if ((rest.take 2).takeWhile isHex).length < 2 then
      some s!"(value error) invalid \\x escape at position {place}"
    else bytesFaultFrom (place + 2) rest
  | '\\' :: _ :: rest => bytesFaultFrom (place + 2) rest
  | _ :: rest => bytesFaultFrom (place + 1) rest

def bytesFault? (isRaw : Bool) (cs : List Char) : Option Fault :=
  if cs.any isWide then some "bytes can only contain ASCII literal characters"
  else if isRaw then none
  else bytesFaultFrom 0 cs

theorem spelled_of_plain {cs : List Char} (h : ∀ c ∈ cs, c ≠ '\\' ∧ isWide c = false) :
    spelled cs = cs := by
  induction cs with
  | nil => rfl
  | cons c rest ih =>
    obtain ⟨hc, hw⟩ := h c (by simp)
    have hr := ih fun d hd => h d (by simp [hd])
    rw [spelled]
    · simp [hw, hr]
    · rintro rfl _
      exact hc rfl
    · rintro _ _ rfl _
      exact hc rfl

theorem textFaultFrom_of_plain {cs : List Char} (place : Nat) (h : ∀ c ∈ cs, c ≠ '\\') :
    textFaultFrom place cs = none := by
  induction cs generalizing place with
  | nil => rfl
  | cons c rest ih =>
    rw [textFaultFrom]
    · exact ih (place + 1) fun d hd => h d (by simp [hd])
    · rintro _ _ rfl _
      exact h '\\' (by simp) rfl

/-- A string of ASCII without back slashes has no fault. -/
theorem textFault?_of_plain {cs : List Char} (h : ∀ c ∈ cs, c ≠ '\\' ∧ isWide c = false) :
    textFault? cs = none := by
  rw [textFault?, spelled_of_plain h]
  exact textFaultFrom_of_plain 0 fun c hc => (h c hc).1

end Escape

end SbtWorkspace.Terminal.Literal
