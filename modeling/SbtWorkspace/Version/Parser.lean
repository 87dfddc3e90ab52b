import SbtWorkspace.Text.Blank
import SbtWorkspace.Text.Digit
import SbtWorkspace.Text.Numeral
import SbtWorkspace.Text.Quoted
import SbtWorkspace.Version.Basic

/-! Reading versions. Blanks around the text do not count; the first dash or plus sign ends the
numbers and starts a tag, which must not be empty; between points stand digits of any script.
A digit without a decimal value and a number of more than 4300 digits are refused late, each with
a cause of its own. -/

namespace SbtWorkspace.Version

/-- Why a text is no version. -/
inductive Error where
  | emptyTag (text : Text)
  | notNumbers (text : Text)
  | tooManyDigits (count : Nat)
  | notDecimal (component : Text)
  deriving DecidableEq

def maxShown : Nat := 200

/-- The wording of a refusal. -/
def Error.message : Error → String
  | emptyTag text => "Empty version tag in " ++ text.quoted
  | notNumbers text => "Invalid version " ++ text.quoted ++ ": expected dot-separated numbers"
  | tooManyDigits count => Numeral.tooManyDigits count
  | notDecimal component =>
    Numeral.notANumeral (String.ofList (component.quoted.toList.take maxShown))

def isTagMark (c : CodePoint) : Bool := c = '-' || c = '+'

def parseComponent (t : Text) : Except Error Nat :=
  let leading := (t.takeWhile fun c => c.decimal?.isSome).length
  if Numeral.maxDigits < leading then .error (.tooManyDigits leading)
  else match t.mapM CodePoint.decimal? with
    | some digits => .ok (Numeral.ofDigits 10 digits)
    | none => .error (.notDecimal t)

/-- The numbers of a text without a tag, with the whole text for the message. -/
def parseNumbers (whole numbers : Text) : Except Error (List Int) :=
  let parts := List.splitOn (.scalar '.') numbers
  if parts.all fun p => p ≠ [] ∧ p.all CodePoint.isDigit then
    parts.mapM fun p => (parseComponent p).map fun n => (n : Int)
  else .error (.notNumbers whole)

/-- Reads a version. -/
def parse (text : Text) : Except Error Version :=
  let value := text.trim
  let numbers := value.takeWhile (!isTagMark ·)
  match value.drop numbers.length with
  | [] => (parseNumbers text numbers).map (⟨·, none⟩)
  | [_] => .error (.emptyTag text)
  | _ :: tag => (parseNumbers text numbers).map (⟨·, some tag⟩)

/-- Whether a version is at or above a minimum. The version is read first. -/
def meets (minimum version : Text) : Except Error Bool := do
  let v ← parse version
  let m ← parse minimum
  pure (v.atLeast m)

/-- Texts in the order of the versions that they are; those of equal versions keep their order. -/
def sort (texts : List Text) : Except Error (List Text) := do
  let versions ← texts.mapM fun t => (parse t).map fun v => (v, t)
  pure ((versions.mergeSort fun v w => v.1.atMost w.1).map (·.2))

end SbtWorkspace.Version
