import SbtWorkspace.Simulation.Binary
import SbtWorkspace.Simulation.Printing
import SbtWorkspace.Text.Octet

/-! Values: texts and numbers, which stand for each other. A text that was read and looks like a number is compared as
one. Characters of texts are octets. -/

namespace SbtWorkspace.Simulation.Records

/-- A value. -/
inductive Value where
  | unset
  | number (x : Float)
  | text (cs : List Char)
  /-- A text that was read and looks like a number. -/
  | numeral (cs : List Char) (x : Float)
  deriving Inhabited

namespace Value

/-- Whether a character is a gap before or after a number. -/
def isGap (c : Char) : Bool := c = ' ' || ('\t' ≤ c && c ≤ '\r')

def endless (negative : Bool) : Float := (Binary.infinite negative).toFloat

/-- The number that a text begins with after gaps, zero if it does not, and the rest. -/
def leadingNumber (cs : List Char) : Float × List Char :=
  let cs := cs.dropWhile isGap
  let (negative, unsigned) : Bool × List Char := match cs with
    | '-' :: rest => (true, rest)
    | '+' :: rest => (false, rest)
    | _ => (false, cs)
  let word := (unsigned.take 3).map Char.toLower
  if word = "inf".toList then (endless negative, unsigned.drop 3)
  else if word = "nan".toList then (Binary.undefined.toFloat, unsigned.drop 3)
  else
    match unsigned with
    | '0' :: x :: rest =>
      match if x = 'x' ∨ x = 'X' then Printing.hexadecimalDigits? rest.length rest else none with
      | some (n, rest) => ((Binary.ofDecimal .double negative n 0).toFloat, rest)
      | none => decimal cs
    | _ => decimal cs
where
  /-- The decimal number that a text begins with, and the rest. -/
  decimal (cs : List Char) : Float × List Char :=
    match Binary.decimal? cs with
    | some (negative, n, e, rest) => ((Binary.ofDecimal .double negative n e).toFloat, rest)
    | none => (0, cs)

def ofInput (cs : List Char) : Value :=
  let trimmed := ((cs.dropWhile isGap).reverse.dropWhile isGap).reverse
  match Binary.decimal? trimmed with
  | some (negative, n, e, []) => .numeral cs (Binary.ofDecimal .double negative n e).toFloat
  | _ => .text cs

def toNumber : Value → Float
  | unset => 0
  | number x => x
  | text cs => (leadingNumber cs).1
  | numeral _ x => x

/-- The whole number of a finite number that has no places after its point. -/
def whole? (x : Float) : Option Int :=
  match Binary.ofFloat x with
  | .finite negative mantissa exponent =>
    let n? : Option Nat :=
      if 0 ≤ exponent then some (mantissa * Nat.pow 2 exponent.toNat)
      else if mantissa % Nat.pow 2 (-exponent).toNat = 0 then some (mantissa / Nat.pow 2 (-exponent).toNat)
      else none
    n?.map fun n => if negative then -(n : Int) else n
  | _ => none

/-- A number without its places after the point, between the bounds of the numbers that conversions can hold. -/
def clamped (x : Float) : Int :=
  let limit : Int := Nat.pow 2 63
  match Binary.ofFloat x with
  | .finite negative mantissa exponent =>
    let (n, d) := Binary.ratio mantissa exponent
    let n : Int := (n / d : Nat)
    max (-limit) (min (if negative then -n else n) (limit - 1))
  | .infinite negative => if negative then -limit else limit - 1
  | .undefined => -limit

/-- A number as a conversion writes it that takes a number with a point. -/
def converted (f : Printing.Field) (conversion : Char) (x : Float) : List Char :=
  match Binary.ofFloat x with
  | .undefined => f.binary conversion .undefined |> fun cs =>
    if cs = f.fill "nan".toList then { f with sign := [] }.fill "-nan".toList else cs
  | b => f.binary conversion b

def numberText (format : List Char) (x : Float) : List Char :=
  match (whole? x).filter fun n => n.natAbs < Nat.pow 2 63 with
  | some n => (toString n).toList
  | none =>
    match format with
    | '%' :: rest =>
      let (f, rest, _) := Printing.field .plain rest []
      match rest with
      | [] => []
      | c :: rest =>
        if c = 'd' ∨ c = 'i' then f.fill (toString (clamped x)).toList ++ rest
        else converted f c x ++ rest
    | _ => converted {} 'g' x

def toText (format : List Char) : Value → List Char
  | unset => []
  | number x => numberText format x
  | text cs => cs
  | numeral cs _ => cs

def isTrue : Value → Bool
  | unset => false
  | number x => x != 0
  | text cs => !cs.isEmpty
  | numeral _ x => x != 0

/-- The order of two values: as numbers unless one of them is a text. Numbers that cannot be compared have none. -/
def order (format : List Char) (a b : Value) : Option Ordering :=
  match a, b with
  | text _, _ | _, text _ =>
    let s := a.toText format
    let t := b.toText format
    some (if s = t then .eq else if s < t then .lt else .gt)
  | _, _ =>
    let x := a.toNumber
    let y := b.toNumber
    if x == y then some .eq else if x < y then some .lt else if x > y then some .gt else none

def ofBool (b : Bool) : Value := .number (if b then 1 else 0)

/-- The value of a natural number. -/
def ofNat (n : Nat) : Value := .number (Float.ofNat n)

end Value

end SbtWorkspace.Simulation.Records
