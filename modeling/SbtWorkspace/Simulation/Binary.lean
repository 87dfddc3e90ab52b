import SbtWorkspace.Rounding

/-! Numbers with so many binary digits, as machines hold them, and how they are written in decimal. A number is
read as the nearest one that can be held, and written from its exact value. Main statement: what is cut off when a
number is written is at most half a unit of the last place (`scaled_error`). -/

namespace SbtWorkspace.Simulation

/-- How many binary digits a number has, and between which powers of two the unit of the last one lies. -/
structure Precision where
  bits : Nat
  least : Int
  greatest : Int

def Precision.double : Precision := ⟨53, -1074, 971⟩

def Precision.extended : Precision := ⟨64, -16445, 16320⟩

/-- A number. A finite one is `mantissa * 2 ^ exponent`. -/
inductive Binary where
  | finite (negative : Bool) (mantissa : Nat) (exponent : Int)
  | infinite (negative : Bool)
  | undefined
  deriving DecidableEq, Repr

namespace Binary

def scale (n b : Nat) (e : Int) : Nat × Nat := if 0 ≤ e then (n * Nat.pow b e.toNat, 1) else (n, Nat.pow b (-e).toNat)

def ofRatio (p : Precision) (negative : Bool) (n d : Nat) : Binary :=
  if n = 0 then finite negative 0 0
  else
    let size : Int := (Nat.log2 n : Int) - (Nat.log2 d : Int)
    let round (e : Int) : Nat :=
      let (a, b) := scale n 2 (-e)
      roundHalfEven a (b * d)
    let e := max p.least (size - p.bits)
    let e := if Nat.pow 2 p.bits ≤ round e then e + 1 else e
    if p.greatest < e then infinite negative else finite negative (round e) e

/-- The nearest number to `n * 10 ^ e` that can be held. -/
def ofDecimal (p : Precision) (negative : Bool) (n : Nat) (e : Int) : Binary :=
  let (a, b) := scale n 10 (max (-20000) (min e 20000))
  ofRatio p negative a b

/-- The numerator and the denominator of a finite number without its sign. -/
def ratio (mantissa : Nat) (exponent : Int) : Nat × Nat := scale mantissa 2 exponent

def scaled (n d : Nat) (places : Int) : Nat :=
  let (a, b) := scale n 10 places
  roundHalfEven a (b * d)

theorem scale_denominator_pos (n : Nat) {b : Nat} (hb : 0 < b) (e : Int) : 0 < (scale n b e).2 := by
  unfold scale
  split
  · exact Nat.one_pos
  · exact Nat.pow_pos hb

theorem scaled_error (n : Nat) {d : Nat} (hd : 0 < d) (places : Int) :
    2 * ((scale n 10 places).2 * d * scaled n d places) ≤
      2 * (scale n 10 places).1 + (scale n 10 places).2 * d :=
  two_mul_roundHalfEven_le (Nat.mul_pos (scale_denominator_pos n (by decide) places) hd)

/-- The decimal digits of a number, at least so many. -/
def digits (least n : Nat) : List Char :=
  let ds := Nat.toDigits 10 n
  List.replicate (least - ds.length) '0' ++ ds

/-- Digits with a point before the last of them. A point that nothing follows is written where it is wanted. -/
def pointed (keepsPoint : Bool) (places : Nat) (ds : List Char) : List Char :=
  let whole := ds.take (ds.length - places)
  if places = 0 then (if keepsPoint then ds ++ ['.'] else ds) else whole ++ '.' :: ds.drop whole.length

def fixed (keepsPoint : Bool) (n d places : Nat) : List Char :=
  pointed keepsPoint places (digits (places + 1) (scaled n d places))

/-- The power of ten of the first digit of a quotient that is not zero. -/
def magnitude (n d : Nat) : Int :=
  let guess : Int := ((Nat.toDigits 10 n).length : Int) - ((Nat.toDigits 10 d).length : Int)
  let (a, b) := scale n 10 (-guess)
  if a < b * d then guess - 1 else guess

/-- The digits of a quotient from the first one on that is not zero, with so many after it, and the power of ten
of the first one. -/
def significant (n d places : Nat) : List Char × Int :=
  if n = 0 then (List.replicate (places + 1) '0', 0)
  else
    let e := magnitude n d
    let ds := Nat.toDigits 10 (scaled n d (places - e))
    if places + 1 < ds.length then (ds.take (places + 1), e + 1) else (ds, e)

def exponentText (mark : Char) (e : Int) : List Char :=
  mark :: (if e < 0 then '-' else '+') :: digits 2 e.natAbs

/-- A quotient with one digit before the point, and the exponent that belongs to it. -/
def scientific (keepsPoint : Bool) (mark : Char) (n d places : Nat) : List Char :=
  let (ds, e) := significant n d places
  pointed keepsPoint places ds ++ exponentText mark e

/-- Digits without the zeros at the end of their places, and without a point that nothing follows. -/
def withoutZeros (cs : List Char) : List Char :=
  if cs.contains '.' then
    let kept := (cs.reverse.dropWhile (· = '0')).reverse
    if kept.getLast? = some '.' then kept.dropLast else kept
  else cs

/-- A quotient with so many digits, in the shorter way. Zeros at the end are written where they are wanted. -/
def general (keepsZeros : Bool) (mark : Char) (n d count : Nat) : List Char :=
  let count := max count 1
  let (ds, e) := significant n d (count - 1)
  let trim (cs : List Char) : List Char := if keepsZeros then cs else withoutZeros cs
  if e < -4 ∨ (count : Int) ≤ e then trim (pointed keepsZeros (count - 1) ds) ++ exponentText mark e
  else trim (fixed keepsZeros n d ((count : Int) - 1 - e).toNat)

/-- Reads a decimal number at the beginning of a text: its sign, its digits and its power of ten, and the rest;
`none` if there is no digit. -/
def decimal? (cs : List Char) : Option (Bool × Nat × Int × List Char) :=
  let (negative, cs) := match cs with
    | '-' :: rest => (true, rest)
    | '+' :: rest => (false, rest)
    | _ => (false, cs)
  let whole := cs.takeWhile Char.isDigit
  let rest := cs.drop whole.length
  let places := match rest with
    | '.' :: rest => rest.takeWhile Char.isDigit
    | _ => []
  if whole = [] ∧ places = [] then none
  else
    let rest := match rest with
      | '.' :: rest => rest.drop places.length
      | _ => rest
    let value (ds : List Char) : Nat := ds.foldl (fun n c => n * 10 + (c.toNat - 48)) 0
    let (e, rest) : Int × List Char := match rest with
      | c :: more =>
        if c = 'e' ∨ c = 'E' then
          let (sign, more) : Int × List Char := match more with
            | '-' :: more => (-1, more)
            | '+' :: more => (1, more)
            | _ => (1, more)
          let ds := more.takeWhile Char.isDigit
          if ds = [] then (0, rest) else (sign * (value ds : Int), more.drop ds.length)
        else (0, rest)
      | [] => (0, rest)
    some (negative, value (whole ++ places), e - places.length, rest)

def toFloat : Binary → Float
  | finite negative mantissa exponent =>
    let x := Float.scaleB (Float.ofNat mantissa) exponent
    if negative then -x else x
  | infinite negative => if negative then -(1.0 / 0.0) else 1.0 / 0.0
  | undefined => 0.0 / 0.0

def ofFloat (x : Float) : Binary :=
  let bits := x.toBits.toNat
  let negative := Nat.pow 2 63 ≤ bits
  let e : Nat := bits / Nat.pow 2 52 % Nat.pow 2 11
  let m : Nat := bits % Nat.pow 2 52
  if e = 2047 then (if m = 0 then infinite negative else undefined)
  else if e = 0 then finite negative m (-1074)
  else finite negative (m + Nat.pow 2 52) ((e : Int) - 1075)

end Binary

end SbtWorkspace.Simulation
