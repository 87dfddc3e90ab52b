import SbtWorkspace.Simulation.Printing
import SbtWorkspace.Simulation.Utility.Outcome

/-! Programs that write numbers: those between two others, and those that divide one. Numbers with places after the
point are exact quotients here. Main statement: the factors of a number multiply to it (`prod_factorsFrom`). -/

namespace SbtWorkspace.Simulation.Utility

/-- A number as it is written: its value `value / 10 ^ scale`, how wide its text is without an exponent, and how many
places it has after the point. -/
structure Decimal where
  value : Int
  scale : Nat
  width : Nat
  places : Nat

/-- The places and the width that a text of a number has, after its digits before and behind the point and its power
of ten. -/
def Decimal.measured (text : List Char) (isNegative : Bool) (n : Nat) (e : Int) : Decimal :=
  let sign (k : Nat) : Int := if isNegative then -(k : Int) else k
  let mantissa := text.takeWhile fun c => c ≠ 'e' && c ≠ 'E'
  let exponent := e + ((mantissa.dropWhile (· ≠ '.')).drop 1).length
  let fraction := (mantissa.dropWhile (· ≠ '.')).drop 1
  let whole := (mantissa.takeWhile (· ≠ '.'))
  let hasPoint := mantissa.contains '.'
  let width : Int := mantissa.length + (if hasPoint then
    (if fraction = [] then -1 else if whole.all (!Char.isDigit ·) then 1 else 0) else 0)
  let places : Int := fraction.length
  let places := if exponent < 0 then places - exponent else places - min places exponent
  let width := if exponent < 0 then
      (if hasPoint then (if fraction = [] then width + 1 else width) else width + 1) - exponent
    else width + exponent
  { value := if 0 ≤ e then sign (n * Nat.pow 10 e.toNat) else sign n
    scale := (-e).toNat, width := width.toNat, places := places.toNat }

def Decimal.ofText? (text : String) : Option Decimal :=
  let cs := text.toList.dropWhile fun c => c = ' ' || c = '+'
  match cs with
  | '0' :: x :: rest =>
    if x = 'x' ∨ x = 'X' then
      match Printing.hexadecimalDigits? rest.length rest with
      | some (n, []) => some ⟨n, 0, 0, 0⟩
      | _ => none
    else plain cs
  | _ => plain cs
where
  /-- Reads a number in decimal. -/
  plain (cs : List Char) : Option Decimal :=
    match Binary.decimal? cs with
    | some (isNegative, n, e, []) =>
      if e < -1000 ∨ 1000 < e then none else some (Decimal.measured cs isNegative n e)
    | _ => none

def Decimal.units (d : Decimal) (scale : Nat) : Int := d.value * Nat.pow 10 (scale - d.scale)

def unitText (n : Int) (scale places : Nat) : List Char :=
  (if n < 0 then ['-'] else []) ++ Binary.fixed false n.natAbs (Nat.pow 10 scale) places

def zeroFilled (width : Nat) (cs : List Char) : List Char :=
  match cs with
  | '-' :: rest => '-' :: List.replicate (width - cs.length) '0' ++ rest
  | _ => List.replicate (width - cs.length) '0' ++ cs

/-- What a format writes for numbers: the text before the conversion, its field, its letter and the text after it. -/
structure NumberForm where
  before : List Char
  field : Printing.Field
  conversion : Char
  after : List Char

/-- Text of a format up to a conversion, in which doubled signs stand for one, and the rest. -/
def formText : List Char → List Char × List Char
  | '%' :: '%' :: rest => let (text, rest) := formText rest; ('%' :: text, rest)
  | '%' :: rest => ([], '%' :: rest)
  | c :: rest => let (text, rest) := formText rest; (c :: text, rest)
  | [] => ([], [])

inductive NumberForm.Fault where
  | noSign
  | endsEarly
  | unknown (letter : Char)
  | twoSigns

/-- What is told of a format that is not one of a number. -/
def NumberForm.Fault.message (text : String) (fault : NumberForm.Fault) : String :=
  "format " ++ named text ++ match fault with
    | noSign => " has no % directive"
    | endsEarly => " ends in %"
    | unknown c => " has unknown %" ++ String.ofList [c] ++ " directive"
    | twoSigns => " has too many % directives"

def NumberForm.ofText (text : String) : Except NumberForm.Fault NumberForm := do
  let (before, rest) := formText text.toList
  match rest with
  | '%' :: rest =>
    if (rest.dropWhile "-+ #0'".toList.contains).head? = some '*' then throw (.unknown '*')
    let (field, rest, _) := Printing.field .system rest []
    match rest with
    | conversion :: rest =>
      if !"efgaEFGA".toList.contains conversion then throw (.unknown conversion)
      let (after, rest) := formText rest
      if rest = [] then pure ⟨before, field, conversion, after⟩ else throw .twoSigns
    | [] => throw .endsEarly
  | _ => throw .noSign

/-- A number of units as a format writes it. -/
def NumberForm.show (f : NumberForm) (n : Int) (scale : Nat) : List Char :=
  let b := Binary.ofRatio .extended (n < 0) n.natAbs (Nat.pow 10 scale)
  f.before ++ f.field.binary f.conversion b ++ f.after

/-- The options and the operands of `seq`, among which negative numbers may stand. The value of an option may be
still to come. -/
def seqArguments : (pending : Bool) → List String → List String × List String
  | _, [] => ([], [])
  | true, arg :: rest => let (options, operands) := seqArguments false rest; (arg :: options, operands)
  | false, arg :: rest =>
    match arg.toList with
    | '-' :: c :: _ =>
      if c.isDigit ∨ c = '.' then ([], arg :: rest)
      else if arg = "--" then ([], rest)
      else
        let (options, operands) := seqArguments (["-s", "-f", "--separator", "--format"].contains arg) rest
        (arg :: options, operands)
    | _ => ([], arg :: rest)

def maxNumbers : Nat := Nat.pow 2 20

/-- Writes numbers from one to another. -/
def seq : Work := fun c w args =>
  let (options, operands) := seqArguments false args
  reading
    { letters := "w", valued := "sf", isFirst := true
      long := [("equal-width", 'w'), ("separator", 's'), ("format", 'f')] } 1
    (fun c w a =>
      let one : Decimal := ⟨1, 0, 1, 0⟩
      let isUnordered (text : String) : Bool :=
        ["nan", "-nan", "+nan"].contains (String.ofList (text.toList.map Char.toLower))
      let number (text : String) : Except String Decimal :=
        match Decimal.ofText? text with
        | some d => .ok d
        | none =>
          .error ("invalid " ++ (if isUnordered text then "'not-a-number'" else "floating point") ++ " argument: " ++
            named text)
      let ends : Except String (Decimal × Decimal × Decimal) := match operands with
        | [last] => do pure (one, one, ← number last)
        | [first, last] => do pure (← number first, one, ← number last)
        | [first, step, last] => do
          let (first, d) := (← number first, ← number step)
          if d.value = 0 then throw ("invalid Zero increment value: " ++ named step) else pure (first, d, ← number last)
        | [] => .error "missing operand"
        | _ :: _ :: _ :: more :: _ => .error ("extra operand " ++ named more)
      let text := (a.value? 'f').getD ""
      match (a.value? 'f').map NumberForm.ofText with
      | some (.error fault) => refused c w 1 (fault.message text)
      | form =>
        match ends, a.has 'w' && form.isSome with
        | .error reason, _ => misused c w 1 reason
        | _, true => misused c w 1 "format string may not be specified when printing equal width strings"
        | .ok (first, step, last), false =>
          let scale := max first.scale (max step.scale last.scale)
          let (m, s, n) := (first.units scale, step.units scale, last.units scale)
          let count := if 0 < s then (if n < m then 0 else ((n - m) / s + 1).toNat)
            else if m < n then 0 else ((m - n) / (-s) + 1).toNat
          let places := max first.places step.places
          let firstWidth := first.width + (places - first.places) + (if first.places = 0 ∧ places ≠ 0 then 1 else 0)
          let lastWidth := last.width + places - last.places + (if last.places = 0 ∧ places ≠ 0 then 1 else 0) -
            (if last.places ≠ 0 ∧ places = 0 then 1 else 0)
          let width := if a.has 'w' then max firstWidth lastWidth else 0
          let shown (i : Nat) : List Char :=
            let k := m + s * (i : Int)
            match form with
            | some (.ok f) => f.show k scale
            | _ => zeroFilled width (unitText k scale places)
          let texts := (List.range (min count maxNumbers)).map shown
          let between := ((a.value? 's').getD "\n").toList
          { world := w, output := if texts = [] then [] else
              octets (String.ofList (between.intercalate texts ++ ['\n'])) })
    c w (if options = ["--help"] ∨ options = ["--version"] then options else options ++ ["--"])

def factorsFrom : (fuel : Nat) → (least n : Nat) → List Nat
  | 0, _, n => [n]
  | fuel + 1, least, n =>
    if n < least * least then (if n = 1 then [] else [n])
    else if n % least = 0 then least :: factorsFrom fuel least (n / least)
    else factorsFrom fuel (least + 1) n

theorem prod_factorsFrom (fuel : Nat) {least : Nat} (h : 0 < least) (n : Nat) :
    (factorsFrom fuel least n).foldr (· * ·) 1 = n := by
  induction fuel generalizing least n with
  | zero => simp [factorsFrom]
  | succ fuel ih =>
    unfold factorsFrom
    split
    · split
      · rename_i hn
        simp [hn]
      · simp
    · split
      · rename_i hd
        simp only [List.foldr_cons, ih h]
        exact Nat.mul_div_cancel' (Nat.dvd_of_mod_eq_zero hd)
      · exact ih (Nat.succ_pos least) n

def factor : Work :=
  reading { letters := "" } 1 fun c w a =>
    let isGap (c : Char) : Bool := c = ' ' || ('\t' ≤ c && c ≤ '\r')
    let given := if a.operands ≠ [] then a.operands
      else ((Octets.toChars w.input).splitBy fun a b => isGap a == isGap b).filterMap fun cs =>
        if cs.any isGap then none else some (String.ofList cs)
    let w := if a.operands = [] then { w with input := [] } else w
    inTurn w (given.map fun text => fun w =>
      let cs := text.toList.dropWhile (· = ' ')
      match natural? (if cs.head? = some '+' then cs.tail else cs) with
      | some n =>
        let factors := if n < 2 then [] else factorsFrom (Nat.pow 2 (Nat.log2 n / 2 + 1) + 64) 2 n
        { world := w
          output := octets (toString n ++ ":" ++ String.join (factors.map fun f => " " ++ toString f) ++ "\n") }
      | none => refused c w 1 (named text ++ " is not a valid positive integer"))

end SbtWorkspace.Simulation.Utility
