import SbtWorkspace.Simulation.Records.Value
import SbtWorkspace.Simulation.Regex.Basic

/-! Texts that are made of values by a format, and texts in which places are replaced where an expression fits. -/

namespace SbtWorkspace.Simulation.Records

open Printing (Field)

def conversion? (format : List Char) (f : Field) (conversion : Char) (v : Value) : Option (List Char) :=
  let whole (base : Nat) (before : Nat → List Char) (map : List Char → List Char) : List Char :=
    let n := (BitVec.ofInt 64 (Value.clamped v.toNumber)).toNat
    f.number (before n) (map (f.digits base n))
  match conversion with
  | 'd' | 'i' =>
    let n := Value.clamped v.toNumber
    some (f.number (if n < 0 then ['-'] else f.sign) (f.digits 10 n.natAbs))
  | 'u' => some (whole 10 (fun _ => []) id)
  | 'o' => some (whole 8 (fun _ => if f.alternative then ['0'] else []) id)
  | 'x' => some (whole 16 (fun n => if f.alternative ∧ n ≠ 0 then ['0', 'x'] else []) id)
  | 'X' => some (whole 16 (fun n => if f.alternative ∧ n ≠ 0 then ['0', 'X'] else []) (·.map Char.toUpper))
  | 'e' | 'E' | 'f' | 'F' | 'g' | 'G' => some (Value.converted f conversion v.toNumber)
  | 'c' =>
    let c : Char := match v with
      | .number x | .numeral _ x => Char.ofNat ((Value.clamped x) % 256).toNat
      | .text (c :: _) => c
      | _ => '\x00'
    some (f.fill [c])
  | 's' =>
    let cs := v.toText format
    some (f.fill (match f.precision with
      | some n => cs.take n
      | none => cs))
  | _ => none

/-- A count in a format, which may be taken from the values, and what is left of both. -/
def count (cs : List Char) (args : List Value) : Int × List Char × List Value :=
  match cs with
  | '*' :: rest => (Value.clamped (args.headD .unset).toNumber, rest, args.tail)
  | _ =>
    let digits := cs.takeWhile Char.isDigit
    ((digits.foldl (fun n c => n * 10 + (c.toNat - 48)) 0 : Nat), cs.drop digits.length, args)

/-- The text that a format makes of values, and whether all of it could be made. -/
def formatted (numbers : List Char) : (fuel : Nat) → List Char → List Value → List Char × Bool
  | 0, _, _ => ([], false)
  | _, [], _ => ([], true)
  | fuel + 1, '%' :: '%' :: rest, args =>
    let (more, isWhole) := formatted numbers fuel rest args
    ('%' :: more, isWhole)
  | fuel + 1, '%' :: rest, args =>
    let (f, rest) := Printing.flags {} rest
    let (width, rest, args) := count rest args
    let f := if width < 0 then { f with left := true, width := width.natAbs } else { f with width := width.toNat }
    let (precision, rest, args) : Option Nat × List Char × List Value := match rest with
      | '.' :: rest =>
        let (n, rest, args) := count rest args
        (if n < 0 then none else some n.toNat, rest, args)
      | _ => (none, rest, args)
    match rest.dropWhile fun c => c = 'l' || c = 'h', args with
    | c :: rest, v :: args =>
      match conversion? numbers { f with precision } c v with
      | some made =>
        let (more, isWhole) := formatted numbers fuel rest args
        (made ++ more, isWhole)
      | none => ([], false)
    | _, _ => ([], false)
  | fuel + 1, c :: rest, args =>
    let (more, isWhole) := formatted numbers fuel rest args
    (c :: more, isWhole)

/-- A text that is put where an expression fits, in which an ampersand stands for the text that fitted. -/
def replacement (found : List Char) : List Char → List Char
  | '\\' :: '&' :: rest => '&' :: replacement found rest
  | '\\' :: '\\' :: rest => '\\' :: replacement found rest
  | '&' :: rest => found ++ replacement found rest
  | c :: rest => c :: replacement found rest
  | [] => []

/-- A text in which another one is put where an expression fits, once or as often as it does, and how often it was
put. `after` says where the place before ended. -/
def replaced (r : Regex) (s : Regex.Subject) (new : List Char) (once : Bool) :
    (fuel : Nat) → (start : Nat) → (after : Option Nat) → List Char × Nat
  | 0, start, _ => ((s.text.extract start s.text.size).toList, 0)
  | fuel + 1, start, after =>
    match r.searchFor s (fun i j => i < j || after ≠ some i) start with
    | none => ((s.text.extract start s.text.size).toList, 0)
    | some (first, last, _) =>
      let before := (s.text.extract start first).toList
      let made := replacement (s.text.extract first last).toList new
      if once then (before ++ made ++ (s.text.extract last s.text.size).toList, 1)
      else if first = last then
        let next := (s.text.extract first (first + 1)).toList
        if s.text.size ≤ first then (before ++ made, 1)
        else
          let (more, n) := replaced r s new once fuel (first + 1) none
          (before ++ made ++ next ++ more, n + 1)
      else
        let (more, n) := replaced r s new once fuel last (some last)
        (before ++ made ++ more, n + 1)

end SbtWorkspace.Simulation.Records
