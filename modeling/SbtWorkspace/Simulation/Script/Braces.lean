import SbtWorkspace.Simulation.Script.Word

/-! Words with alternatives in braces. A word with alternatives stands for as many words, and one with a sequence for
one word for each of its items. -/

namespace SbtWorkspace.Simulation.Script

/-- The alternatives up to the brace that closes them, and the rest; `none` if there is no such brace. -/
def alternatives (depth : Nat) (begun : Word) : Word → Option (List Word × Word)
  | [] => none
  | p :: rest =>
    let keep (depth : Nat) : Option (List Word × Word) := alternatives depth (begun ++ [p]) rest
    match p with
    | .literal ['\x7b'] false => keep (depth + 1)
    | .literal ['\x7d'] false =>
      match depth with
      | 0 => some ([begun], rest)
      | depth + 1 => keep depth
    | .literal [','] false =>
      if depth = 0 then (alternatives 0 [] rest).map fun r => (begun :: r.1, r.2) else keep depth
    | _ => keep depth

def numbersBetween (first last step : Int) : List Int :=
  let step : Int := if step = 0 then 1 else step.natAbs
  let count := ((last - first).natAbs / step.toNat) + 1
  (List.range count).map fun (i : Nat) => if first ≤ last then first + (i : Int) * step else first - (i : Int) * step

def sequenceItems? (w : Word) : Option (List String) := do
  let text ← plain? w
  let parts := text.splitOn ".."
  let number (s : String) : Option Int := (if s.startsWith "+" then (s.drop 1).toString else s).toInt?
  let step ← match parts with
    | [_, _] => some 1
    | [_, _, step] => number step
    | _ => none
  match parts with
  | first :: last :: _ =>
    match number first, number last with
    | some a, some b =>
      let isPadded (s : String) : Bool := match s.toList with
        | '-' :: '0' :: _ :: _ => true
        | '0' :: _ :: _ => true
        | _ => false
      let width := if isPadded first ∨ isPadded last then max first.length last.length else 0
      let shown (n : Int) : String :=
        let digits := Nat.toDigits 10 n.natAbs
        let sign := if n < 0 then ['-'] else []
        String.ofList (sign ++ List.replicate (width - sign.length - digits.length) '0' ++ digits)
      some ((numbersBetween a b step).map shown)
    | _, _ =>
      match first.toList, last.toList with
      | [a], [b] =>
        if a.isAlpha ∧ b.isAlpha then
          some ((numbersBetween a.toNat b.toNat step).map fun n => String.ofList [Char.ofNat n.toNat])
        else none
      | _, _ => none
  | _ => none

/-- The words that a word stands for, in which braces are nested no deeper than the fuel allows. -/
def bracesOpened : (fuel : Nat) → Word → List Word
  | 0, w => [w]
  | fuel + 1, w =>
    let before := w.takeWhile (· ≠ .literal ['\x7b'] false)
    match w.drop before.length with
    | [] => [w]
    | brace :: inner =>
      let kept : List Word := (bracesOpened fuel inner).map fun v => before ++ brace :: v
      match alternatives 0 [] inner with
      | some (found, rest) =>
        let items : Option (List Word) :=
          match found with
          | [only] => (sequenceItems? only).map fun texts => texts.map fun t => [.literal t.toList true]
          | _ => some (found.flatMap (bracesOpened fuel))
        match items with
        | some items =>
          let rests := bracesOpened fuel rest
          items.flatMap fun i => rests.map fun r => before ++ i ++ r
        | none => kept
      | none => kept

def openBraces (w : Word) : List Word :=
  if w.contains (.literal ['\x7b'] false) then bracesOpened (w.length + 1) w else [w]

theorem openBraces_of_not_mem {w : Word} (h : Piece.literal ['\x7b'] false ∉ w) : openBraces w = [w] := by
  simp [openBraces, h]

end SbtWorkspace.Simulation.Script
