import SbtWorkspace.Simulation.Regex.Reader
import SbtWorkspace.Simulation.Shell.Builtin

/-! The answers to questions in doubled brackets, and the values of expressions as commands. -/

namespace SbtWorkspace.Simulation.Shell

namespace Engine

/-- Works out an expression of a command; none if it cannot be. -/
def number? (e : Engine) (topic : String) (source : List Char) : Running (Option Int) := do
  match ← attempt (telling topic (wordNumber e.substitute source)) with
  | .ok n => pure (some n)
  | .error .discarded => pure none
  | .error jump => throw jump

def truthStatus : Option Int → Nat
  | some n => if n = 0 then 1 else 0
  | none => 1

/-- The expression that marks are written for: what is quoted stands for itself. -/
def fitText (ms : List Mark) : List Char :=
  ms.flatMap fun m => if m.2 ∧ !m.1.isAlphanum ∧ 128 > m.1.toNat then ['\\', m.1] else [m.1]

def wordMarks (e : Engine) (w : Word) : Running (List Mark) := do
  pure (marksOf (← expandWord e.substitute w))

def fits (e : Engine) (text : String) (w : Word) : Running Nat := do
  let expression := Octets.ofString (String.ofList (fitText (← e.wordMarks w)))
  match Regex.read? .extended expression with
  | none => pure misuse
  | some r =>
    let subject : Regex.Subject :=
      { text := (Octets.ofString text).toArray, folds := (← get).named.contains "nocasematch" }
    modify (emptied "BASH_REMATCH")
    match r.search subject 0 with
    | none => pure 1
    | some (start, finish, found) => do
      let whole := (subject.text.toList.take finish).drop start
      let parts := (List.range r.groups).map fun i => (Regex.textOf subject found (i + 1)).getD []
      fillArray "BASH_REMATCH" 0 ((whole :: parts).map Octets.toString)
      pure 0

def ask (e : Engine) : Question → Running Nat
  | .word w => do pure (if (← wordText e.substitute w) = "" then 1 else 0)
  | .unary o w => do
    let text ← wordText e.substitute w
    telling "[[" (testStatus [o, text])
  | .binary o a b => do
    let text ← wordText e.substitute a
    let answer (holds : Bool) : Nat := if holds then 0 else 1
    let numbers (compare : Int → Int → Bool) : Running Nat := do
      let x ← e.number? "[[" text.toList
      let y ← e.number? "[[" (← wordText e.substitute b).toList
      pure (answer (match x, y with
        | some x, some y => compare x y
        | _, _ => false))
    match o with
    | "=" | "==" | "!=" => do
      let isFolded := (← get).named.contains "nocasematch"
      let fold (cs : List Char) : List Char := if isFolded then cs.map Char.toLower else cs
      let marks := (← e.wordMarks b).map fun m => ((fold [m.1]).headD m.1, m.2)
      pure (answer ((Pattern.ofOctets marks).isMatch (fold (Octets.ofString text)) = (o ≠ "!=")))
    | "=~" => e.fits text b
    | "-eq" => numbers (· = ·)
    | "-ne" => numbers (· ≠ ·)
    | "-lt" => numbers (· < ·)
    | "-le" => numbers (· ≤ ·)
    | "-gt" => numbers (· > ·)
    | "-ge" => numbers (· ≥ ·)
    | _ => do
      let other ← wordText e.substitute b
      telling "[[" (testStatus [text, o, other])
  | .negation q => do
    let status ← e.ask q
    pure (if status = 0 then 1 else if status = 1 then 0 else status)
  | .both a b => do
    let status ← e.ask a
    if status = 0 then e.ask b else pure status
  | .either a b => do
    let status ← e.ask a
    if status = 1 then e.ask b else pure status

end Engine

end SbtWorkspace.Simulation.Shell
