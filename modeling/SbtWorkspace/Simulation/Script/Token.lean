import SbtWorkspace.Simulation.Script.Question

/-! Tokens of a shell script: words, operators and ends of lines. A text that is given in the lines below
its operator is one token, which stands where the operator stands. -/

namespace SbtWorkspace.Simulation.Script

/-- A token of a script. What cannot be read is `broken`. -/
inductive Token where
  | word (w : Word)
  | redirect (descriptor : Option Nat) (operator : String)
  | text (content : Word)
  | operator (symbol : String)
  /-- A word that ends in an equals sign, with words in brackets. -/
  | array (goal : Word) (items : List Word)
  | question (q : Question)
  | calculation (source : List Char)
  | newline
  | broken
  deriving DecidableEq

def redirection? (rich : Bool) (cs : List Char) : Option (String × List Char) :=
  let plain : Option (String × List Char) :=
    match cs with
    | '>' :: '>' :: rest => some (">>", rest)
    | '>' :: '&' :: rest => some (">&", rest)
    | '>' :: '|' :: rest => some (">|", rest)
    | '>' :: rest => some (">", rest)
    | '<' :: '<' :: '-' :: rest => some ("<<-", rest)
    | '<' :: '<' :: rest => some ("<<", rest)
    | '<' :: '&' :: rest => some ("<&", rest)
    | '<' :: '>' :: rest => some ("<>", rest)
    | '<' :: rest => some ("<", rest)
    | _ => none
  if rich then
    match cs with
    | '<' :: '<' :: '<' :: rest => some ("<<<", rest)
    | '&' :: '>' :: '>' :: rest => some ("&>>", rest)
    | '&' :: '>' :: rest => some ("&>", rest)
    | '<' :: '(' :: _ => none
    | _ => plain
  else plain

def operator? (rich : Bool) (cs : List Char) : Option (String × List Char) :=
  let plain : Option (String × List Char) :=
    match cs with
    | '&' :: '&' :: rest => some ("&&", rest)
    | '|' :: '|' :: rest => some ("||", rest)
    | ';' :: ';' :: rest => some (";;", rest)
    | c :: rest => if ";&|()".toList.contains c then some (String.ofList [c], rest) else none
    | [] => none
  if rich then
    match cs with
    | '|' :: '&' :: rest => some ("|&", rest)
    | ';' :: ';' :: '&' :: rest => some (";;&", rest)
    | ';' :: '&' :: rest => some (";&", rest)
    | _ => plain
  else plain

def hereLines (tabs : Bool) (delimiter : List Char) : (fuel : Nat) → List Char → List Char × List Char
  | 0, cs => ([], cs)
  | fuel + 1, cs =>
    let line := cs.takeWhile (· ≠ '\n')
    let rest := (cs.drop line.length).drop 1
    let shown := if tabs then line.dropWhile (· = '\t') else line
    if shown = delimiter ∨ cs = [] then ([], rest)
    else
      let (more, rest) := hereLines tabs delimiter fuel rest
      (shown ++ '\n' :: more, rest)

/-- Whether a word is a name and an equals sign, into which an array is put. -/
def isArrayGoal (w : Word) : Bool :=
  let chars := w.filterMap fun
    | .literal [c] false => some c
    | _ => none
  chars.length = w.length && chars.getLast? = some '=' && chars.head?.any isNameStart &&
    (let name := chars.dropLast
     (if name.getLast? = some '+' then name.dropLast else name).all isNameChar)

def wordsIn (rich : Bool) : (fuel : Nat) → List Char → Option (List Word)
  | 0, _ => none
  | fuel + 1, cs =>
    match cs.dropWhile fun c => c = ' ' || c = '\t' || c = '\n' with
    | [] => some []
    | '#' :: rest => wordsIn rich fuel (rest.dropWhile (· ≠ '\n'))
    | cs =>
      match word rich endsWord (cs.length + 1) cs with
      | some (w, rest) => if w = [] then none else (wordsIn rich fuel rest).map (w :: ·)
      | none => none

def linesBefore (cs rest : List Char) : Nat := (cs.take (cs.length - rest.length)).count '\n'

/-- The tokens of a script, each with the number of the line that it begins in. A text that is given after the line of
its operator is taken out of the lines that follow; `taken` is how many were taken out after the present line. -/
def numberedTokens (rich : Bool) : (fuel : Nat) → (line taken : Nat) → List Char → List (Token × Nat)
  | 0, line, _, _ => [(.broken, line)]
  | fuel + 1, line, taken, cs =>
    let richToken? : Option (Token × List Char) :=
      if !rich then none
      else
        match cs with
        | '(' :: '(' :: rest =>
          match enclosed '(' ')' 0 none rest with
          | some (source, ')' :: rest) => some (.calculation source, rest)
          | _ => none
        | '[' :: '[' :: c :: rest =>
          if c = ' ' ∨ c = '\t' ∨ c = '\n' then
            match question? rest with
            | some (q, rest) => some (.question q, rest)
            | none => some (.broken, [])
          else none
        | _ => none
    let skip (rest : List Char) : List (Token × Nat) :=
      numberedTokens rich fuel (line + linesBefore cs rest) taken rest
    let put (t : Token) (rest : List Char) : List (Token × Nat) := (t, line) :: skip rest
    let broken : List (Token × Nat) := [(.broken, line)]
    match cs with
    | [] => []
    | '#' :: rest => skip (rest.dropWhile (· ≠ '\n'))
    | '\\' :: '\n' :: rest => skip rest
    | c :: rest =>
      if c = ' ' ∨ c = '\t' then skip rest
      else if c = '\n' then (.newline, line) :: numberedTokens rich fuel (line + 1 + taken) 0 rest
      else if let some (t, rest) := richToken? then put t rest
      else
        let digits := cs.takeWhile Char.isDigit
        match redirection? rich (cs.drop digits.length), operator? rich cs with
        | some (operator, rest), _ =>
          let descriptor := if digits = [] then none else (String.ofList digits).toNat?
          if operator = "<<" ∨ operator = "<<-" then
            match word rich endsWord (rest.length + 1) (rest.dropWhile fun c => c = ' ' ∨ c = '\t') with
            | some ([], _) => broken
            | some (w, rest) =>
              let delimiter := w.flatMap fun
                | .literal cs _ => cs
                | _ => []
              let before := rest.takeWhile (· ≠ '\n')
              let all := (rest.drop before.length).drop 1
              let (body, below) := hereLines (operator = "<<-") delimiter (all.length + 1) all
              let content : Word :=
                if (plain? w).isSome then wordOf rich true body else [.literal body true]
              (.text content, line) ::
                numberedTokens rich fuel line (taken + linesBefore all below) (before ++ '\n' :: below)
            | none => broken
          else put (.redirect descriptor operator) rest
        | none, some (operator, rest) => put (.operator operator) rest
        | none, none =>
          match word rich endsWord (cs.length + 1) cs with
          | some (w, '(' :: rest) =>
            if rich && isArrayGoal w then
              match enclosed '(' ')' 0 none rest with
              | some (inner, rest) =>
                match wordsIn rich (inner.length + 1) inner with
                | some items => put (.array w items) rest
                | none => broken
              | none => broken
            else put (.word w) ('(' :: rest)
          | some (w, rest) => put (.word w) rest
          | none => broken

def tokens (rich : Bool) (text : List Char) : List Token :=
  (numberedTokens rich (text.length + 1) 1 0 text).map (·.1)

end SbtWorkspace.Simulation.Script
