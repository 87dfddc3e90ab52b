import SbtWorkspace.Simulation.Script.Word

/-! Questions in doubled brackets. Their words are not split into fields; texts are compared with patterns, and
questions are joined by the operators that join commands. -/

namespace SbtWorkspace.Simulation

inductive Question where
  | word (w : Word)
  | unary (operator : String) (w : Word)
  | binary (operator : String) (a b : Word)
  | negation (q : Question)
  | both (a b : Question)
  | either (a b : Question)
  deriving DecidableEq

namespace Script

inductive QuestionPart where
  | word (w : Word)
  | sign (s : String)
  deriving DecidableEq

/-- The text of a regular expression up to a blank that is not in brackets or quotes, and the rest. -/
def regexText (depth : Nat) (quote : Option Char) : List Char → List Char × List Char
  | [] => ([], [])
  | '\\' :: c :: rest =>
    let (text, rest) := regexText depth quote rest
    ('\\' :: c :: text, rest)
  | c :: rest =>
    let go (depth : Nat) (quote : Option Char) : List Char × List Char :=
      let (text, rest) := regexText depth quote rest
      (c :: text, rest)
    match quote with
    | some q => go depth (if c = q then none else quote)
    | none =>
      if (c = ' ' ∨ c = '\t' ∨ c = '\n') ∧ depth = 0 then ([], c :: rest)
      else if c = '\x27' ∨ c = '"' then go depth (some c)
      else if c = '(' then go (depth + 1) none
      else if c = ')' then if depth = 0 then ([], c :: rest) else go (depth - 1) none
      else go depth none

/-- The parts of a question up to the brackets that close it, and the rest. `isFit` says that a regular expression is
next. -/
def questionParts (isFit : Bool) : (fuel : Nat) → List Char → Option (List QuestionPart × List Char)
  | 0, _ => none
  | _, [] => none
  | fuel + 1, cs@(c :: rest) =>
    let add (p : QuestionPart) (isFit : Bool) (rest : List Char) : Option (List QuestionPart × List Char) :=
      (questionParts isFit fuel rest).map fun r => (p :: r.1, r.2)
    if c = ' ' ∨ c = '\t' ∨ c = '\n' then questionParts isFit fuel rest
    else if isFit then
      let (text, rest) := regexText 0 none cs
      add (.word (wordOf true false text)) false rest
    else
      match c, rest with
      | '&', '&' :: rest => add (.sign "&&") false rest
      | '|', '|' :: rest => add (.sign "||") false rest
      | '(', rest => add (.sign "(") false rest
      | ')', rest => add (.sign ")") false rest
      | '<', rest => add (.sign "<") false rest
      | '>', rest => add (.sign ">") false rest
      | _, _ =>
        match word true endsWord (cs.length + 1) cs with
        | some (w, rest) =>
          if plain? w = some "]]" then some ([], rest)
          else if w = [] then none
          else add (.word w) (plain? w = some "=~") rest
        | none => none

def unaryOperators : List String :=
  ["-a", "-b", "-c", "-d", "-e", "-f", "-g", "-h", "-k", "-L", "-n", "-N", "-o", "-O", "-G", "-p", "-r", "-R", "-s",
    "-S", "-t", "-u", "-v", "-w", "-x", "-z"]

def binaryOperators : List String :=
  ["=", "==", "!=", "=~", "-eq", "-ne", "-lt", "-le", "-gt", "-ge", "-nt", "-ot", "-ef"]

/-- How tightly a question is bound: joined by "or", joined by "and", or none of them. -/
inductive QuestionLevel where
  | disjunction
  | conjunction
  | single

def question : (fuel : Nat) → QuestionLevel → List QuestionPart → Option (Question × List QuestionPart)
  | 0, _, _ => none
  | fuel + 1, .disjunction, ps => do
    let (a, rest) ← question fuel .conjunction ps
    match rest with
    | .sign "||" :: rest => do
      let (b, rest) ← question fuel .disjunction rest
      pure (.either a b, rest)
    | _ => pure (a, rest)
  | fuel + 1, .conjunction, ps => do
    let (a, rest) ← question fuel .single ps
    match rest with
    | .sign "&&" :: rest => do
      let (b, rest) ← question fuel .conjunction rest
      pure (.both a b, rest)
    | _ => pure (a, rest)
  | fuel + 1, .single, ps =>
    match ps with
    | .sign "(" :: rest => do
      match ← question fuel .disjunction rest with
      | (q, .sign ")" :: rest) => pure (q, rest)
      | _ => none
    | .word w :: rest =>
      let binary : Option (Question × List QuestionPart) :=
        match rest with
        | .sign s :: .word b :: rest => if s = "<" ∨ s = ">" then some (.binary s w b, rest) else none
        | .word o :: .word b :: rest =>
          ((plain? o).filter binaryOperators.contains).map fun o => (.binary o w b, rest)
        | _ => none
      match binary with
      | some r => some r
      | none =>
        match (plain? w).getD "", rest with
        | "!", rest => (question fuel .single rest).map fun r => (.negation r.1, r.2)
        | o, .word v :: rest => if unaryOperators.contains o then some (.unary o v, rest) else none
        | _, rest => some (.word w, rest)
    | _ => none

def question? (cs : List Char) : Option (Question × List Char) := do
  let (parts, rest) ← questionParts false (cs.length + 1) cs
  match ← question (3 * parts.length + 3) .disjunction parts with
  | (q, []) => pure (q, rest)
  | _ => none

end Script

end SbtWorkspace.Simulation
