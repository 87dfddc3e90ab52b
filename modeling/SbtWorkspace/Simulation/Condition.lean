import SbtWorkspace.Simulation.Permission

/-! Conditions: the questions about files, texts and numbers that a shell asks with `test`. A condition that
is not well formed has a fault in the place of an answer. -/

namespace SbtWorkspace.Simulation.Condition

/-- Why a condition has no answer: a word is no number, an operator has no operand, a bracket is not closed, or there
are words after the last one that belongs to it. -/
inductive Fault where
  | number (word : String)
  | missing (operator : String)
  | unclosed
  | extra (last : String)
  deriving DecidableEq, Repr

/-- What a shell tells of a condition of some words that has no answer. A rich shell tells of the word that should be an
operator where there are two words or three. -/
def Fault.message (f : Fault) (rich : Bool) (words : List String) : String :=
  match rich, f with
  | false, .number word => "Illegal number: " ++ word
  | false, .missing operator => operator ++ ": argument expected"
  | false, .unclosed => "closing paren expected"
  | false, .extra last => last ++ ": unexpected operator"
  | true, .number word => word ++ ": integer expression expected"
  | true, f =>
    match words, f with
    | [first, _], _ => first ++ ": unary operator expected"
    | [_, second, _], _ => second ++ ": binary operator expected"
    | _, .missing _ => "argument expected"
    | _, .unclosed => "\x60)' expected"
    | _, _ => "too many arguments"

def unary : List String :=
  ["-b", "-c", "-d", "-e", "-f", "-g", "-h", "-k", "-L", "-n", "-O", "-G", "-p", "-r", "-s", "-S", "-t", "-u",
    "-w", "-x", "-z"]

/-- Operators between two operands. A doubled equals sign is one of them only for some. -/
def binary (doubled : Bool) : List String :=
  (if doubled then ["=="] else []) ++
    ["=", "!=", "<", ">", "-eq", "-ne", "-gt", "-ge", "-lt", "-le", "-nt", "-ot", "-ef"]

/-- Whether a word before others is an operand, although it may look like an operator. -/
def isOperand (doubled : Bool) (word : String) (rest : List String) : Bool :=
  if unary.contains word then
    match rest with
    | [] => true
    | [_] => false
    | next :: _ => (binary doubled).contains next
  else if word = "(" then rest = []
  else !(word = "!" || word = ")" || word = "-a" || word = "-o" || (binary doubled).contains word)

def number? (word : String) : Option Int :=
  let isGap (c : Char) : Bool := c = ' ' || ('\t' ≤ c && c ≤ '\r')
  let cs := ((word.toList.dropWhile isGap).reverse.dropWhile isGap).reverse
  let (sign, digits) : Int × List Char := match cs with
    | '-' :: rest => (-1, rest)
    | '+' :: rest => (1, rest)
    | _ => (1, cs)
  if digits ≠ [] ∧ digits.all Char.isDigit then
    some (sign * (digits.foldl (fun n c => n * 10 + (c.toNat - 48)) 0 : Nat))
  else none

def fileAnswer (w : World) (cwd : Location) (operator path : String) : Bool :=
  let route := Route.ofString path
  if operator = "-h" ∨ operator = "-L" then
    match w.files.resolve cwd .kept route with
    | .ok (.found _ (.link _)) => true
    | _ => false
  else
    match w.files.status cwd route with
    | .error _ => false
    | .ok (loc, node) =>
      match operator, node with
      | "-d", .directory => true
      | "-c", .device _ => true
      | "-f", node => node.isRegular
      | "-s", .file bytes _ => bytes ≠ []
      | "-s", .directory => true
      | "-x", .directory => true
      | "-x", .file _ executable => executable
      | "-u", node => w.permissions loc node &&& 0o4000 ≠ 0
      | "-g", node => w.permissions loc node &&& 0o2000 ≠ 0
      | "-k", node => w.permissions loc node &&& 0o1000 ≠ 0
      | "-r", .sealed | "-w", .sealed => false
      | "-e", _ | "-r", _ | "-w", _ | "-O", _ | "-G", _ => true
      | _, _ => false

def unaryAnswer (doubled : Bool) (w : World) (cwd : Location) (operator operand : String) : Except Fault Bool :=
  if operator = "-z" then .ok (operand = "")
  else if operator = "-n" then .ok (operand ≠ "")
  else if operator = "-t" then
    if doubled ∨ (number? operand).isSome then .ok false else .error (.number operand)
  else .ok (fileAnswer w cwd operator operand)

/-- Whether what stands at a path was changed after what stands at another one. `doubled` says that what is missing is
older than anything else. -/
def isNewer (doubled : Bool) (w : World) (cwd : Location) (a b : String) : Bool :=
  let time (path : String) : Option Int :=
    (w.files.status cwd (.ofString path)).toOption.map fun found => (w.stamp? found.1).getD w.clock
  match time a, time b with
  | some t, some u => u < t
  | some _, none => doubled
  | _, _ => false

def binaryAnswer (doubled : Bool) (w : World) (cwd : Location) (operator a b : String) : Except Fault Bool :=
  let number (word : String) : Except Fault Int := match number? word with
    | some n => .ok n
    | none => .error (.number word)
  let compare (f : Int → Int → Bool) : Except Fault Bool := do pure (f (← number a) (← number b))
  match operator with
  | "=" | "==" => .ok (a = b)
  | "!=" => .ok (a ≠ b)
  | "<" => .ok (a < b)
  | ">" => .ok (b < a)
  | "-eq" => compare (· = ·)
  | "-ne" => compare (· ≠ ·)
  | "-gt" => compare (· > ·)
  | "-ge" => compare (· ≥ ·)
  | "-lt" => compare (· < ·)
  | "-le" => compare (· ≤ ·)
  | "-ef" =>
    match w.files.status cwd (.ofString a), w.files.status cwd (.ofString b) with
    | .ok (l, _), .ok (m, _) => .ok (l = m)
    | _, _ => .ok false
  | "-nt" => .ok (isNewer doubled w cwd a b)
  | "-ot" => .ok (isNewer doubled w cwd b a)
  | _ => .ok false

/-- How tightly a condition is bound: joined by "or", joined by "and", or none of them. -/
inductive Level where
  | disjunction
  | conjunction
  | single
  deriving DecidableEq

/-- The answer to the condition at the beginning of some words, and the words after it. -/
def answer (doubled : Bool) (w : World) (cwd : Location) :
    (fuel : Nat) → Level → List String → Except Fault (Bool × List String)
  | 0, _, _ => .error .unclosed
  | fuel + 1, .disjunction, words => do
    let (a, rest) ← answer doubled w cwd fuel .conjunction words
    match rest with
    | "-o" :: rest => do
      let (b, rest) ← answer doubled w cwd fuel .disjunction rest
      pure (a || b, rest)
    | _ => pure (a, rest)
  | fuel + 1, .conjunction, words => do
    let (a, rest) ← answer doubled w cwd fuel .single words
    match rest with
    | "-a" :: rest => do
      let (b, rest) ← answer doubled w cwd fuel .conjunction rest
      pure (a && b, rest)
    | _ => pure (a, rest)
  | _, .single, [] => .ok (false, [])
  | fuel + 1, .single, word :: rest =>
    if word = "!" ∧ rest ≠ [] then do
      let (a, rest) ← answer doubled w cwd fuel .single rest
      pure (!a, rest)
    else if word = "(" ∧ rest ≠ [] then
      match rest with
      | ")" :: rest => .ok (false, rest)
      | _ => do
        match ← answer doubled w cwd fuel .disjunction rest with
        | (a, ")" :: rest) => pure (a, rest)
        | _ => throw .unclosed
    else if unary.contains word ∧ !isOperand doubled word rest then
      match rest with
      | operand :: rest => do pure (← unaryAnswer doubled w cwd word operand, rest)
      | [] => .error (.missing word)
    else
      match rest with
      | operator :: operand :: below =>
        if (binary doubled).contains operator then do pure (← binaryAnswer doubled w cwd operator word operand, below)
        else .ok (word ≠ "", rest)
      | [operator] => if (binary doubled).contains operator then .error (.missing operator) else .ok (word ≠ "", rest)
      | [] => .ok (word ≠ "", rest)

def answerAll (doubled : Bool) (w : World) (cwd : Location) (words : List String) : Except Fault Bool := do
  let (a, rest) ← answer doubled w cwd (4 * words.length + 4) .disjunction words
  if rest = [] then pure a else throw (.extra ((words[words.length - rest.length - 1]?).getD ""))

/-- The answer to a condition, if it has one. Where three words have an operator between two others, it counts before
any other reading. -/
def holds (doubled : Bool) (w : World) (cwd : Location) : List String → Except Fault Bool
  | [] => .ok false
  | [a, operator, b] =>
    if (binary doubled).contains operator then binaryAnswer doubled w cwd operator a b
    else if a = "(" ∧ b = ")" then answerAll doubled w cwd [operator]
    else if a = "!" then (holds doubled w cwd [operator, b]).map (!·)
    else answerAll doubled w cwd [a, operator, b]
  | [a, b, c, d] =>
    if a = "(" ∧ d = ")" then answerAll doubled w cwd [b, c]
    else if a = "!" then (holds doubled w cwd [b, c, d]).map (!·)
    else answerAll doubled w cwd [a, b, c, d]
  | words => answerAll doubled w cwd words

end SbtWorkspace.Simulation.Condition
