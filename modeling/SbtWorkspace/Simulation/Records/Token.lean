import SbtWorkspace.Simulation.Binary
import SbtWorkspace.Simulation.Printing

/-! Tokens of rules for records. A slash begins a regular expression where a value can begin, and divides elsewhere. -/

namespace SbtWorkspace.Simulation.Records

/-- A token. A name right before a bracket calls a function. -/
inductive Token where
  | number (x : Float)
  | text (cs : List Char)
  | regex (source : List Char)
  | name (s : String)
  | call (s : String)
  | builtin (s : String)
  | keyword (s : String)
  | symbol (s : String)
  | newline

namespace Token

def isSymbol (s : String) : Token → Bool
  | symbol t => t = s
  | _ => false

def isKeyword (s : String) : Token → Bool
  | keyword t => t = s
  | _ => false

def keywords : List String :=
  ["BEGIN", "END", "function", "func", "if", "else", "while", "for", "do", "break", "continue", "next", "nextfile",
    "exit", "return", "delete", "in", "getline", "print", "printf"]

def builtins : List String :=
  ["length", "substr", "index", "split", "sub", "gsub", "match", "sprintf", "sin", "cos", "atan2", "exp", "log",
    "sqrt", "int", "rand", "srand", "tolower", "toupper", "system", "close", "fflush", "strftime", "mktime",
    "systime"]

def symbols : List String :=
  ["!~", "+=", "-=", "*=", "/=", "%=", "^=", "==", "<=", ">=", "!=", "++", "--", "&&", "||", ">>", "\x7b", "\x7d", "(",
    ")",     "[", "]", ";", ",", "+", "-", "*", "/", "%", "^", "!", ">", "<", "|", "?", ":", "~", "$", "="]

def endsValue : Token → Bool
  | number _ | text _ | regex _ | name _ | builtin _ => true
  | symbol s => s = ")" || s = "]" || s = "$" || s = "++" || s = "--"
  | _ => false

/-- The text of a constant up to its closing quote with its escapes resolved, and the rest. -/
def constant : (fuel : Nat) → List Char → Option (List Char × List Char)
  | 0, _ => none
  | _, [] => none
  | fuel + 1, '\\' :: c :: rest =>
    let add (cs rest : List Char) : Option (List Char × List Char) :=
      (constant fuel rest).map fun r => (cs ++ r.1, r.2)
    if c = '\n' then constant fuel rest
    else if c = '"' then add ['"'] rest
    else if Printing.isOctal c then
      let (digits, rest) := Printing.octalDigits (c :: rest)
      add [Char.ofNat (Printing.octal digits % 256)] rest
    else
      match if c = 'e' then none else Printing.escaped? c with
      | some d => add [d] rest
      | none => add ['\\', c] rest
  | fuel + 1, c :: rest =>
    if c = '"' then some ([], rest)
    else if c = '\n' then none
    else (constant fuel rest).map fun r => (c :: r.1, r.2)

/-- The source of a regular expression up to the slash that closes it, and the rest. -/
def regexSource (inBrackets : Bool) : (fuel : Nat) → List Char → Option (List Char × List Char)
  | 0, _ => none
  | _, [] => none
  | fuel + 1, '\\' :: c :: rest =>
    if c = '\n' then none
    else
      (regexSource inBrackets fuel rest).map fun r => ((if c = '/' then [c] else ['\\', c]) ++ r.1, r.2)
  | fuel + 1, c :: rest =>
    let go (inBrackets : Bool) : Option (List Char × List Char) :=
      (regexSource inBrackets fuel rest).map fun r => (c :: r.1, r.2)
    if c = '\n' then none
    else if c = '/' ∧ !inBrackets then some ([], rest)
    else if c = '[' ∧ !inBrackets then
      match rest with
      | ']' :: more => (regexSource true fuel more).map fun r => ('[' :: ']' :: r.1, r.2)
      | '^' :: ']' :: more => (regexSource true fuel more).map fun r => ('[' :: '^' :: ']' :: r.1, r.2)
      | _ => go true
    else if c = ']' then go false
    else go inBrackets

def number? (cs : List Char) : Option (Float × List Char) :=
  match cs with
  | c :: rest =>
    if c.isDigit ∨ (c = '.' ∧ rest.head?.any Char.isDigit) then
      (Binary.decimal? cs).map fun (_, n, e, rest) => ((Binary.ofDecimal .double false n e).toFloat, rest)
    else none
  | [] => none

/-- The tokens of a text after another token; `none` if a character belongs to none. -/
def read (before : Option Token) : (fuel : Nat) → List Char → Option (List Token)
  | 0, _ => none
  | _, [] => some []
  | fuel + 1, cs@(c :: rest) =>
    let add (t : Token) (rest : List Char) : Option (List Token) := (read (some t) fuel rest).map (t :: ·)
    if c = ' ' ∨ c = '\t' ∨ c = '\r' then read before fuel rest
    else if c = '\n' then add .newline rest
    else if c = '#' then read before fuel (rest.dropWhile (· ≠ '\n'))
    else if c = '\\' then
      match rest with
      | '\n' :: rest | '\r' :: '\n' :: rest => read before fuel rest
      | _ => none
    else if c = '"' then do
      let (inner, rest) ← constant (rest.length + 1) rest
      add (.text inner) rest
    else if c = '/' ∧ !(before.any endsValue) then do
      let (source, rest) ← regexSource false (rest.length + 1) rest
      add (.regex source) rest
    else
      match number? cs with
      | some (x, rest) => add (.number x) rest
      | none =>
        if c.isAlpha ∨ c = '_' then
          let word := cs.takeWhile fun c => c.isAlphanum || c = '_'
          let rest := cs.drop word.length
          let name := String.ofList word
          if keywords.contains name then add (.keyword (if name = "func" then "function" else name)) rest
          else if builtins.contains name then add (.builtin name) rest
          else if rest.head? = some '(' then add (.call name) rest
          else add (.name name) rest
        else
          match symbols.find? fun s => s.toList.isPrefixOf cs with
          | some s => add (.symbol s) (cs.drop s.length)
          | none => none

end Token

end SbtWorkspace.Simulation.Records
