import SbtWorkspace.Simulation.Regex.Reader
import SbtWorkspace.Simulation.Utility.Outcome

/-! Expressions whose operators and operands are the arguments of a program. Operators of a higher level bind more
tightly, those of one level are read from the left, and what cannot matter to the value is not evaluated. -/

namespace SbtWorkspace.Simulation.Utility.Expression

/-- The value of an expression. -/
inductive Value where
  | number (n : Int)
  | text (cs : List Char)
  deriving DecidableEq

/-- What keeps an expression from having a value: words are missing, there is one that does not belong there, a
parenthesis is not closed, or an operand is of no use. -/
inductive Fault where
  | missing
  | unexpected (word : String)
  | strayClosing
  | unclosed (next : Option String)
  | notNumber
  | zeroDivisor
  | badPattern (reason : String)
  deriving DecidableEq

/-- What is told of words that have no value. -/
def Fault.message (words : List String) : Fault → String
  | missing => "syntax error: missing argument after " ++ named (words.getLastD "")
  | unexpected word => "syntax error: unexpected argument " ++ named word
  | strayClosing => "syntax error: unexpected \x27)\x27"
  | unclosed none => "syntax error: expecting \x27)\x27 after " ++ named (words.getLastD "")
  | unclosed (some word) => "syntax error: expecting \x27)\x27 instead of " ++ named word
  | notNumber => "non-integer argument"
  | zeroDivisor => "division by zero"
  | badPattern reason => reason

def integer? (cs : List Char) : Option Int :=
  match cs with
  | '-' :: rest => (natural? rest).map fun n => -(n : Int)
  | _ => (natural? cs).map fun n => (n : Int)

def Value.shown : Value → List Char
  | number n => (toString n).toList
  | text cs => cs

def Value.number? : Value → Option Int
  | number n => some n
  | text cs => integer? cs

def Value.isNull : Value → Bool
  | number n => n = 0
  | text cs => cs = [] || (let ds := if cs.head? = some '-' then cs.tail else cs; ds ≠ [] && ds.all (· = '0'))

/-- The order of two values: that of numbers if both are numbers. -/
def order (a b : Value) : Ordering :=
  match a.number?, b.number? with
  | some m, some n => compare m n
  | _, _ => compare (a.shown.map Char.toNat) (b.shown.map Char.toNat)

/-- The value of an operator between two others; `none` if there is no such operator at the level. -/
def combined? (level : Nat) (operator : String) (a b : Value) : Option (Except Fault Value) :=
  let truth (t : Bool) : Option (Except Fault Value) := some (.ok (.number (if t then 1 else 0)))
  let numbers (f : Int → Int → Option Int) : Option (Except Fault Value) :=
    match a.number?, b.number? with
    | some m, some n => some (match f m n with
      | some k => .ok (.number k)
      | none => .error .zeroDivisor)
    | _, _ => some (.error .notNumber)
  match level, operator with
  | 2, "<" => truth (order a b = .lt)
  | 2, "<=" => truth (order a b ≠ .gt)
  | 2, "=" | 2, "==" => truth (order a b = .eq)
  | 2, "!=" => truth (order a b ≠ .eq)
  | 2, ">=" => truth (order a b ≠ .lt)
  | 2, ">" => truth (order a b = .gt)
  | 3, "+" => numbers fun m n => some (m + n)
  | 3, "-" => numbers fun m n => some (m - n)
  | 4, "*" => numbers fun m n => some (m * n)
  | 4, "/" => numbers fun m n => if n = 0 then none else some (Int.tdiv m n)
  | 4, "%" => numbers fun m n => if n = 0 then none else some (Int.tmod m n)
  | _, _ => none

def belongs (level : Nat) (operator : String) : Bool := (combined? level operator (.number 1) (.number 1)).isSome

/-- What an expression fits of the beginning of a text: the text of its first group, or how many characters. -/
def fitted (text pattern : List Char) : Except Fault Value :=
  match Regex.read? .basic pattern with
  | none => .error (.badPattern (Regex.fault .basic pattern))
  | some r =>
    let s : Regex.Subject := { text := text.toArray }
    let found := (r.ends s r.hasAgain (0, [])).head?
    if 0 < r.groups then .ok (.text ((found.bind fun f => Regex.textOf s f.2 1).getD []))
    else .ok (.number ((found.map (·.1)).getD 0 : Nat))

/-- The value of the expression at the beginning of some words, whose operators are at least at a level, and the
words after it. Level 0 is that of choices. What is not `needed` has some value. -/
def value : (fuel : Nat) → (level : Nat) → (needed : Bool) → List String → Except Fault (Value × List String)
  | 0, _, _, _ => .error .missing
  | fuel + 1, 7, needed, words =>
    match words with
    | [] => .error .missing
    | ")" :: _ => .error .strayClosing
    | "(" :: rest => do
      match ← value fuel 0 needed rest with
      | (v, ")" :: rest) => pure (v, rest)
      | (_, rest) => throw (.unclosed rest.head?)
    | word :: rest => pure (.text (Octets.ofString word), rest)
  | fuel + 1, 6, needed, words =>
    match words with
    | "+" :: word :: rest => pure (.text (Octets.ofString word), rest)
    | "+" :: [] => .error .missing
    | "length" :: rest => do
      let (v, rest) ← value fuel 6 needed rest
      pure (.number v.shown.length, rest)
    | "match" :: rest => do
      let (a, rest) ← value fuel 6 needed rest
      let (b, rest) ← value fuel 6 needed rest
      let v ← if needed then fitted a.shown b.shown else pure a
      pure (v, rest)
    | "index" :: rest => do
      let (a, rest) ← value fuel 6 needed rest
      let (b, rest) ← value fuel 6 needed rest
      let place := (a.shown.takeWhile fun c => !b.shown.contains c).length
      pure (.number (if place < a.shown.length then place + 1 else 0), rest)
    | "substr" :: rest => do
      let (a, rest) ← value fuel 6 needed rest
      let (b, rest) ← value fuel 6 needed rest
      let (c, rest) ← value fuel 6 needed rest
      let cut := match b.number?, c.number? with
        | some place, some count =>
          if 0 < place ∧ 0 < count then (a.shown.drop (place - 1).toNat).take count.toNat else []
        | _, _ => []
      pure (.text cut, rest)
    | _ => value fuel 7 needed words
  | fuel + 1, level, needed, words => do
    let (v, rest) ← value fuel (level + 1) needed words
    goOn fuel level needed v rest
where
  /-- The value of an expression that begins with a value. -/
  goOn : (fuel : Nat) → (level : Nat) → (needed : Bool) → Value → List String → Except Fault (Value × List String)
    | 0, _, _, _, _ => .error .missing
    | _, _, _, v, [] => pure (v, [])
    | fuel + 1, level, needed, v, word :: rest =>
      match level with
      | 0 =>
        if word = "|" then do
          let (b, rest) ← value fuel 1 (needed && v.isNull) rest
          let chosen := if !v.isNull then v else if b.isNull then .number 0 else b
          goOn fuel level needed chosen rest
        else pure (v, word :: rest)
      | 1 =>
        if word = "&" then do
          let (b, rest) ← value fuel 2 (needed && !v.isNull) rest
          goOn fuel level needed (if v.isNull || b.isNull then .number 0 else v) rest
        else pure (v, word :: rest)
      | 5 =>
        if word = ":" then do
          let (b, rest) ← value fuel 6 needed rest
          let v ← if needed then fitted v.shown b.shown else pure v
          goOn fuel level needed v rest
        else pure (v, word :: rest)
      | level =>
        if belongs level word then do
          let (b, rest) ← value fuel (level + 1) needed rest
          let next ← if needed then (combined? level word v b).getD (.error .missing) else pure v
          goOn fuel level needed next rest
        else pure (v, word :: rest)

def ofWords (words : List String) : Except Fault Value :=
  match value (20 * words.length + 20) 0 true words with
  | .ok (v, []) => .ok v
  | .ok (_, word :: _) => .error (.unexpected word)
  | .error fault => .error fault

end SbtWorkspace.Simulation.Utility.Expression

namespace SbtWorkspace.Simulation.Utility

def expr : Work := fun c w args =>
  let words := if args.head? = some "--" then args.tail else args
  if args = ["--help"] ∨ args = ["--version"] then { world := w }
  else if words = [] then misused c w 2 "missing operand"
  else
    match Expression.ofWords words with
    | .ok v => { world := w, output := Octets.ofChars (v.shown ++ ['\n']), status := if v.isNull then 1 else 0 }
    | .error fault => refused c w 2 (fault.message words)

end SbtWorkspace.Simulation.Utility
