import SbtWorkspace.Simulation.Pattern
import SbtWorkspace.Simulation.Regex.Basic

/-! How regular expressions are written. In the basic form the signs of groups, choices and counts have a back
slash before them, and a star at the beginning stands for itself; in the extended form they have none. A sign that is
out of place is a fault, and so is a back reference to a group that is not there. -/

namespace SbtWorkspace.Simulation.Regex

/-- A form of writing. In the `lenient` one, signs of the extended form that are out of place stand for themselves
or for nothing; the one with `digits` is like it and has letters for digits; in the one that is `escaped`, back slashes
before letters and digits stand for characters. -/
inductive Form where
  | basic
  | extended
  | lenient
  | digits
  | escaped
  deriving DecidableEq, Repr

def Form.isLenient (f : Form) : Bool := f = .lenient || f = .digits

inductive Token where
  | one (negated : Bool) (ranges : List (Char × Char))
  | opening
  | closing
  | bar
  | star
  | plus
  | question
  | interval (least : Nat) (most : Option Nat)
  | start
  | finish
  | place (b : Boundary)
  | again (number : Nat)
  deriving DecidableEq, Repr

/-- The token of a character that stands for itself. -/
def Token.char (c : Char) : Token := one false [(c, c)]

def wordRanges : List (Char × Char) := [('a', 'z'), ('A', 'Z'), ('0', '9'), ('_', '_')]

def gapRanges : List (Char × Char) := [(' ', ' '), ('\t', '\r')]

def common? (c : Char) : Option Token :=
  match c with
  | 'w' => some (.one false wordRanges)
  | 'W' => some (.one true wordRanges)
  | 's' => some (.one false gapRanges)
  | 'S' => some (.one true gapRanges)
  | 'b' => some (.place .wordEdge)
  | 'B' => some (.place .noWordEdge)
  | '<' => some (.place .wordStart)
  | '>' => some (.place .wordEnd)
  | '\x60' => some (.place .textStart)
  | '\x27' => some (.place .textEnd)
  | _ => none

/-- The character that a letter after a back slash stands for where letters stand for characters. -/
def escaped? (c : Char) : Option Char :=
  match c with
  | 'n' => some '\n'
  | 't' => some '\t'
  | 'r' => some '\r'
  | 'f' => some '\x0c'
  | 'v' => some '\x0b'
  | 'a' => some '\x07'
  | 'b' => some '\x08'
  | '"' => some '"'
  | '/' => some '/'
  | _ => none

def number? (cs : List Char) : Option (Nat × List Char) :=
  let digits := cs.takeWhile Char.isDigit
  if digits = [] then none
  else some (digits.foldl (fun n c => n * 10 + (c.toNat - 48)) 0, cs.drop digits.length)

/-- The counts of an interval up to the brace that closes it, and the rest. -/
def interval? (closing : List Char) (cs : List Char) : Option (Nat × Option Nat × List Char) := do
  let close (rest : List Char) : Option (List Char) :=
    if closing.isPrefixOf rest then some (rest.drop closing.length) else none
  let (least, rest) := (number? cs).getD (0, cs)
  match rest with
  | ',' :: rest =>
    match number? rest with
    | some (most, rest) => if least ≤ most then do pure (least, some most, ← close rest) else none
    | none => do pure (least, none, ← close rest)
  | _ => if (number? cs).isSome then do pure (least, some least, ← close rest) else none

/-- A character in brackets that a range can begin or end with, and the rest. -/
def element? (escapes : Bool) : List Char → Option (Char × List Char)
  | '[' :: '.' :: c :: '.' :: ']' :: rest | '[' :: '=' :: c :: '=' :: ']' :: rest => some (c, rest)
  | '[' :: '.' :: _ | '[' :: '=' :: _ => none
  | '\\' :: c :: rest => if escapes then some ((escaped? c).getD c, rest) else some ('\\', c :: rest)
  | c :: rest => some (c, rest)
  | [] => none

/-- The class that is named at the beginning of a text, and the rest. The outer option says whether one is begun,
the inner one whether there is such a class. -/
def class? : List Char → Option (Option (List (Char × Char) × List Char))
  | '[' :: ':' :: rest =>
    let name := rest.takeWhile (· ≠ ':')
    match rest.drop name.length with
    | ':' :: ']' :: rest =>
      some ((Pattern.classes.find? fun k => k.1.toList = name).map fun k => (k.2, rest))
    | _ => some none
  | _ => none

/-- The ranges in brackets up to the one that closes them, and the rest; `none` if they are not well formed. -/
def bracketRanges (escapes isFirst : Bool) : (fuel : Nat) → List Char → Option (List (Char × Char) × List Char)
  | 0, _ => none
  | fuel + 1, cs =>
    let go (found : List (Char × Char)) (rest : List Char) : Option (List (Char × Char) × List Char) :=
      (bracketRanges escapes false fuel rest).map fun r => (found ++ r.1, r.2)
    if !isFirst ∧ cs.head? = some ']' then some ([], cs.tail)
    else
      match class? cs with
      | some (some (found, rest)) => go found rest
      | some none => none
      | none => do
        let (c, rest) ← element? escapes cs
        match rest with
        | '-' :: ']' :: _ => go [(c, c)] rest
        | '-' :: rest => do
          let (d, rest) ← element? escapes rest
          if c ≤ d then go [(c, d)] rest else none
        | _ => go [(c, c)] rest

def bracket? (escapes : Bool) (cs : List Char) : Option (Token × List Char) :=
  let negated := cs.head? = some '^'
  (bracketRanges escapes true (cs.length + 1) (if negated then cs.tail else cs)).map fun r =>
    (.one negated r.1, r.2)

/-- Whether a piece begins after a token, so that no count can stand there. -/
def Token.isBefore : Option Token → Bool
  | none | some .opening | some .bar | some .start | some .finish | some (.place _) => true
  | _ => false

def endsBranch : List Char → Bool
  | [] | '\\' :: ')' :: _ | '\\' :: '|' :: _ => true
  | _ => false

/-- The token that a back slash and a character are in a form, and the rest. -/
def afterSlash? (f : Form) (before : Option Token) (c : Char) (rest : List Char) : Option (Token × List Char) :=
  let isBasic := f = .basic
  let digit : Option Token :=
    if f ≠ .escaped ∧ '1' ≤ c ∧ c ≤ '9' then some (.again (c.toNat - 48)) else none
  if f = .digits ∧ (c = 'd' ∨ c = 'D') then some (.one (c = 'D') [('0', '9')], rest)
  else if f = .escaped then
    if '0' ≤ c ∧ c ≤ '7' then
      let digits := ((c :: rest).take 3).takeWhile fun d => '0' ≤ d && d ≤ '7'
      let n := digits.foldl (fun n d => n * 8 + (d.toNat - 48)) 0
      some (.char (Char.ofNat (n % 256)), (c :: rest).drop digits.length)
    else some (.char ((escaped? c).getD c), rest)
  else if isBasic ∧ c = '(' then some (.opening, rest)
  else if isBasic ∧ c = ')' then some (.closing, rest)
  else if isBasic ∧ c = '|' then some (.bar, rest)
  else if isBasic ∧ c = '+' then some (if Token.isBefore before then .char c else .plus, rest)
  else if isBasic ∧ c = '?' then some (if Token.isBefore before then .char c else .question, rest)
  else if isBasic ∧ c = '\x7b' then
    if Token.isBefore before then none
    else (interval? ['\\', '\x7d'] rest).map fun (least, most, rest) => (.interval least most, rest)
  else some ((digit.or (common? c)).getD (.char c), rest)

def extended? (f : Form) (before : Option Token) (c : Char) (rest : List Char) :
    Option (Option Token × List Char) :=
  let count (t : Token) : Option (Option Token × List Char) :=
    if !Token.isBefore before then some (some t, rest)
    else if f = .extended then none
    else some (none, rest)
  match c with
  | '(' => some (some .opening, if f = .digits ∧ ['?', ':'].isPrefixOf rest then rest.drop 2 else rest)
  | ')' => some (some .closing, rest)
  | '|' => some (some .bar, rest)
  | '^' => some (some .start, rest)
  | '$' => some (some .finish, rest)
  | '*' => count .star
  | '+' => count .plus
  | '?' => count .question
  | '\x7b' =>
    if f = .escaped then some (some (.char c), rest)
    else
      match Token.isBefore before, interval? ['\x7d'] rest with
      | false, some (least, most, rest) => some (some (.interval least most), rest)
      | _, _ => if f.isLenient then some (some (.char c), rest) else none
  | c => some (some (.char c), rest)

def basic (before : Option Token) (c : Char) (rest : List Char) : Token × List Char :=
  let isBegun := before.any fun t => t = .opening || t = .bar
  match c with
  | '*' => (if Token.isBefore before then .char c else .star, rest)
  | '^' => (if before.isNone || isBegun then .start else .char c, rest)
  | '$' => (if endsBranch rest then .finish else .char c, rest)
  | c => (.char c, rest)

def tokens (f : Form) : (fuel : Nat) → (before : Option Token) → List Char → Option (List Token)
  | 0, _, _ => none
  | _, _, [] => some []
  | fuel + 1, before, c :: rest => do
    let (t, rest) ← match c, rest with
      | '\\', d :: rest => (afterSlash? f before d rest).map fun r => (some r.1, r.2)
      | '\\', [] => if f = .escaped then some (some (Token.char c), []) else none
      | '[', rest => (bracket? (f = .escaped) rest).map fun r => (some r.1, r.2)
      | '.', rest => some (some (.one true []), rest)
      | c, rest =>
        if f = .basic then some (some (basic before c rest).1, (basic before c rest).2)
        else extended? f before c rest
    match t with
    | some t => do pure (t :: (← tokens f fuel (some t) rest))
    | none => tokens f fuel before rest

def counted (r : Regex) : List Token → Regex × List Token
  | .star :: rest => counted (.repeated 0 none r) rest
  | .plus :: rest => counted (.repeated 1 none r) rest
  | .question :: rest => counted (.repeated 0 (some 1) r) rest
  | .interval least most :: rest => counted (.repeated least most r) rest
  | ts => (r, ts)

/-- A part of an expression: a choice, or a row of pieces. -/
inductive Level where
  | choice
  | row

/-- What has been read of groups: how many have been opened, and which ones are closed and can be referred to. -/
structure Groups where
  opened : Nat := 0
  closed : List Nat := []

/-- The expression at the beginning of tokens, the groups that have been read before what follows, and the rest. Of
the groups in one choice, another one knows nothing. -/
def parse : (fuel : Nat) → Level → Groups → List Token → Option (Regex × Groups × List Token)
  | 0, _, _, _ => none
  | fuel + 1, .choice, g, ts => do
    let (a, after, ts) ← parse fuel .row g ts
    match ts with
    | .bar :: rest => do
      let (b, last, rest) ← parse fuel .choice { after with closed := g.closed } rest
      pure (.either a b, { last with closed := after.closed ++ last.closed }, rest)
    | _ => pure (a, after, ts)
  | fuel + 1, .row, g, ts => do
    let go (a : Regex) (g : Groups) (ts : List Token) : Option (Regex × Groups × List Token) := do
      let (a, ts) := counted a ts
      let (b, g, ts) ← parse fuel .row g ts
      pure (if b = .empty then a else .sequence a b, g, ts)
    match ts with
    | [] | .bar :: _ | .closing :: _ => pure (.empty, g, ts)
    | .opening :: rest => do
      let number := g.opened + 1
      match ← parse fuel .choice { g with opened := number } rest with
      | (r, g, .closing :: rest) => go (.group number r) { g with closed := number :: g.closed } rest
      | _ => none
    | .one negated ranges :: rest => go (.one negated ranges) g rest
    | .start :: rest => go (.place .lineStart) g rest
    | .finish :: rest => go (.place .lineEnd) g rest
    | .place b :: rest => go (.place b) g rest
    | .again n :: rest => if g.closed.contains n then go (.again n) g rest else none
    | .star :: rest | .plus :: rest | .question :: rest | .interval _ _ :: rest => go .empty g rest

/-- Tokens in which a closing sign without an opening one stands for itself. -/
def balanced : (depth : Nat) → List Token → List Token
  | depth, .opening :: rest => .opening :: balanced (depth + 1) rest
  | 0, .closing :: rest => .char ')' :: balanced 0 rest
  | depth + 1, .closing :: rest => .closing :: balanced depth rest
  | depth, t :: rest => t :: balanced depth rest
  | _, [] => []

/-- What is wrong with an expression that cannot be read, by the first sign of it that comes to the mind. -/
def fault (f : Form) (cs : List Char) : String :=
  let has (text : String) : Bool := (List.range cs.length).any fun i => text.toList.isPrefixOf (cs.drop i)
  let count (text : String) : Nat := (List.range cs.length).countP fun i => text.toList.isPrefixOf (cs.drop i)
  let (opening, closing, brace) := if f = .basic then ("\\(", "\\)", "\\\x7b") else ("(", ")", "\x7b")
  let isCut := (cs.reverse.takeWhile (· = '\\')).length % 2 = 1
  let isOpen := match cs.dropWhile (· ≠ '[') with
    | _ :: rest => !rest.contains ']' || (rest.head? = some ']' && !rest.tail.contains ']')
    | [] => false
  if isCut then "Trailing backslash"
  else if isOpen then "Unmatched [, [^, [:, [., or [="
  else if has "[:" ∧ !has "[[:" then "character class syntax is [[:space:]], not [:space:]"
  else if has "[[:" then "Invalid character class name"
  else if has "[" then "Invalid range end"
  else if has brace then
    if f ≠ .basic ∧ brace.toList.isPrefixOf cs then "Invalid preceding regular expression"
    else "Invalid content of \\\x7b\\\x7d"
  else if count closing < count opening then "Unmatched ( or \\("
  else if count opening < count closing then "Unmatched ) or \\)"
  else if has "\\" then "Invalid back reference"
  else "Invalid preceding regular expression"

def read? (f : Form) (cs : List Char) : Option Regex := do
  let ts ← tokens f (cs.length + 1) none cs
  let ts := if f.isLenient then balanced 0 ts else ts
  match ← parse (2 * ts.length + 2) .choice {} ts with
  | (r, _, []) => pure r
  | _ => none

end SbtWorkspace.Simulation.Regex
