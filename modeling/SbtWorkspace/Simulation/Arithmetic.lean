import SbtWorkspace.Environment

/-! Whole numbers in a shell: the expressions that `$((...))` stands for. Operators of a higher level bind
more tightly, and those of one level are read from the left. A name stands for the number that its variable
holds, and an assignment changes the variable. Only the operands that count are worked out. -/

namespace SbtWorkspace.Simulation.Arithmetic

/-- How expressions are read and what names stand for. The elements of an array are variables whose names have the key
in brackets; `tables` are the arrays whose keys are texts. -/
structure Setting where
  rich : Bool := false
  arrays : List String := []
  tables : List String := []

/-- Why an expression has no value. -/
inductive Cause where
  | operandExpected
  | expressionExpected
  | unexpected
  | badOperator
  | notAssignable
  | colonExpected
  | closeExpected
  | digitTooGreat
  | badBase
  | badConstant
  | badSubscript
  | dividedByZero
  | negativeExponent
  | tooDeep
  /-- A variable holds a text that is no number. -/
  | noNumber (text : String)
  deriving DecidableEq

/-- A fault of an expression: its cause, the expression, and the part of it from the token on at which it shows. -/
structure Fault where
  cause : Cause
  text : List Char
  place : List Char

def Cause.richWording : Cause → String
  | .operandExpected => "syntax error: operand expected"
  | .expressionExpected => "expression expected"
  | .unexpected => "syntax error in expression"
  | .badOperator => "syntax error: invalid arithmetic operator"
  | .notAssignable => "attempted assignment to non-variable"
  | .colonExpected => "\x60:' expected for conditional expression"
  | .closeExpected => "missing \x60)'"
  | .digitTooGreat => "value too great for base"
  | .badBase => "invalid arithmetic base"
  | .badConstant => "invalid integer constant"
  | .badSubscript => "bad array subscript"
  | .dividedByZero => "division by 0"
  | .negativeExponent => "exponent less than 0"
  | .tooDeep => "expression recursion level exceeded"
  | .noNumber _ => "invalid number"

def Cause.plainWording : Cause → String
  | .operandExpected | .expressionExpected => "expecting primary"
  | .colonExpected => "expecting ':'"
  | .closeExpected => "expecting ')'"
  | .dividedByZero => "division by zero"
  | _ => "expecting EOF"

/-- What a shell tells of a fault. -/
def Fault.message (f : Fault) (rich : Bool) : String :=
  match rich, f.cause with
  | true, cause =>
    let start := String.ofList (f.text.dropWhile fun c => c = ' ' || c = '\t')
    start ++ ": " ++ cause.richWording ++ " (error token is \"" ++ String.ofList f.place ++ "\")"
  | false, .noNumber text => "Illegal number: " ++ text
  | false, cause => "arithmetic expression: " ++ cause.plainWording ++ ": \"" ++ String.ofList f.text ++ "\""

inductive Token where
  | number (n : Int)
  | name (s : String) (key : Option (List Char))
  | symbol (s : String)
  /-- What is no token; of the expression, so many characters at the end are not told. -/
  | bad (cause : Cause) (hidden : Nat)
  deriving DecidableEq

structure Placed where
  token : Token
  text : List Char

/-- An expression. `place` is the text that is told where it has no value. -/
inductive Expression where
  | number (n : Int)
  | variable (name : String) (key : Option (List Char))
  | unary (operator : String) (a : Expression)
  | binary (operator : String) (place : List Char) (a b : Expression)
  | choice (condition a b : Expression)
  | assign (name : String) (key : Option (List Char)) (change : Option String) (place : List Char) (a : Expression)
  /-- A change by one; the value is the number before it or after it. -/
  | step (name : String) (key : Option (List Char)) (isUp isBefore : Bool)

def digits? (base : Nat) (cs : List Char) : Option Int :=
  let value (c : Char) : Nat :=
    if c.isDigit then c.toNat - 48
    else if c.isLower then c.toNat - 87
    else if c.isUpper then (if base ≤ 36 then c.toNat - 55 else c.toNat - 29)
    else if c = '@' then 62 else if c = '_' then 63 else base
  let values := cs.map value
  if cs ≠ [] ∧ values.all (· < base) then some (values.foldl (fun n d => n * base + d) 0 : Nat) else none

/-- The value of a text of digits: octal after a zero, and hexadecimal after `0x`. -/
def number? (cs : List Char) : Option Int :=
  match cs with
  | '0' :: 'x' :: rest | '0' :: 'X' :: rest => digits? 16 rest
  | '0' :: rest => if rest = [] then some 0 else digits? 8 rest
  | _ => digits? 10 cs

def basedNumber (cs : List Char) : Except Cause Int :=
  let base := cs.takeWhile (· ≠ '#')
  let digits := cs.drop (base.length + 1)
  if base.length = cs.length then
    if cs = "0x".toList ∨ cs = "0X".toList then .ok 0 else (number? cs).elim (.error .digitTooGreat) .ok
  else
    match number? base with
    | none => .error .digitTooGreat
    | some b =>
      if b < 2 ∨ 64 < b then .error .badBase
      else if digits = [] then .error .badConstant
      else (digits? b.toNat digits).elim (.error .digitTooGreat) .ok

/-- The characters of a number at the beginning of a text, as a plain shell finds them. -/
def plainNumber (cs : List Char) : List Char :=
  match cs with
  | '0' :: x :: d :: rest =>
    if (x = 'x' ∨ x = 'X') ∧ (digits? 16 [d]).isSome then
      '0' :: x :: (d :: rest).takeWhile fun c => (digits? 16 [c]).isSome
    else '0' :: (x :: d :: rest).takeWhile fun c => (digits? 8 [c]).isSome
  | '0' :: rest => '0' :: rest.takeWhile fun c => (digits? 8 [c]).isSome
  | _ => cs.takeWhile Char.isDigit

def greatest : Int := Nat.pow 2 63 - 1

/-- Operators of more than one character, those of more characters first. -/
def longOperators (rich : Bool) : List String :=
  ["<<=", ">>="] ++ (if rich then ["**", "++", "--"] else []) ++
    ["<<", ">>", "<=", ">=", "==", "!=", "&&", "||", "+=", "-=", "*=", "/=", "%=", "&=", "|=", "^="]

def bracketed (depth : Nat) : List Char → Option (List Char × List Char)
  | [] => none
  | c :: rest =>
    if c = ']' ∧ depth = 0 then some ([], rest)
    else
      let depth := if c = '[' then depth + 1 else if c = ']' then depth - 1 else depth
      (bracketed depth rest).map fun r => (c :: r.1, r.2)

/-- The tokens of an expression. Doubled signs are one token beside a name; nothing is read after what is no token. -/
def tokens (rich : Bool) : (fuel : Nat) → (previous : Option Token) → List Char → List Placed
  | 0, _, _ => []
  | fuel + 1, previous, cs =>
    let put (token : Token) (rest : List Char) : List Placed := ⟨token, cs⟩ :: tokens rich fuel (some token) rest
    match cs with
    | [] => []
    | c :: rest =>
      if c = ' ' ∨ c = '\t' ∨ c = '\n' then tokens rich fuel previous rest
      else if c.isDigit then
        if rich then
          let run := cs.takeWhile fun c => c.isAlphanum || c = '_' || c = '#' || c = '@'
          let rest := cs.drop run.length
          match basedNumber run with
          | .ok n => put (.number (Int.bmod n (Nat.pow 2 64))) rest
          | .error cause => [⟨.bad cause rest.length, cs⟩]
        else
          let run := plainNumber cs
          put (.number (min greatest ((number? run).getD 0))) (cs.drop run.length)
      else if c.isAlpha ∨ c = '_' then
        let run := cs.takeWhile fun c => c.isAlphanum || c = '_'
        match cs.drop run.length with
        | '[' :: more =>
          if rich then
            match bracketed 0 more with
            | some (key, rest) => put (.name (String.ofList run) (some key)) rest
            | none => [⟨.bad .badSubscript 0, cs⟩]
          else put (.name (String.ofList run) none) ('[' :: more)
        | rest => put (.name (String.ofList run) none) rest
      else
        let isAfterName : Bool := match previous with
          | some (.name ..) => true
          | _ => false
        let isBeforeName (o : String) : Bool :=
          ((cs.drop o.length).dropWhile (· = ' ')).head?.any fun c => c.isAlpha || c = '_'
        match (longOperators rich).find? fun o =>
            o.toList.isPrefixOf cs && (!(["++", "--"].contains o) || isAfterName || isBeforeName o) with
        | some o => put (.symbol o) (cs.drop o.length)
        | none =>
          if !rich ∨ "+-*/%<>&|^~!()?:=,".toList.contains c then put (.symbol (String.ofList [c])) rest
          else
            let isAfterOperand : Bool := match previous with
              | some (.number _) | some (.name ..) => true
              | _ => false
            [⟨.bad (if isAfterOperand then .badOperator else .operandExpected) 0, cs⟩]

/-- How tightly an operator between two numbers binds. -/
def level? : String → Option Nat
  | "||" => some 3
  | "&&" => some 4
  | "|" => some 5
  | "^" => some 6
  | "&" => some 7
  | "==" | "!=" => some 8
  | "<" | "<=" | ">" | ">=" => some 9
  | "<<" | ">>" => some 10
  | "+" | "-" => some 11
  | "*" | "/" | "%" => some 12
  | "**" => some 13
  | _ => none

def listLevel : Nat := 0

def assignmentLevel : Nat := 1

def choiceLevel : Nat := 2

def unaryLevel : Nat := 14

def truth (b : Bool) : Int := if b then 1 else 0

def bitwise (f : BitVec 64 → BitVec 64 → BitVec 64) (a b : Int) : Int :=
  (f (BitVec.ofInt 64 a) (BitVec.ofInt 64 b)).toInt

def power (a : Int) (n : Nat) : Int :=
  if n = 0 then 1
  else
    let half := power (Int.bmod (a * a) (Nat.pow 2 64)) (n / 2)
    if n % 2 = 1 then Int.bmod (half * a) (Nat.pow 2 64) else half
termination_by n

/-- The value of an operator between two numbers, or why it has none. -/
def apply (operator : String) (a b : Int) : Except Cause Int :=
  let value : Except Cause Int := match operator with
    | "," => .ok b
    | "||" => .ok (truth (a ≠ 0 || b ≠ 0))
    | "&&" => .ok (truth (a ≠ 0 && b ≠ 0))
    | "|" => .ok (bitwise (· ||| ·) a b)
    | "^" => .ok (bitwise (· ^^^ ·) a b)
    | "&" => .ok (bitwise (· &&& ·) a b)
    | "==" => .ok (truth (a = b))
    | "!=" => .ok (truth (a ≠ b))
    | "<" => .ok (truth (a < b))
    | "<=" => .ok (truth (a ≤ b))
    | ">" => .ok (truth (a > b))
    | ">=" => .ok (truth (a ≥ b))
    | "<<" => .ok (a * Nat.pow 2 (b % 64).toNat)
    | ">>" => .ok (a / Nat.pow 2 (b % 64).toNat)
    | "+" => .ok (a + b)
    | "-" => .ok (a - b)
    | "*" => .ok (a * b)
    | "**" => if b < 0 then .error .negativeExponent else .ok (power a b.toNat)
    | "/" => if b = 0 then .error .dividedByZero else .ok (Int.tdiv a b)
    | "%" => if b = 0 then .error .dividedByZero else .ok (Int.tmod a b)
    | _ => .error .unexpected
  value.map fun n => Int.bmod n (Nat.pow 2 64)

/-- The operator of an assignment that changes a value by another one; none where it puts a new one. -/
def assignment? (symbol : String) : Option (Option String) :=
  if symbol = "=" then some none
  else if ["<<=", ">>=", "+=", "-=", "*=", "/=", "%=", "&=", "|=", "^="].contains symbol then
    some (some (String.ofList symbol.toList.dropLast))
  else none

abbrev Misread := Cause × List Placed

/-- A fault at some tokens; one of a token that is none comes before others. -/
def faultAt (cause : Cause) (ts : List Placed) : Except Misread α :=
  match ts with
  | ⟨.bad own _, _⟩ :: _ => .error (own, ts)
  | _ => .error (cause, ts)

/-- The text from some tokens on, or from the last one of an expression if none is left. -/
def placeOf (all ts : List Placed) : List Char :=
  match ts.head?.or all.getLast? with
  | some t => t.text
  | none => []

/-- The expression at the beginning of some tokens whose operators are at least at a level, and the rest. -/
def expression (rich : Bool) (all : List Placed) :
    (fuel : Nat) → (level : Nat) → List Placed → Except Misread (Expression × List Placed)
  | 0, _, ts => faultAt .tooDeep ts
  | fuel + 1, level, ts => do
    let unary (make : Expression → Expression) (rest : List Placed) : Except Misread (Expression × List Placed) := do
      let (a, rest) ← expression rich all fuel unaryLevel rest
      pure (make a, rest)
    let change? : Option (Option String) := match ts with
      | _ :: ⟨.symbol o, _⟩ :: _ => if level ≤ assignmentLevel then assignment? o else none
      | _ => none
    let first ← match ts with
      | ⟨.number n, _⟩ :: rest => .ok (Expression.number n, rest)
      | ⟨.name s key, _⟩ :: rest =>
        match change?, rest with
        | some change, _ :: rest => do
          let (a, rest) ← expression rich all fuel assignmentLevel rest
          pure (.assign s key change (placeOf all rest) a, rest)
        | _, ⟨.symbol "++", _⟩ :: rest => .ok (.step s key true false, rest)
        | _, ⟨.symbol "--", _⟩ :: rest => .ok (.step s key false false, rest)
        | _, rest => .ok (.variable s key, rest)
      | ⟨.symbol "(", _⟩ :: rest => do
        match ← expression rich all fuel listLevel rest with
        | (a, ⟨.symbol ")", _⟩ :: rest) => .ok (a, rest)
        | (_, rest) => faultAt .closeExpected rest
      | ⟨.symbol "++", _⟩ :: ⟨.name s key, _⟩ :: rest => .ok (.step s key true true, rest)
      | ⟨.symbol "--", _⟩ :: ⟨.name s key, _⟩ :: rest => .ok (.step s key false true, rest)
      | ⟨.symbol s, _⟩ :: rest =>
        if ["-", "+", "!", "~"].contains s then unary (.unary s) rest else faultAt .operandExpected ts
      | _ => faultAt .operandExpected ts
    further fuel level first
where
  /-- The expression that begins with one, and the rest. -/
  further : (fuel : Nat) → (level : Nat) → Expression × List Placed → Except Misread (Expression × List Placed)
    | 0, _, (_, ts) => faultAt .tooDeep ts
    | fuel + 1, level, (a, ts) =>
      match ts with
      | ⟨.symbol "?", _⟩ :: rest =>
        if choiceLevel < level then .ok (a, ts)
        else if rest = [] ∨ rest.head?.any (·.token = .symbol ":") then faultAt .expressionExpected rest
        else do
          match ← expression rich all fuel listLevel rest with
          | (b, ⟨.symbol ":", _⟩ :: rest) => do
            if rest = [] then faultAt .expressionExpected rest
            let (c, rest) ← expression rich all fuel choiceLevel rest
            further fuel level (.choice a b c, rest)
          | (_, rest) => faultAt .colonExpected rest
      | ⟨.symbol ",", _⟩ :: rest =>
        if !rich ∨ listLevel < level then .ok (a, ts)
        else do
          let (b, rest) ← expression rich all fuel assignmentLevel rest
          further fuel level (.binary "," [] a b, rest)
      | ⟨.symbol s, _⟩ :: rest =>
        match level? s with
        | some l =>
          if l < level then .ok (a, ts)
          else do
            let (b, left) ← expression rich all fuel (if s = "**" then l else l + 1) rest
            let place := if s = "**" then placeOf all left else placeOf all rest
            further fuel level (.binary s place a b, left)
        | none =>
          if rich ∧ level ≤ assignmentLevel ∧ (assignment? s).isSome then faultAt .notAssignable ts else .ok (a, ts)
      | ⟨.bad .., _⟩ :: _ => faultAt .unexpected ts
      | _ => .ok (a, ts)

def faultOf (text : List Char) (all : List Placed) (m : Misread) : Fault :=
  let place := placeOf all m.2
  let hidden := match m.2 with
    | ⟨.bad _ hidden, _⟩ :: _ => hidden
    | _ => 0
  { cause := m.1, text := text.take (text.length - hidden), place := place.take (place.length - hidden) }

/-- Reads an expression. An empty one is zero for a rich shell. -/
def read (rich : Bool) (text : List Char) : Except Fault Expression :=
  let ts := tokens rich (text.length + 1) none text
  if rich ∧ ts = [] then .ok (.number 0)
  else
    match expression rich ts (2 * ts.length + 2) listLevel ts with
    | .ok (a, []) => .ok a
    | .ok (_, rest) => .error (faultOf text ts (.unexpected, rest))
    | .error m => .error (faultOf text ts m)

/-- A computation that may change variables, and that fails where an expression has no value. -/
abbrev Computation := StateT Environment (Except Fault)

/-- An operator before a number. -/
def before (operator : String) (n : Int) : Int :=
  match operator with
  | "-" => -n
  | "!" => truth (n = 0)
  | "~" => -n - 1
  | _ => n

/-- The number that a text is written for which a variable of a plain shell holds; none for one that is no number. -/
def held? (text : String) : Option Int :=
  let isBlank (c : Char) : Bool := c = ' ' || c = '\t' || c = '\n'
  let cs := ((text.toList.dropWhile isBlank).reverse.dropWhile isBlank).reverse
  let natural? (cs : List Char) : Option Int := (number? cs).bind fun n => if n ≤ greatest then some n else none
  match cs with
  | [] => some 0
  | '-' :: rest => (natural? rest).map (- ·)
  | '+' :: rest => natural? rest
  | cs => natural? cs

/-- The value of an expression, which is a part of a text. In a rich shell, the values of variables are expressions,
too. -/
def value (s : Setting) : (fuel : Nat) → (text : List Char) → Expression → Computation Int
  | 0, text, _ => throw ⟨.tooDeep, text, text⟩
  | fuel + 1, text, a => do
    let valueOf (text : List Char) : Computation Int := do value s fuel text (← read true text)
    let place (name : String) (key : Option (List Char)) : Computation String := do
      match key with
      | none => pure (if s.arrays.contains name then name ++ "[0]" else name)
      | some cs =>
        if s.tables.contains name then pure (name ++ "[" ++ String.ofList cs ++ "]")
        else
          let n ← valueOf cs
          let keys := (← get).bindings.filterMap fun v =>
            if (name ++ "[").isPrefixOf v.1 then
              ((v.1.drop (name.length + 1)).toString.dropEnd 1).toString.toNat? else none
          let n := if n < 0 then n + ((keys.map (· + 1)).foldl max 0 : Nat) else n
          if n < 0 then throw ⟨.badSubscript, text, text⟩ else pure (name ++ "[" ++ toString n ++ "]")
    let held (place : String) : Computation Int := do
      let text := ((← get).get? place).getD ""
      if s.rich then valueOf text.toList
      else
        match held? text with
        | some n => pure n
        | none => throw ⟨.noNumber text, [], []⟩
    let applied (operator : String) (place : List Char) (a b : Int) : Computation Int :=
      match apply operator a b with
      | .ok n => pure n
      | .error cause => throw ⟨cause, text, place⟩
    match a with
    | .number n => pure n
    | .variable name key => do held (← place name key)
    | .unary o a => do pure (Int.bmod (before o (← value s fuel text a)) (Nat.pow 2 64))
    | .binary "&&" _ a b => do
      if (← value s fuel text a) = 0 then pure 0 else pure (truth ((← value s fuel text b) ≠ 0))
    | .binary "||" _ a b => do
      if (← value s fuel text a) ≠ 0 then pure 1 else pure (truth ((← value s fuel text b) ≠ 0))
    | .binary o place a b => do
      let x ← value s fuel text a
      let y ← value s fuel text b
      applied o place x y
    | .choice c a b => do if (← value s fuel text c) ≠ 0 then value s fuel text a else value s fuel text b
    | .assign name key change from_ a => do
      let place ← place name key
      let n ← value s fuel text a
      let n ← match change with
        | none => pure n
        | some o => do applied o from_ (← held place) n
      modify fun env => env.set place (toString n)
      pure n
    | .step name key isUp isBefore => do
      let place ← place name key
      let n ← held place
      let m := Int.bmod (if isUp then n + 1 else n - 1) (Nat.pow 2 64)
      modify fun env => env.set place (toString m)
      pure (if isBefore then m else n)

def maxDepth : Nat := 400

/-- The value of an expression, and the variables after it, or why it has none. -/
def eval (s : Setting) (env : Environment) (text : List Char) : Except Fault (Int × Environment) := do
  (value s maxDepth text (← read s.rich text)).run env

end SbtWorkspace.Simulation.Arithmetic
