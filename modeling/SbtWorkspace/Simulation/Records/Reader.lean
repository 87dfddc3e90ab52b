import SbtWorkspace.Simulation.Records.Rule
import SbtWorkspace.Simulation.Records.Token
import SbtWorkspace.Simulation.Regex.Reader

/-! How rules for records are written. Operators of a higher level bind more tightly. A statement ends with its line,
at a semicolon, or before the brace that closes what it stands in. -/

namespace SbtWorkspace.Simulation.Records

/-- Reads tokens from the front; a text that is not well formed fails. -/
abbrev Reading := StateT (List Token) Option

namespace Reading

/-- Takes the next token if it is one that is wanted. -/
def accept (isWanted : Token → Bool) : Reading Bool := fun ts =>
  match ts with
  | t :: rest => some (if isWanted t then (true, rest) else (false, ts))
  | [] => some (false, [])

/-- Takes a symbol if it is next. -/
def symbol (s : String) : Reading Bool := accept (Token.isSymbol s)

def keyword (s : String) : Reading Bool := accept (Token.isKeyword s)

/-- Takes a symbol, which has to be next. -/
def expect (s : String) : Reading Unit := do if !(← symbol s) then failure

def nextSymbol? : Reading (Option String) := do
  match ← get with
  | .symbol s :: _ => pure (some s)
  | _ => pure none

def lineEnds : Reading Unit := modify fun ts => ts.dropWhile fun
  | .newline => true
  | _ => false

/-- Takes the ends of lines and the semicolons that are next. -/
def ends : Reading Unit := modify fun ts => ts.dropWhile fun
  | .newline => true
  | .symbol s => s = ";"
  | _ => false

/-- Takes a name. -/
def name : Reading String := do
  match ← get with
  | .name s :: rest => do
    set rest
    pure s
  | _ => failure

end Reading

/-- What a sign stands for that also has a meaning of its own around an expression. -/
structure Mode where
  /-- Whether a greater sign tells where output goes. -/
  directs : Bool := false
  /-- Whether the word for membership belongs to a loop. -/
  iterates : Bool := false

/-- How tightly the operators bind that an expression may have outside of brackets. -/
inductive Level where
  | choice
  | either
  | both
  | membership
  | fit
  | comparison
  | join
  | sum
  | product
  | sign
  | command
  | power
  | step
  | primary
  deriving DecidableEq, Repr

def comparison? : String → Option Operator
  | "<" => some .less
  | "<=" => some .atMost
  | "==" => some .equal
  | "!=" => some .differs
  | ">" => some .greater
  | ">=" => some .atLeast
  | _ => none

/-- The change that comes with an assignment; none where the value is put as it is. -/
def assignment? : String → Option (Option Operator)
  | "=" => some none
  | "+=" => some (some .add)
  | "-=" => some (some .subtract)
  | "*=" => some (some .multiply)
  | "/=" => some (some .divide)
  | "%=" => some (some .remainder)
  | "^=" => some (some .power)
  | _ => none

def beginsOperand : List Token → Bool
  | .number _ :: _ | .text _ :: _ | .name _ :: _ | .call _ :: _ | .builtin _ :: _ => true
  | .symbol s :: _ => s = "$" || s = "(" || s = "++" || s = "--"
  | _ => false

def goal? (primary : Reading Expression) : Reading (Option Expression) := do
  match ← get with
  | .name _ :: _ => some <$> primary
  | .symbol "$" :: _ => some <$> primary
  | _ => pure none

def listOf (item : Reading Expression) : (fuel : Nat) → Reading (List Expression)
  | 0 => failure
  | fuel + 1 => do
    let e ← item
    if ← Reading.symbol "," then
      Reading.lineEnds
      pure (e :: (← listOf item fuel))
    else pure [e]

/-- Takes the arguments of a call up to its closing bracket. -/
def arguments (item : Reading Expression) : Reading (List Expression) := do
  Reading.lineEnds
  if ← Reading.symbol ")" then pure []
  else
    let items ← listOf item ((← get).length + 1)
    Reading.expect ")"
    pure items

/-- Takes an expression whose operators outside of brackets are at least at a level. -/
def expression : (fuel : Nat) → Level → Mode → Reading Expression
  | 0, _, _ => failure
  | fuel + 1, .choice, m => do
    let a ← expression fuel .either m
    if ← Reading.symbol "?" then
      Reading.lineEnds
      let b ← expression fuel .choice m
      Reading.lineEnds
      Reading.expect ":"
      Reading.lineEnds
      let c ← expression fuel .choice m
      pure (.choice a b c)
    else pure a
  | fuel + 1, .either, m => do further fuel .either m (← expression fuel .both m)
  | fuel + 1, .both, m => do further fuel .both m (← expression fuel .membership m)
  | fuel + 1, .membership, m => do further fuel .membership m (← expression fuel .fit m)
  | fuel + 1, .fit, m => do further fuel .fit m (← expression fuel .comparison m)
  | fuel + 1, .comparison, m => do further fuel .comparison m (← expression fuel .join m)
  | fuel + 1, .join, m => do further fuel .join m (← expression fuel .sum m)
  | fuel + 1, .sum, m => do further fuel .sum m (← expression fuel .product m)
  | fuel + 1, .product, m => do further fuel .product m (← expression fuel .sign m)
  | fuel + 1, .sign, m => do
    if ← Reading.symbol "!" then .negation <$> expression fuel .sign m
    else if ← Reading.symbol "-" then .minus <$> expression fuel .sign m
    else if ← Reading.symbol "+" then .plus <$> expression fuel .sign m
    else expression fuel .command m
  | fuel + 1, .command, m => do further fuel .command m (← expression fuel .power m)
  | fuel + 1, .power, m => do
    let a ← expression fuel .step m
    if ← Reading.symbol "^" then .binary .power a <$> expression fuel .sign m else pure a
  | fuel + 1, .step, m => do
    match ← Reading.nextSymbol? with
    | some "++" | some "--" => do
      let isUp ← Reading.symbol "++"
      if !isUp then Reading.expect "--"
      let a ← expression fuel .primary m
      if a.isGoal then pure (.step a isUp true) else failure
    | _ => do
      let a ← expression fuel .primary m
      if !a.isGoal then pure a
      else
        match ← Reading.nextSymbol? with
        | some s =>
          match assignment? s with
          | some change => do
            Reading.expect s
            Reading.lineEnds
            .assign a change <$> expression fuel .choice m
          | none => do
            if ← Reading.symbol "++" then pure (.step a true false)
            else if ← Reading.symbol "--" then pure (.step a false false)
            else pure a
        | none => pure a
  | fuel + 1, .primary, m => do
    match ← get with
    | .number x :: rest => do
      set rest
      pure (.number x)
    | .text cs :: rest => do
      set rest
      pure (.text cs)
    | .regex source :: rest => do
      set rest
      match Regex.read? .escaped source with
      | some r => pure (.regex r)
      | none => failure
    | .symbol "$" :: rest => do
      set rest
      match ← Reading.nextSymbol? with
      | some "++" | some "--" => .field <$> expression fuel .step m
      | some "-" | some "+" | some "!" => .field <$> expression fuel .sign m
      | _ => .field <$> expression fuel .primary m
    | .symbol "(" :: rest => do
      set rest
      let items ← listOf (expression fuel .choice {}) fuel
      Reading.expect ")"
      match items with
      | [e] => pure (.group e)
      | _ => do
        if ← Reading.keyword "in" then .isKey items <$> Reading.name else failure
    | .name s :: rest => do
      set rest
      if ← Reading.symbol "[" then
        let indices ← listOf (expression fuel .choice {}) fuel
        Reading.expect "]"
        pure (.element s indices)
      else pure (.variable s)
    | .call s :: .symbol "(" :: rest => do
      set rest
      .call s <$> arguments (expression fuel .choice {})
    | .builtin s :: rest => do
      set rest
      if ← Reading.symbol "(" then .builtin s <$> arguments (expression fuel .choice {})
      else if s = "length" then pure (.builtin s [])
      else failure
    | .keyword "getline" :: rest => do
      set rest
      let goal ← goal? (expression fuel .primary m)
      if ← Reading.symbol "<" then .nextOfFile goal <$> expression fuel .primary m
      else pure (.nextRecord goal)
    | _ => failure
where
  /-- Takes the operators of a level that follow a value, with their operands. -/
  further : (fuel : Nat) → Level → Mode → Expression → Reading Expression
    | 0, _, _, _ => failure
    | fuel + 1, l, m, a => do
      match l, ← get with
      | .either, .symbol "||" :: rest => do
        set rest
        Reading.lineEnds
        further fuel l m (.either a (← expression fuel .both m))
      | .both, .symbol "&&" :: rest => do
        set rest
        Reading.lineEnds
        further fuel l m (.both a (← expression fuel .membership m))
      | .membership, .keyword "in" :: rest =>
        if m.iterates then pure a
        else do
          set rest
          further fuel l m (.isKey [a] (← Reading.name))
      | .fit, .symbol "~" :: rest => do
        set rest
        further fuel l m (.fits false a (← expression fuel .comparison m))
      | .fit, .symbol "!~" :: rest => do
        set rest
        further fuel l m (.fits true a (← expression fuel .comparison m))
      | .comparison, .symbol s :: rest =>
        match if m.directs ∧ s = ">" then none else comparison? s with
        | some o => do
          set rest
          further fuel l m (.binary o a (← expression fuel .join m))
        | none => pure a
      | .join, ts =>
        if beginsOperand ts then do further fuel l m (.binary .join a (← expression fuel .sum m))
        else pure a
      | .sum, .symbol "+" :: rest => do
        set rest
        further fuel l m (.binary .add a (← expression fuel .product m))
      | .sum, .symbol "-" :: rest => do
        set rest
        further fuel l m (.binary .subtract a (← expression fuel .product m))
      | .product, .symbol "*" :: rest => do
        set rest
        further fuel l m (.binary .multiply a (← expression fuel .sign m))
      | .product, .symbol "/" :: rest => do
        set rest
        further fuel l m (.binary .divide a (← expression fuel .sign m))
      | .product, .symbol "%" :: rest => do
        set rest
        further fuel l m (.binary .remainder a (← expression fuel .sign m))
      | .command, .symbol "|" :: .keyword "getline" :: rest => do
        set rest
        let goal ← goal? (expression fuel .primary m)
        further fuel l m (.nextOfCommand goal a)
      | _, _ => pure a

def whole (m : Mode) : Reading Expression := do expression (20 * (← get).length + 20) .choice m

structure Place where
  inLoop : Bool := false
  inFunction : Bool := false
  /-- Whether it belongs to a rule for records. -/
  hasRecord : Bool := true

def isEnd : List Token → Bool
  | [] | .newline :: _ => true
  | .symbol s :: _ => s = ";" || s = "\x7d"
  | _ => false

def statementEnd : Reading Unit := do
  match ← get with
  | .newline :: rest | .symbol ";" :: rest => set rest
  | .symbol "\x7d" :: _ | [] => pure ()
  | _ => failure

def direction : Reading Direction := do
  let target : Reading Expression := do
    expression (20 * (← get).length + 20) .join { directs := true }
  if ← Reading.symbol ">" then .over <$> target
  else if ← Reading.symbol ">>" then .behind <$> target
  else if ← Reading.symbol "|" then .into <$> target
  else pure .output

def endsItems (ts : List Token) : Bool :=
  isEnd ts || match ts with
    | .symbol s :: _ => s = ">" || s = ">>" || s = "|"
    | _ => false

def outputItems : Reading (List Expression) := do
  let bracketed : Reading (List Expression) := do
    Reading.expect "("
    let items ← arguments (whole {})
    if !items.isEmpty && endsItems (← get) then pure items else failure
  if endsItems (← get) then pure []
  else bracketed <|> (do listOf (whole { directs := true }) ((← get).length + 1))

def simple (p : Place) : Reading Statement := do
  let optional : Reading (Option Expression) := do
    if isEnd (← get) then pure none else some <$> whole {}
  match ← get with
  | .keyword "print" :: rest => do
    set rest
    let items ← outputItems
    .print items <$> direction
  | .keyword "printf" :: rest => do
    set rest
    let items ← outputItems
    if items.isEmpty then failure else .printFormat items <$> direction
  | .keyword "next" :: rest => do
    set rest
    if p.hasRecord then pure .next else failure
  | .keyword "nextfile" :: rest => do
    set rest
    if p.hasRecord then pure .nextFile else failure
  | .keyword "exit" :: rest => do
    set rest
    .exit <$> optional
  | .keyword "return" :: rest => do
    set rest
    if p.inFunction then .return <$> optional else failure
  | .keyword "break" :: rest => do
    set rest
    if p.inLoop then pure .leave else failure
  | .keyword "continue" :: rest => do
    set rest
    if p.inLoop then pure .goOn else failure
  | .keyword "delete" :: rest => do
    set rest
    let table ← Reading.name
    if ← Reading.symbol "[" then
      let indices ← listOf (whole {}) ((← get).length + 1)
      Reading.expect "]"
      pure (.delete table indices)
    else pure (.clear table)
  | _ => .evaluate <$> whole {}

def statement : (fuel : Nat) → Place → Reading Statement
  | 0, _ => failure
  | fuel + 1, p => do
    let inner := { p with inLoop := true }
    match ← get with
    | .symbol "\x7b" :: rest => do
      set rest
      .sequence <$> statements fuel p
    | .symbol ";" :: rest => do
      set rest
      pure .nothing
    | .keyword "if" :: rest => do
      set rest
      Reading.expect "("
      let condition ← whole {}
      Reading.expect ")"
      Reading.lineEnds
      let yes ← statement fuel p
      let after ← get
      Reading.ends
      if ← Reading.keyword "else" then
        Reading.lineEnds
        .conditional condition yes <$> statement fuel p
      else
        set after
        pure (.conditional condition yes .nothing)
    | .keyword "while" :: rest => do
      set rest
      Reading.expect "("
      let condition ← whole {}
      Reading.expect ")"
      if ← Reading.symbol ";" then pure (.loop false condition .nothing .nothing)
      else
        Reading.lineEnds
        .loop false condition .nothing <$> statement fuel inner
    | .keyword "do" :: rest => do
      set rest
      Reading.lineEnds
      let body ← statement fuel inner
      Reading.ends
      if !(← Reading.keyword "while") then failure
      Reading.expect "("
      let condition ← whole {}
      Reading.expect ")"
      statementEnd
      pure (.loop true condition .nothing body)
    | .keyword "for" :: .symbol "(" :: .name key :: .keyword "in" :: .name table :: .symbol ")" :: rest => do
      set rest
      Reading.lineEnds
      .each key table <$> statement fuel inner
    | .keyword "for" :: .symbol "(" :: rest => do
      set rest
      let first ← if isEnd (← get) then pure .nothing else simple p
      Reading.expect ";"
      Reading.lineEnds
      let condition ← if isEnd (← get) then pure (.number 1) else whole {}
      Reading.expect ";"
      Reading.lineEnds
      let step ← match ← get with
        | .symbol ")" :: _ => pure .nothing
        | _ => simple p
      Reading.expect ")"
      if ← Reading.symbol ";" then pure (.sequence [first, .loop false condition step .nothing])
      else
        Reading.lineEnds
        let body ← statement fuel inner
        pure (.sequence [first, .loop false condition step body])
    | _ => do
      let s ← simple p
      statementEnd
      pure s
where
  /-- Takes statements up to the brace that closes them. -/
  statements : (fuel : Nat) → Place → Reading (List Statement)
    | 0, _ => failure
    | fuel + 1, p => do
      Reading.ends
      if ← Reading.symbol "\x7d" then pure []
      else
        let s ← statement fuel p
        pure (s :: (← statements fuel p))

/-- Takes what stands in braces. -/
def block (p : Place) : Reading Statement := do
  match ← get with
  | .symbol "\x7b" :: _ => do statement (2 * (← get).length + 2) p
  | _ => failure

/-- Takes names with commas between them up to a closing bracket. -/
def parameters : (fuel : Nat) → Reading (List String)
  | 0 => failure
  | fuel + 1 => do
    Reading.lineEnds
    if ← Reading.symbol ")" then pure []
    else
      let name ← Reading.name
      if ← Reading.symbol "," then pure (name :: (← parameters fuel))
      else
        Reading.expect ")"
        pure [name]

def item (found : Rules) : Reading Rules := do
  let rule (occasion : Occasion) (action : Option Statement) : Reading Rules :=
    pure { found with rules := found.rules ++ [⟨occasion, action⟩] }
  let define (name : String) : Reading Rules := do
    Reading.expect "("
    let names ← parameters ((← get).length + 1)
    Reading.lineEnds
    let body ← block { inFunction := true }
    pure { found with functions := found.functions ++ [(name, ⟨names, body⟩)] }
  let action? : Reading (Option Statement) := do
    match ← get with
    | .symbol "\x7b" :: _ => some <$> block {}
    | _ => do
      if isEnd (← get) then pure none else failure
  match ← get with
  | .keyword "BEGIN" :: rest => do
    set rest
    rule .start (some (← block { hasRecord := false }))
  | .keyword "END" :: rest => do
    set rest
    rule .finish (some (← block { hasRecord := false }))
  | .keyword "function" :: .name name :: rest | .keyword "function" :: .call name :: rest => do
    set rest
    define name
  | .symbol "\x7b" :: _ => do rule .always (← action?)
  | _ => do
    let first ← whole {}
    if ← Reading.symbol "," then
      Reading.lineEnds
      let last ← whole {}
      rule (.range first last) (← action?)
    else rule (.when first) (← action?)

def items (found : Rules) : (fuel : Nat) → Reading Rules
  | 0 => failure
  | fuel + 1 => do
    Reading.ends
    if (← get).isEmpty then pure found else items (← item found) fuel

/-- Reads rules; `none` if they are not well formed or call a function that is not there. -/
def Rules.read? (source : List Char) : Option Rules := do
  let ts ← Token.read none (source.length + 1) source
  let (found, _) ← (items {} (ts.length + 1)).run ts
  let isDefined : Token → Bool := fun
    | .call name => found.functions.any fun f => f.1 = name
    | _ => true
  if ts.all isDefined then some found else none

end SbtWorkspace.Simulation.Records
