import SbtWorkspace.Terminal.Literal.Expression
import SbtWorkspace.Terminal.Literal.Reader

/-! Which tokens make an expression, and why others make none. A text is read twice: first as it should be,
and if that fails once more to find out what was meant. What the second reading finds is told; what it cannot
explain is an invalid syntax. -/

namespace SbtWorkspace.Terminal.Literal

/-- How the expressions inside an expression are read. `plain` never explains, and `calm` explains only
what follows the first part of an expression. -/
structure Grammar where
  explains : Bool
  expression : Reader Expr
  inversion : Reader Expr
  factor : Reader Expr
  primary : Reader Expr
  atom : Reader Expr
  named : Reader Expr
  plain : Reader Expr
  calm : Reader Expr

def Grammar.explain (g : Grammar) (fault : Fault) : Reader α :=
  if g.explains then refuse fault else failure

/-! ### Operators -/

/-- Operands joined by operators, which are read from the left by `join`. An operator without an operand is
not taken. -/
def chain (operators : List String) (operand : Reader Expr) (join : String → Expr → Expr → Expr)
    (first : Expr) : (fuel : Nat) → Reader Expr
  | 0 => pure first
  | fuel + 1 => do
    match ← next with
    | .operator s | .name s =>
      if operators.contains s then
        match ← optional (do take; operand) with
        | some second => chain operators operand join (join s first second) fuel
        | none => pure first
      else pure first
    | _ => pure first

/-- Operands joined by operators of one level. -/
def joined (operators : List String) (operand : Reader Expr) (join : String → Expr → Expr → Expr) :
    Reader Expr := do
  let first ← operand
  chain operators operand join first ((← get).length + 1)

/-- What an operator makes of two operands. -/
def operation (_ : String) (_ _ : Expr) : Expr := .form .operation

/-- The sum or difference of two operands. That of a number and an imaginary one is a number again. -/
def sum (_ : String) : Expr → Expr → Expr
  | .number false, .number true | .signed false, .number true => .complex
  | _, _ => .form .operation

/-! ### Parts of brackets -/

def isNaming : Reader Bool := do
  match (← get).map Token.kind with
  | .name s :: .operator ":=" :: _ => pure !(keywords.contains s)
  | _ => pure false

/-- Whether a constant or a tuple begins here, or a comprehension between round brackets. -/
def isFixed (g : Grammar) : Reader Bool := do
  match ← next with
  | .name s => pure (["True", "False", "None"].contains s)
  | .operator "(" => do
    match ← ahead g.atom with
    | some (.tuple _) | some (.form .generator) => pure true
    | _ => pure false
  | _ => pure false

/-- Explains an equals sign or a colon that follows an expression, which begins with the tokens `begun`. -/
def explainAssignment (g : Grammar) (operand : Reader Expr) (begun : List Token) (e : Expr) : Reader Unit := do
  let isNamed ← ahead do
    expect ":="
    g.expression
  if isNamed.isSome then refuse ("cannot use assignment expressions with " ++ e.wording)
  else if (← isNext "=") ∧ e.isOperand then do
    let rest ← get
    set begun
    let isFixed ← isFixed g
    set rest
    let isValue ← if isFixed then pure none
      else ahead do
        expect "="
        let _ ← operand
        pure !((← isNext "=") || (← isNext ":="))
    if isValue = some true then
      match e with
      | .name _ => refuse "invalid syntax. Maybe you meant '==' or ':=' instead of '='?"
      | e => refuse ("cannot assign to " ++ e.wording ++ " here. Maybe you meant '==' instead of '='?")
  else pure ()

/-- The expression that a reader gives, to which nothing may be assigned. -/
def unassigned (g : Grammar) (operand : Reader Expr) (r : Reader Expr) : Reader Expr := do
  let begun ← get
  let e ← r
  if g.explains then explainAssignment g operand begun e
  if ← isNext ":=" then failure else pure e

def item (g : Grammar) (operand : Reader Expr) : Reader Expr := do
  if ← takeIf "*" then do pure (.starred (← operand)) else g.named

def items (g : Grammar) (operand : Reader Expr) (bracket : String) : (fuel : Nat) → Reader (List Expr)
  | 0 => failure
  | fuel + 1 => do
    if ← takeIf bracket then pure []
    else
      let first ← item g operand
      if ← takeIf "," then do pure (first :: (← items g operand bracket fuel))
      else do
        expect bracket
        pure [first]

def rowItem (g : Grammar) (operand : Reader Expr) : Reader Expr := do
  if ← takeIf "*" then do pure (.starred (← operand)) else g.expression

def rowRest (g : Grammar) (operand : Reader Expr) : (fuel : Nat) → Reader (List Expr)
  | 0 => pure []
  | fuel + 1 => do
    if ← takeIf "," then
      match ← optional (rowItem g operand) with
      | some e => do pure (e :: (← rowRest g operand fuel))
      | none => pure []
    else pure []

/-- Expressions with commas between them, which make a tuple. -/
def rowFrom (g : Grammar) (operand : Reader Expr) (first : Reader Expr) : Reader Expr := do
  let first ← first
  if ← isNext "," then do pure (.tuple (first :: (← rowRest g operand ((← get).length + 1))))
  else pure first

/-- Expressions with commas between them, each of which may be unpacked. -/
def row (g : Grammar) (operand : Reader Expr) : Reader Expr := rowFrom g operand (rowItem g operand)

/-- A variable of a comprehension. -/
def target (g : Grammar) : Reader Unit := do
  let _ ← takeIf "*"
  if (← g.primary).isTarget then pure () else failure

def targets (g : Grammar) : (fuel : Nat) → Reader Unit
  | 0 => failure
  | fuel + 1 => do
    target g
    if ← takeIf "," then
      let _ ← optional (targets g fuel)

def conditions (disjunction : Reader Expr) : (fuel : Nat) → Reader Unit
  | 0 => pure ()
  | fuel + 1 => do
    let found ← optional do
      expect "if"
      disjunction
    if found.isSome then conditions disjunction fuel

def clause (g : Grammar) (operand disjunction : Reader Expr) : Reader Unit := do
  let _ ← takeIf "async"
  expect "for"
  let fits ← optional do
    targets g ((← get).length + 1)
    expect "in"
  if fits.isSome then do
    let _ ← disjunction
    conditions disjunction ((← get).length + 1)
  else if g.explains then do
    match (← row g operand).untargeted? with
    | some e => refuse ("cannot assign to " ++ e.wording)
    | none => failure
  else failure

def clauses (g : Grammar) (operand disjunction : Reader Expr) : (fuel : Nat) → Reader Unit
  | 0 => failure
  | fuel + 1 => do
    clause g operand disjunction
    let _ ← optional (clauses g operand disjunction fuel)

def explainStar (g : Grammar) (operand disjunction : Reader Expr) (bracket : String) : Reader Unit := do
  let _ : Option Unit ← ahead do
    expect "*"
    let _ ← g.expression
    if bracket = ")" ∧ (← isNext bracket) then refuse "cannot use starred expression here"
    clauses g operand disjunction ((← get).length + 1)
    refuse "iterable unpacking cannot be used in comprehension"

def group (g : Grammar) (operand disjunction : Reader Expr) : Reader Expr := do
  expect "("
  let fuel := (← get).length + 1
  if ← takeIf ")" then pure (.tuple [])
  else if ← takeIf "yield" then do
    if ← takeIf "from" then do
      let _ ← g.expression
    else do
      let _ ← optional (row g operand)
    expect ")"
    pure (.form .yield)
  else if ← isNext "**" then
    if g.explains then do
      take
      let _ ← g.expression
      expect ")"
      refuse "cannot use double starred expression here"
    else failure
  else do
    if g.explains then explainStar g operand disjunction ")"
    let first ← item g operand
    if ← takeIf "," then do pure (.tuple (first :: (← items g operand ")" fuel)))
    else
      match first with
      | .starred _ => failure
      | _ =>
        if ← takeIf ")" then pure first
        else do
          clauses g operand disjunction fuel
          expect ")"
          pure (.form .generator)

def explainValue (operand : Reader Expr) : Reader Unit := do
  if (← isNext "\x7d") || (← isNext ",") then refuse "expression expected after dictionary key and ':'"
  else if ← takeIf "*" then do
    let _ ← operand
    refuse "cannot use a starred expression in a dictionary value"

def entryValue (g : Grammar) : Reader Expr := do
  expect ":"
  g.expression

/-- An entry of a dictionary. One that is unpacked has no key. -/
def entry (g : Grammar) (operand : Reader Expr) : Reader (Option Expr × Expr) := do
  if ← takeIf "**" then do pure (none, ← operand)
  else do
    let key ← g.expression
    pure (some key, ← entryValue g)

def entriesAfter (g : Grammar) (operand : Reader Expr) : (fuel : Nat) → Reader (List (Option Expr × Expr))
  | 0 => pure []
  | fuel + 1 => do
    let next ← optional do
      expect ","
      entry g operand
    match next with
    | some e => do pure (e :: (← entriesAfter g operand fuel))
    | none => pure []

def explainEntry (g : Grammar) (operand : Reader Expr) : Reader Unit := do
  let _ ← ahead do
    expect ","
    let _ ← g.expression
    if ← takeIf ":" then explainValue operand else refuse "':' expected after dictionary key"

def dictionaryFrom (g : Grammar) (operand : Reader Expr) (first : Option Expr × Expr) :
    Reader (Option Expr) := do
  let begun ← get
  let rest ← entriesAfter g operand (begun.length + 1)
  let ended ← optional do
    let _ ← takeIf ","
    expect "\x7d"
  if ended.isSome then pure (some (.dictionary (first :: rest)))
  else do
    explainEntry g operand
    set begun
    pure none

def itemsRest (g : Grammar) (operand : Reader Expr) : (fuel : Nat) → Reader Unit
  | 0 => pure ()
  | fuel + 1 => do
    if ← takeIf "," then
      if (← optional (item g operand)).isSome then itemsRest g operand fuel

def explainItems (g : Grammar) (operand disjunction : Reader Expr) : Reader Unit := do
  let _ : Option Unit ← ahead do
    let _ ← item g operand
    if !(← isNext ",") then failure
    itemsRest g operand ((← get).length + 1)
    clauses g operand disjunction ((← get).length + 1)
    refuse "did you forget parentheses around the comprehension target?"

def explainUnpacked (g : Grammar) (operand disjunction : Reader Expr) : Reader Unit := do
  let _ : Option Unit ← ahead do
    expect "**"
    let _ ← operand
    clauses g operand disjunction ((← get).length + 1)
    expect "\x7d"
    refuse "dict unpacking cannot be used in dict comprehension"

def setFrom (g : Grammar) (operand disjunction : Reader Expr) (first : Reader Expr) : Reader Expr := do
  let begun ← get
  let fuel := begun.length + 1
  let elements : Reader Expr := do
    let e ← first
    if ← takeIf "," then do pure (.set (e :: (← items g operand "\x7d" fuel)))
    else if ← takeIf "\x7d" then pure (.set [e])
    else
      match e with
      | .starred _ => failure
      | _ => do
        clauses g operand disjunction fuel
        expect "\x7d"
        pure (.form .setComprehension)
  match ← optional elements with
  | some e => pure e
  | none => do
    if g.explains then
      set begun
      explainStar g operand disjunction "\x7d"
      explainItems g operand disjunction
    failure

def unpackedFrom (g : Grammar) (operand disjunction : Reader Expr) : Reader Expr := do
  let begun ← get
  let first ← entry g operand
  match ← dictionaryFrom g operand first with
  | some e => pure e
  | none => do
    set begun
    if g.explains then explainUnpacked g operand disjunction
    failure

def entryFrom (g : Grammar) (operand disjunction : Reader Expr) (key : Expr) : Reader Expr := do
  match ← optional (entryValue g) with
  | some value => do
    match ← dictionaryFrom g operand (some key, value) with
    | some e => pure e
    | none => do
      clauses g operand disjunction ((← get).length + 1)
      expect "\x7d"
      pure (.form .dictionaryComprehension)
  | none => do
    expect ":"
    explainValue operand
    failure

def braces (g : Grammar) (operand disjunction : Reader Expr) : Reader Expr := do
  expect "\x7b"
  let begun ← get
  if ← takeIf "\x7d" then pure (.dictionary [])
  else if ← isNext "**" then unpackedFrom g operand disjunction
  else if (← isNext "*") || (← isNaming) then setFrom g operand disjunction (item g operand)
  else do
    let first ← g.expression
    if ← isNext ":" then entryFrom g operand disjunction first
    else do
      let rest ← get
      set begun
      setFrom g operand disjunction do
        unassigned g operand do
          set rest
          pure first

/-- What arguments of a call are: how many have no keyword, and whether others are unpacked dictionaries. -/
structure Arguments where
  plain : Nat := 0
  hasUnpacked : Bool := false

def plainArgument (g : Grammar) : Reader Unit := do
  if ← takeIf "*" then
    let _ ← g.expression
  else do
    let isNamed ← isNaming
    if isNamed then do
      take
      take
    let _ ← g.expression
    if !isNamed ∧ (← isNext ":=") then failure
    if ← isNext "=" then failure

def explainKeyword (g : Grammar) (operand disjunction : Reader Expr) : Reader Unit := do
  let begun ← get
  match begun.map Token.kind with
  | .name s :: .operator "=" :: _ => do
    if ["True", "False", "None"].contains s then refuse ("cannot assign to " ++ s)
    let isComprehension ← ahead do
      let _ ← identifier
      take
      let _ ← g.expression
      clauses g operand disjunction ((← get).length + 1)
    if isComprehension.isSome then refuse "invalid syntax. Maybe you meant '==' or ':=' instead of '='?"
  | _ => do
    let isAssigned ← ahead do
      let _ ← g.expression
      expect "="
    if isAssigned.isSome then refuse "expression cannot contain assignment, perhaps you meant \"==\"?"

/-- An argument with a keyword, or one that is unpacked; gives whether it has none, and whether it is an unpacked
dictionary. -/
def keywordArgument (g : Grammar) (operand disjunction : Reader Expr) (unpacksAll : Bool) :
    Reader (Bool × Bool) := do
  if g.explains then explainKeyword g operand disjunction
  match (← get).map Token.kind with
  | .name _ :: .operator "=" :: _ => do
    let _ ← identifier
    take
    let _ ← g.expression
    pure (false, false)
  | _ => do
    expect (if unpacksAll then "**" else "*")
    let _ ← g.expression
    pure (!unpacksAll, unpacksAll)

def argumentsOf (one : Reader (Bool × Bool)) (a : Arguments) : (fuel : Nat) → Reader Arguments
  | 0 => pure a
  | fuel + 1 => do
    let (isPlain, isUnpacked) ← one
    let a : Arguments := ⟨if isPlain then a.plain + 1 else a.plain, a.hasUnpacked || isUnpacked⟩
    let more ← optional do
      expect ","
      argumentsOf one a fuel
    pure (more.getD a)

/-- The arguments of a call: those without a keyword, then those with one, then those that unpack dictionaries. -/
def arguments (g : Grammar) (operand disjunction : Reader Expr) : Reader Arguments := do
  let fuel := (← get).length + 1
  let plain := argumentsOf (do plainArgument g; pure (true, false))
  let keywords := argumentsOf (keywordArgument g operand disjunction false)
  let unpacked := argumentsOf (keywordArgument g operand disjunction true)
  let named (a : Arguments) : Reader Arguments := do
    match ← optional (keywords a fuel) with
    | some a => do
      let more ← optional do
        expect ","
        unpacked a fuel
      pure (more.getD a)
    | none => unpacked a fuel
  match ← optional (plain {} fuel) with
  | some a => do
    let more ← optional do
      expect ","
      named a
    pure (more.getD a)
  | none => named {}

def generatorFault : Fault := "Generator expression must be parenthesized"

/-- Explains arguments that are not followed by the bracket. The tokens from the first of them on are `begun`, and
those after them are at hand where there are any. -/
def explainArguments (g : Grammar) (operand disjunction : Reader Expr) (begun : List Token)
    (found : Option Arguments) : Reader Unit := do
  let rest ← get
  let parts : Reader Unit := do clauses g operand disjunction ((← get).length + 1)
  let fits (r : Reader Unit) : Reader Bool := do pure (← ahead r).isSome
  if found.isSome then
    if ← fits (do expect ","; expect "*") then
      refuse "iterable argument unpacking follows keyword argument unpacking"
  set begun
  let others : Reader Unit := do
    let _ ← optional (arguments g operand disjunction)
  if ← fits (do let _ ← g.expression; parts; expect ","; others) then refuse generatorFault
  set rest
  match found with
  | none => pure ()
  | some a => do
    if 1 < a.plain then
      if ← fits parts then refuse generatorFault
    else
      let _ ← fits parts
    if ← fits (do expect ","; let _ ← g.expression; parts) then refuse generatorFault
    if ← fits (do expect ","; let _ ← arguments g operand disjunction) then
      refuse (if a.hasUnpacked then "positional argument follows keyword argument unpacking"
        else "positional argument follows keyword argument")

/-- The only argument of a call, which is a comprehension without brackets of its own, up to the bracket. -/
def generatorArgument (g : Grammar) (operand disjunction : Reader Expr) : Reader Unit := do
  if ← isNaming then do
    take
    take
  let _ ← g.expression
  clauses g operand disjunction ((← get).length + 1)
  expect ")"

/-- What the brackets of a call contain, from the opening one on. -/
def call (g : Grammar) (operand disjunction : Reader Expr) : Reader Unit := do
  expect "("
  let begun ← get
  if (← optional (generatorArgument g operand disjunction)).isNone then
    if g.explains then explainStar g operand disjunction "("
    let found ← optional (arguments g operand disjunction)
    let ended ← optional do
      if found.isSome then
        let _ ← takeIf ","
      expect ")"
    if ended.isNone then
      if g.explains then explainArguments g operand disjunction begun found
      failure

/-! ### Levels of expressions -/

/-- The strings that stand side by side here: whether each is one of octets, whether it has expressions in it, and
why it is refused. -/
def sideBySide : (fuel : Nat) → Reader (List (Bool × Bool × Option Refusal))
  | 0 => pure []
  | fuel + 1 => do
    match ← next with
    | .string isBytes isFormatted refusal => do
      take
      pure ((isBytes, isFormatted, refusal) :: (← sideBySide fuel))
    | _ => pure []

/-- The string that strings make which stand side by side. -/
def strings : Reader Expr := do
  let parts ← sideBySide ((← get).length + 1)
  let isBytes := (parts.head?.map (·.1)).getD false
  for (bytes, isFormatted, refusal) in parts do
    if let (false, some r) := (isFormatted, refusal) then refuseWith r
    if bytes ≠ isBytes then refuse "cannot mix bytes and nonbytes literals"
    if let some r := refusal then refuseWith r
  pure (if parts.any (·.2.1) then .form .formatted else .text isBytes)

def atom (g : Grammar) (operand disjunction : Reader Expr) : Reader Expr := do
  match ← next with
  | .name s =>
    if ["True", "False", "None"].contains s then do
      take
      pure (.constant s)
    else do pure (.name (← identifier))
  | .number _ (some fault) => refuse fault
  | .number isImaginary none => do
    take
    pure (.number isImaginary)
  | .string .. => strings
  | .operator "(" => group g operand disjunction
  | .operator "\x7b" => braces g operand disjunction
  | .operator "..." => do
    take
    pure .ellipsis
  | _ => failure

def trailers (g : Grammar) (operand disjunction : Reader Expr) (e : Expr) : (fuel : Nat) → Reader Expr
  | 0 => pure e
  | fuel + 1 => do
    let member : Reader Expr := do
      expect "."
      let _ ← identifier
      pure (.form .member)
    let called : Reader Expr := do
      let isEmpty := ((← get)[1]?.map Token.kind) = some (.operator ")")
      call g operand disjunction
      pure (match e with
        | .name "set" => if isEmpty then .emptySet else .form .call
        | _ => .form .call)
    if g.explains then
      let _ : Option Unit ← ahead do
        expect "\x7b"
        explainStar g operand disjunction "\x7d"
        explainItems g operand disjunction
    match ← optional (member <|> called) with
    | some e => trailers g operand disjunction e fuel
    | none => pure e

def primary (g : Grammar) (operand disjunction : Reader Expr) : Reader Expr := do
  let e ← atom g operand disjunction
  trailers g operand disjunction e ((← get).length + 1)

def factor (g : Grammar) (operand disjunction : Reader Expr) : Reader Expr := do
  match ← next with
  | .operator s =>
    if ["+", "-", "~"].contains s then do
      take
      match ← g.factor with
      | .number isImaginary => pure (if s = "~" then .form .operation else .signed isImaginary)
      | _ => pure (.form .operation)
    else power
  | _ => power
where
  /-- An operand, which may be raised to a power. -/
  power : Reader Expr := do
    let base ← if ← takeIf "await" then do
        let _ ← primary g operand disjunction
        pure (.form .await)
      else primary g operand disjunction
    let raised ← optional do
      expect "**"
      g.factor
    pure (if raised.isSome then .form .operation else base)

def operandOf (factor : Reader Expr) : Reader Expr :=
  let term := joined ["*", "/", "//", "%", "@"] factor operation
  let sums := joined ["+", "-"] term sum
  let shifts := joined ["<<", ">>"] sums operation
  let ands := joined ["&"] shifts operation
  let xors := joined ["^"] ands operation
  joined ["|"] xors operation

def comparator : Reader Bool := do
  match ← next with
  | .operator s =>
    if ["==", "!=", "<", "<=", ">", ">="].contains s then do
      take
      pure false
    else failure
  | .name s =>
    if s = "in" then do
      take
      pure true
    else if s = "is" then do
      take
      let _ ← takeIf "not"
      pure false
    else if s = "not" then do
      take
      expect "in"
      pure false
    else failure
  | _ => failure

def comparisons (operand : Reader Expr) (e : Expr) : (fuel : Nat) → Reader Expr
  | 0 => pure e
  | fuel + 1 => do
    let compared ← optional do
      let isMembership ← comparator
      let _ ← operand
      pure isMembership
    match compared, e with
    | some _, .comparison .. => comparisons operand e fuel
    | some isMembership, _ => comparisons operand (.comparison isMembership e) fuel
    | none, _ => pure e

def inversion (g : Grammar) (operand : Reader Expr) : Reader Expr := do
  if ← takeIf "not" then do
    let _ ← g.inversion
    pure (.form .logical)
  else do
    let e ← operand
    comparisons operand e ((← get).length + 1)

def disjunctionOf (inversion : Reader Expr) : Reader Expr :=
  let logical (_ : String) (_ _ : Expr) : Expr := .form .logical
  joined ["or"] (joined ["and"] inversion logical) logical

def many (r : Reader Unit) : (fuel : Nat) → Reader Nat
  | 0 => pure 0
  | fuel + 1 => do
    if (← optional r).isSome then do pure ((← many r fuel) + 1) else pure 0

namespace Parameter

/-- What follows a parameter: a comma, which is taken, or the colon. -/
def ending : Reader Unit := do
  if !(← takeIf ",") then
    if !(← isNext ":") then failure

/-- A parameter without a value. -/
def bare : Reader Unit := do
  let _ ← identifier
  ending

/-- The value that stands for an argument that is not given. -/
def value (g : Grammar) : Reader Unit := do
  expect "="
  if (← optional g.expression).isNone then
    if (← isNext ")") || (← isNext ",") then g.explain "expected default value expression" else failure

def valued (g : Grammar) : Reader Unit := do
  let _ ← identifier
  value g
  ending

/-- A parameter with or without a value. -/
def either (g : Grammar) : Reader Unit := do
  let _ ← identifier
  let _ ← optional (value g)
  ending

/-- A slash, which ends the parameters that have no keyword. -/
def slash : Reader Unit := do
  expect "/"
  ending

/-- Reads as often as it fits, once at least. -/
def some (r : Reader Unit) : Reader Unit := do
  if (← many r ((← get).length + 1)) = 0 then failure

/-- Reads as often as it fits. -/
def any (r : Reader Unit) : Reader Unit := do
  let _ ← many r ((← get).length + 1)

def valuedSlash (g : Grammar) : Reader Unit := do
  any bare
  some (valued g)
  slash

def beforeSlash (g : Grammar) : Reader Unit := (do some bare; slash) <|> valuedSlash g

def explainBy (fault : Fault) (r : Reader Unit) : Reader Unit := do
  if (← ahead r).isSome then refuse fault

def explainAll (g : Grammar) : Reader Unit := do
  explainBy "non-default argument follows default argument" do
    any bare
    valuedSlash g <|> some (valued g)
    bare
  explainBy "Lambda expression parameters cannot be parenthesized" do
    any bare
    expect "("
    let _ ← identifier
    any (do expect ","; let _ ← identifier)
    let _ ← takeIf ","
    expect ")"
  explainBy "at least one argument must precede /" (do expect "/"; expect ",")
  explainBy "/ may appear only once" do
    beforeSlash g
    any (either g)
    expect "/"
  explainBy "/ must be ahead of *" do
    let _ ← optional (beforeSlash g)
    any (either g)
    expect "*"
    expect "," <|> bare
    any (either g)
    expect "/"
  explainBy "expected comma between / and *" do
    some (either g)
    expect "/"
    expect "*"

def explainStar (g : Grammar) : Reader Unit := do
  explainBy "named arguments must follow bare *" do
    expect "*"
    expect ":" <|> do
      expect ","
      expect ":" <|> expect "**"
  explainBy "var-positional argument cannot have default value" do
    expect "*"
    let _ ← identifier
    expect "="
  explainBy "* argument may appear only once" do
    expect "*"
    bare <|> expect ","
    any (either g)
    expect "*"
    bare <|> expect ","

def explainStars : Reader Unit := do
  explainBy "var-keyword argument cannot have default value" do
    expect "**"
    let _ ← identifier
    expect "="
  explainBy "arguments cannot follow var-keyword argument" do
    expect "**"
    let _ ← identifier
    expect ","
    (do let _ ← identifier) <|> expect "*" <|> expect "**" <|> expect "/"

/-- The parameter for all arguments with keywords that have no parameter of their own. -/
def keywords (g : Grammar) : Reader Unit := do
  if g.explains then explainStars
  expect "**"
  bare

/-- The parameter for all arguments that have no parameter of their own, and those after it. -/
def rest (g : Grammar) : Reader Unit := do
  if g.explains then explainStar g
  (do
    expect "*"
    bare
    any (either g)
    let _ ← optional (keywords g)) <|> (do
    expect "*"
    expect ","
    some (either g)
    let _ ← optional (keywords g)) <|> keywords g

/-- The parameters of a function. -/
def all (g : Grammar) : Reader Unit := do
  if g.explains then explainAll g
  let last : Reader Unit := do
    let _ ← optional (rest g)
  (do some bare; slash; any bare; any (valued g); last) <|>
    (do valuedSlash g; any (valued g); last) <|>
    (do some bare; any (valued g); last) <|>
    (do some (valued g); last) <|>
    rest g

end Parameter

/-- A function without a name. -/
def function (g : Grammar) : Reader Expr := do
  expect "lambda"
  let _ ← optional (Parameter.all g)
  expect ":"
  let _ ← g.expression
  pure (.form .function)

def isStatementName : Expr → Bool
  | .name s => s = "print" || s = "exec"
  | _ => false

/-- Whether a name is reserved in some places only, or is the beginning of one that is. -/
def isSoftKeyword (s : String) : Bool := ["_", "case", "match"].any fun w => s.toList.isPrefixOf w.toList

/-- Explains what follows an expression that began with the tokens `begun`, if anything is to be
explained. -/
def explainAfter (g : Grammar) (begun : List Token) (operand disjunction : Reader Expr) (e : Expr) :
    Reader Unit := do
  let isApart := match begun.map Token.kind with
    | .name s :: rest => isSoftKeyword s || match rest with
      | .string .. :: _ => !keywords.contains s
      | _ => false
    | _ => false
  let rest ← get
  if !isApart then
    let level ← ahead do
      let _ ← g.plain
      let taken := rest.length - (← get).length
      pure (((rest[taken - 1]?).map Token.level).getD 0)
    match level with
    | some level =>
      if level ≠ 0 ∧ !isStatementName e then refuse "invalid syntax. Perhaps you forgot a comma?"
    | none => pure ()
  let isOpen ← ahead do
    expect "if"
    let _ ← disjunction
    pure !((← isNext "else") || (← isNext ":"))
  if isOpen = some true then refuse "expected 'else' after 'if' expression"
  set begun
  let statement ← ahead do
    let s ← identifier
    if ← isNext "(" then failure
    else do
      let isCalm := !isApart && !(← isNext "*")
      let _ ← rowFrom g operand (if isCalm then g.calm else rowItem g operand)
      pure s
  set rest
  match statement with
  | some s =>
    if isStatementName (.name s) then
      refuse ("Missing parentheses in call to '" ++ s ++ "'. Did you mean " ++ s ++ "(...)?")
  | none => pure ()

def expression (g : Grammar) (operand disjunction : Reader Expr) : Reader Expr := do
  let begun ← get
  match ← optional disjunction with
  | none => function g
  | some e => do
    if g.explains then explainAfter g begun operand disjunction e
    let otherwise ← optional do
      expect "if"
      let _ ← disjunction
      expect "else"
      let _ ← g.expression
    pure (if otherwise.isSome then .form .conditional else e)

/-- An expression that may be given a name. -/
def named (g : Grammar) (operand whole : Reader Expr) : Reader Expr := do
  if ← isNaming then do
    take
    take
    let _ ← whole
    pure (.form .assignment)
  else unassigned g operand whole

/-- The grammar for expressions that are nested no deeper than the fuel allows. -/
def grammar (explains : Bool) : (fuel : Nat) → Grammar
  | 0 => ⟨explains, failure, failure, failure, failure, failure, failure, failure, failure⟩
  | fuel + 1 =>
    let g := grammar explains fuel
    let p := if explains then grammar false fuel else g
    let plain := p.expression
    let calm := expression { g with plain } (operandOf p.factor) (disjunctionOf p.inversion)
    let g := { g with plain, calm }
    let operand : Reader Expr := operandOf g.factor
    let disjunction : Reader Expr := disjunctionOf g.inversion
    let primary := primary g operand disjunction
    let atom := atom g operand disjunction
    let factor := factor g operand disjunction
    let operand := operandOf factor
    let inversion := inversion g operand
    let disjunction := disjunctionOf inversion
    let whole := expression g operand disjunction
    ⟨explains, whole, inversion, factor, primary, atom, named g operand whole, plain, calm⟩

def whole (g : Grammar) : Reader Expr := do
  let first ← g.expression
  let e ← if ← isNext "," then more first ((← get).length + 1) else pure first
  lineEnds ((← get).length + 1)
  match ← next with
  | .finish => pure e
  | _ => failure
where
  /-- The expressions after the first one, with it. -/
  more (first : Expr) : (fuel : Nat) → Reader Expr
    | 0 => failure
    | fuel + 1 => do
      let rest ← others fuel
      pure (.tuple (first :: rest))
  /-- The expressions after commas. -/
  others : (fuel : Nat) → Reader (List Expr)
    | 0 => failure
    | fuel + 1 => do
      if ← takeIf "," then
        match ← optional g.expression with
        | some e => do pure (e :: (← others fuel))
        | none => pure []
      else pure []
  /-- Ends of lines. -/
  lineEnds : (fuel : Nat) → Reader Unit
    | 0 => failure
    | fuel + 1 => do
      match ← next with
      | .newline => do
        take
        lineEnds fuel
      | _ => pure ()

def maxDepth : Nat := 500

def lineAt (ts : List Token) (reach : Nat) : Nat :=
  ((ts.drop (ts.length - reach)).head?.map Token.line).getD 1

/-- Why a text is refused that reading refuses which came as far as `reach` says: what belongs to no token counts
first, and a bracket that is never closed counts if the reading came to a line after its own. -/
def overruled (ts : List Token) (reach : Nat) (r : Refusal) : Refusal :=
  let ifBefore (bracket : Char) (line : Nat) : Refusal :=
    if line < lineAt ts reach then ⟨neverClosed bracket, false⟩ else r
  if reach ≤ 1 then r
  else
    match ts.getLast?.map Token.kind with
    | some (.misread fault _) => ⟨fault, true⟩
    | some (.unclosed bracket line) | some (.broken _ (some (bracket, line)) _) => ifBefore bracket line
    | _ => r

/-- The expression that tokens make, or why they make none. -/
def readTokens (reader : Grammar → Reader Expr) (ts : List Token) : Except Refusal Expr :=
  let attempt (explains : Bool) (reach : Nat) : Outcome Expr × Nat :=
    (reader (grammar explains (min maxDepth (ts.length + 2)))).runOn ts reach
  match attempt false ts.length with
  | (.ok (some e), _) => .ok e
  | (.error r, reach) => .error (overruled ts reach r)
  | (.ok none, first) =>
    match attempt true first with
    | (.error r, reach) => .error (overruled ts reach r)
    | (.ok _, reach) =>
      match (ts.drop (ts.length - first)).head?.map Token.kind with
      | some .indent => .error ⟨"unexpected indent", false⟩
      | some .dedent => .error ⟨"unexpected unindent", false⟩
      | _ => .error (overruled ts reach ⟨"invalid syntax", false⟩)

/-- Reads an expression in a string, in which strings may have expressions in them as deep as the fuel says. -/
def readInner : (fuel : Nat) → List Char → Except Refusal Unit
  | 0, _ => .error ⟨Template.mark ++ Template.unclosed, true⟩
  | fuel + 1, cs =>
    match readTokens Grammar.expression (tokens (readInner fuel) cs) with
    | .ok _ => .ok ()
    | .error r => .error (if r.isFinal then r else ⟨Template.mark ++ r.fault, true⟩)

/-- The expression that a text is written as, or why it is none. -/
def Expr.read (cs : List Char) : Except Fault Expr :=
  (readTokens whole (tokens (readInner cs.length) cs)).mapError Refusal.fault

end SbtWorkspace.Terminal.Literal
