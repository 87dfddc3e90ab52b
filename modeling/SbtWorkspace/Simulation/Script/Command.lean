import SbtWorkspace.Simulation.Script.Token

/-! Commands of a shell script. A script is a list of commands, each of which is complete at the end of a
line. Reading stops at the first command that is not well formed, and those before it stand. -/

namespace SbtWorkspace.Simulation

/-- What becomes of a file descriptor. `forced` says that a file may be written that is protected; `both` connects the
output and the errors. -/
inductive Redirect where
  | write (descriptor : Nat) (forced : Bool) (target : Word)
  | append (descriptor : Nat) (target : Word)
  | both (appends : Bool) (target : Word)
  | read (descriptor : Nat) (target : Word)
  | text (content : Word)
  | line (content : Word)
  | duplicate (descriptor : Nat) (source : Word)
  deriving DecidableEq

/-- What is put into a variable: a text, or the elements of an array. -/
inductive Content where
  | text (w : Word)
  | items (ws : List Word)
  deriving DecidableEq

/-- An assignment. It may be one to an element of an array, and may add to what is there. -/
structure Assignment where
  name : String
  key : Option Word := none
  appends : Bool := false
  content : Content
  deriving DecidableEq

/-- What comes after a case: nothing, the next case in any way, or the next one that has a pattern. -/
inductive Onward where
  | nothing
  | next
  | other
  deriving DecidableEq

/-- A command. -/
inductive Command where
  /-- A simple command in a line; `later` are assignments of arrays to the variables that it declares. -/
  | simple (line : Nat) (assignments : List Assignment) (words : List Word) (later : List Assignment)
    (redirects : List Redirect)
  | redirected (body : Command) (redirects : List Redirect)
  | sequence (commands : List Command)
  | background (body : Command)
  | pipeline (negated : Bool) (stages : List Command)
  | both (first second : Command)
  | either (first second : Command)
  | subshell (body : Command)
  | conditional (branches : List (Command × Command)) (otherwise : Option Command)
  | loop (whileFails : Bool) (condition body : Command)
  | each (name : String) (words : Option (List Word)) (body : Command)
  /-- A choice of one of some words by the input, again and again. -/
  | menu (name : String) (words : Option (List Word)) (body : Command)
  | choice (subject : Word) (cases : List (List Word × Command × Onward))
  | question (q : Question)
  | calculation (source : List Char)
  | counting (first condition step : List Char) (body : Command)
  | define (name : String) (body : Command)

namespace Script

/-- The words that have a meaning of their own where a command can begin. -/
def reserved : List String :=
  ["!", "\x7b", "\x7d", "case", "do", "done", "elif", "else", "esac", "fi", "for", "if", "then", "until",
    "while"]

def keyword? : Token → Option String
  | .word w => (plain? w).filter reserved.contains
  | _ => none

def closes : List Token → Bool
  | [] => true
  | .operator symbol :: _ => symbol = ")" || symbol = ";;" || symbol = ";;&" || symbol = ";&"
  | t :: _ =>
    (keyword? t).any ["then", "else", "elif", "fi", "do", "done", "esac", "\x7d"].contains

def skipLines (ts : List Token) : List Token := ts.dropWhile (· = .newline)

/-- The tokens after a reserved word. -/
def expect (word : String) : List Token → Option (List Token)
  | t :: rest => if keyword? t = some word then some rest else none
  | [] => none

def expectOperator (symbol : String) : List Token → Option (List Token)
  | .operator s :: rest => if s = symbol then some rest else none
  | _ => none

def leadingChars (w : Word) : List Char :=
  (w.takeWhile fun
    | .literal [_] false => true
    | _ => false).filterMap fun
    | .literal [c] _ => some c
    | _ => none

def keyPieces (depth : Nat) : Word → Option (Word × Word)
  | [] => none
  | p :: rest =>
    let keep (depth : Nat) : Option (Word × Word) := (keyPieces depth rest).map fun r => (p :: r.1, r.2)
    match p with
    | .literal [']'] false =>
      match depth with
      | 0 => some ([], rest)
      | depth + 1 => keep depth
    | .literal ['['] false => keep (depth + 1)
    | _ => keep depth

def assignment? (rich : Bool) (w : Word) : Option Assignment :=
  let name := (leadingChars w).takeWhile isNameChar
  let named (key : Option Word) (rest : Word) : Option Assignment :=
    match rest with
    | .literal ['='] false :: value => some { name := String.ofList name, key, content := .text value }
    | .literal ['+'] false :: .literal ['='] false :: value =>
      if rich then some { name := String.ofList name, key, appends := true, content := .text value } else none
    | _ => none
  if !(name.head?.any isNameStart) then none
  else
    match w.drop name.length with
    | .literal ['['] false :: rest =>
      if rich then (keyPieces 0 rest).bind fun (key, rest) => named (some key) rest else none
    | rest => named none rest

def arrayAssignment (goal : Word) (items : List Word) : Assignment :=
  let chars := (leadingChars goal).dropLast
  let appends := chars.getLast? = some '+'
  { name := String.ofList (if appends then chars.dropLast else chars), appends, content := .items items }

def redirect? : List Token → Option (Redirect × List Token)
  | .redirect descriptor operator :: .word w :: rest =>
    let r : Redirect :=
      match operator with
      | ">" => .write (descriptor.getD 1) false w
      | ">|" => .write (descriptor.getD 1) true w
      | ">>" => .append (descriptor.getD 1) w
      | "&>" => .both false w
      | "&>>" => .both true w
      | "<<<" => .line w
      | ">&" => .duplicate (descriptor.getD 1) w
      | "<&" => .duplicate (descriptor.getD 0) w
      | _ => .read (descriptor.getD 0) w
    some (r, rest)
  | .text content :: rest => some (.text content, rest)
  | _ => none

def redirects : (fuel : Nat) → List Token → List Redirect × List Token
  | 0, ts => ([], ts)
  | fuel + 1, ts =>
    match redirect? ts with
    | some (r, rest) =>
      let (more, rest) := redirects fuel rest
      (r :: more, rest)
    | none => ([], ts)

/-- The commands that declare variables, whose arguments may be assignments of arrays. -/
def declaring : List String := ["declare", "typeset", "local", "export", "readonly"]

/-- A simple command that is being read, and its line. -/
structure Begun where
  line : Nat
  assignments : List Assignment := []
  words : List Word := []
  later : List Assignment := []
  redirects : List Redirect := []

def simple (rich : Bool) (b : Begun) : (fuel : Nat) → List Token → Option (Command × List Token)
  | 0, _ => none
  | fuel + 1, ts =>
    match redirect? ts with
    | some (r, rest) => simple rich { b with redirects := b.redirects ++ [r] } fuel rest
    | none =>
      match ts with
      | .word w :: rest =>
        match b.words, assignment? rich w with
        | [], some a => simple rich { b with assignments := b.assignments ++ [a] } fuel rest
        | _, _ => simple rich { b with words := b.words ++ [w] } fuel rest
      | .array goal items :: rest =>
        let a := arrayAssignment goal items
        match b.words with
        | [] => simple rich { b with assignments := b.assignments ++ [a] } fuel rest
        | first :: _ =>
          if (plain? first).any declaring.contains then
            simple rich
              { b with later := b.later ++ [a], words := b.words ++ [[.literal a.name.toList true]] } fuel rest
          else none
      | _ =>
        if b.assignments.isEmpty ∧ b.words.isEmpty ∧ b.redirects.isEmpty then none
        else some (.simple b.line b.assignments b.words b.later b.redirects, ts)

def wordsOfLine : List Token → List Word × List Token
  | .word w :: rest =>
    let (more, rest) := wordsOfLine rest
    (w :: more, rest)
  | ts => ([], ts)

def patterns : List Token → Option (List Word × List Token)
  | .word w :: .operator ")" :: rest => some ([w], rest)
  | .word w :: .operator "|" :: rest => (patterns rest).map fun r => (w :: r.1, r.2)
  | _ => none

/-- How the commands inside a command are read: a list of them up to where it ends, and one of them that is the body of
a function which begins in a line. `lineOf` tells the line of the first of some tokens. -/
structure Grammar where
  rich : Bool
  lineOf : List Token → Nat
  list : List Token → Option (Command × List Token)
  body : Nat → List Token → Option (Command × List Token)

def branches (g : Grammar) : (fuel : Nat) → List Token → Option (Command × List Token)
  | 0, _ => none
  | fuel + 1, ts => do
    let (condition, ts) ← g.list ts
    let ts ← expect "then" ts
    let (body, ts) ← g.list ts
    match ts with
    | [] => none
    | t :: rest =>
      match keyword? t with
      | some "elif" => do
        match ← branches g fuel rest with
        | (.conditional more otherwise, rest) =>
          pure (.conditional ((condition, body) :: more) otherwise, rest)
        | _ => none
      | some "else" => do
        let (otherwise, rest) ← g.list rest
        pure (.conditional [(condition, body)] (some otherwise), ← expect "fi" rest)
      | some "fi" => pure (.conditional [(condition, body)] none, rest)
      | _ => none

def onward? : List Token → Option (Onward × List Token)
  | .operator ";;" :: rest => some (.nothing, rest)
  | .operator ";&" :: rest => some (.next, rest)
  | .operator ";;&" :: rest => some (.other, rest)
  | _ => none

def cases (g : Grammar) : (fuel : Nat) → List Token → Option (List (List Word × Command × Onward) × List Token)
  | 0, _ => none
  | fuel + 1, ts =>
    let ts := skipLines ts
    match expect "esac" ts with
    | some rest => some ([], rest)
    | none => do
      let ts := (expectOperator "(" ts).getD ts
      let (alternatives, ts) ← patterns ts
      let ts := skipLines ts
      let (body, ts) ← if closes ts then some (.sequence [], ts) else g.list ts
      match onward? ts with
      | some (onward, rest) => do
        let (more, rest) ← cases g fuel rest
        pure ((alternatives, body, onward) :: more, rest)
      | none => pure ([(alternatives, body, .nothing)], ← expect "esac" ts)

def loopBody (g : Grammar) (ts : List Token) : Option (Command × List Token) := do
  match expect "do" ts with
  | some ts => do
    let (body, ts) ← g.list ts
    pure (body, ← expect "done" ts)
  | none => do
    let (body, ts) ← g.list (← if g.rich then expect "\x7b" ts else none)
    pure (body, ← expect "\x7d" ts)

def forLoop (g : Grammar) : List Token → Option (Command × List Token)
  | .calculation source :: ts => do
    match (List.splitOn ';' source) with
    | [first, condition, step] => do
      let ts := (expectOperator ";" ts).getD ts
      let (body, ts) ← loopBody g (skipLines ts)
      pure (.counting first condition step body, ts)
    | _ => none
  | .word w :: ts => do
    let name ← plain? w
    let ts := skipLines ts
    let (words, ts) ← match ts with
      | .word v :: rest =>
        if plain? v = some "in" then
          let (words, rest) := wordsOfLine rest
          match rest with
          | .operator ";" :: rest | .newline :: rest => some (some words, rest)
          | _ => none
        else some (none, ts)
      | .operator ";" :: rest => some (none, rest)
      | _ => none
    let (body, ts) ← loopBody g (skipLines ts)
    pure (.each name words body, ts)
  | _ => none

/-- A command that is no pipeline, and the rest. -/
def command (g : Grammar) (fuel : Nat) (ts : List Token) : Option (Command × List Token) :=
  let withRedirects (r : Option (Command × List Token)) : Option (Command × List Token) :=
    r.map fun (body, ts) =>
      match redirects ts.length ts with
      | ([], _) => (body, ts)
      | (found, rest) => (.redirected body found, rest)
  match ts with
  | .operator "(" :: rest =>
    withRedirects do
      let (body, rest) ← g.list rest
      pure (.subshell body, ← expectOperator ")" rest)
  | .question q :: rest => withRedirects (some (.question q, rest))
  | .calculation source :: rest => withRedirects (some (.calculation source, rest))
  | .word w :: .operator "(" :: .operator ")" :: rest => do
    let name ← plain? w
    let (body, rest) ← g.body (g.lineOf ts) (skipLines rest)
    pure (.define name body, rest)
  | .array goal items :: rest => simple g.rich { line := g.lineOf ts } (ts.length + 1) (.array goal items :: rest)
  | t :: rest =>
    match keyword? t with
    | none =>
      match t, rest with
      | .word w, .word name :: below =>
        if g.rich ∧ plain? w = some "select" then
          withRedirects do
            match ← forLoop g rest with
            | (.each name words body, rest) => pure (.menu name words body, rest)
            | _ => none
        else if g.rich ∧ plain? w = some "function" then do
          let name ← plain? name
          let below := match below with
            | .operator "(" :: .operator ")" :: below => below
            | _ => below
          let (body, rest) ← g.body (g.lineOf ts) (skipLines below)
          pure (.define name body, rest)
        else simple g.rich { line := g.lineOf ts } (ts.length + 1) ts
      | _, _ => simple g.rich { line := g.lineOf ts } (ts.length + 1) ts
    | some "\x7b" =>
      withRedirects do
        let (body, rest) ← g.list rest
        pure (body, ← expect "\x7d" rest)
    | some "if" => withRedirects (branches g fuel rest)
    | some "while" | some "until" =>
      withRedirects do
        let (condition, rest) ← g.list rest
        let (body, rest) ← g.list (← expect "do" rest)
        pure (.loop (keyword? t = some "until") condition body, ← expect "done" rest)
    | some "for" => withRedirects (forLoop g rest)
    | some "case" =>
      withRedirects do
        match rest with
        | .word subject :: rest => do
          match skipLines rest with
          | .word v :: rest =>
            if plain? v = some "in" then do
              let (found, rest) ← cases g fuel rest
              pure (.choice subject found, rest)
            else none
          | _ => none
        | _ => none
    | _ => none
  | [] => none

def stages (g : Grammar) : (fuel : Nat) → List Token → Option (List Command × List Token)
  | 0, _ => none
  | fuel + 1, ts => do
    let (c, ts) ← command g fuel ts
    match expectOperator "|" ts, expectOperator "|&" ts with
    | some rest, _ => do
      let (more, rest) ← stages g fuel (skipLines rest)
      pure (c :: more, rest)
    | none, some rest => do
      let (more, rest) ← stages g fuel (skipLines rest)
      pure (.redirected c [.duplicate 2 [.literal ['1'] true]] :: more, rest)
    | none, none => pure ([c], ts)

/-- The signs before a pipeline, which turn its answer round or measure its time: how the answer is, and the rest. -/
def pipelineSigns (g : Grammar) (negated : Bool) : (fuel : Nat) → List Token → Bool × List Token
  | 0, ts => (negated, ts)
  | fuel + 1, ts =>
    match expect "!" ts with
    | some rest => if g.rich then pipelineSigns g (!negated) fuel rest else (true, rest)
    | none =>
      match ts with
      | .word w :: rest =>
        if g.rich ∧ plain? w = some "time" then
          match rest with
          | .word o :: below => pipelineSigns g negated fuel (if plain? o = some "-p" then below else rest)
          | _ => pipelineSigns g negated fuel rest
        else (negated, ts)
      | _ => (negated, ts)

def pipeline (g : Grammar) (fuel : Nat) (ts : List Token) : Option (Command × List Token) := do
  let isSigned := (expect "!" ts).isSome
  let (negated, rest) := pipelineSigns g false fuel ts
  if rest.length < ts.length ∧ g.rich ∧ !isSigned ∧ rest.all (· = .newline) then pure (.sequence [], rest)
  else
    match ← stages g fuel rest with
    | ([c], rest) => pure (if negated then .pipeline true [c] else c, rest)
    | (found, rest) => pure (.pipeline negated found, rest)

/-- Pipelines that depend on the status of those before, after the first ones, and the rest. -/
def chain (g : Grammar) (first : Command) : (fuel : Nat) → List Token → Option (Command × List Token)
  | 0, _ => none
  | fuel + 1, ts =>
    match expectOperator "&&" ts, expectOperator "||" ts with
    | some rest, _ => do
      let (c, rest) ← pipeline g fuel (skipLines rest)
      chain g (.both first c) fuel rest
    | none, some rest => do
      let (c, rest) ← pipeline g fuel (skipLines rest)
      chain g (.either first c) fuel rest
    | none, none => some (first, ts)

/-- Commands up to the end of a line, or up to where a list ends, and the rest. -/
def list (g : Grammar) (untilLine : Bool) : (fuel : Nat) → List Token → Option (List Command × List Token)
  | 0, _ => none
  | fuel + 1, ts => do
    let (c, ts) ← pipeline g fuel ts
    let (c, ts) ← chain g c fuel ts
    let c := if (expectOperator "&" ts).isSome then .background c else c
    let rest := (expectOperator "&" ts).or (expectOperator ";" ts)
    match rest.getD ts with
    | [] => pure ([c], [])
    | .newline :: below =>
      if untilLine then pure ([c], below)
      else if closes (skipLines below) then pure ([c], skipLines below)
      else (list g untilLine fuel (skipLines below)).map fun r => (c :: r.1, r.2)
    | next =>
      if rest.isNone ∨ closes next then if untilLine then none else pure ([c], next)
      else (list g untilLine fuel next).map fun r => (c :: r.1, r.2)

/-- How the commands inside a command are read that are nested no deeper than the fuel allows. A plain shell counts the
lines of a function from its beginning. -/
def grammar (rich : Bool) (lineOf : List Token → Nat) : (fuel : Nat) → (base : Nat) → Grammar
  | 0, _ => ⟨rich, lineOf, fun _ => none, fun _ _ => none⟩
  | fuel + 1, base =>
    let g := grammar rich lineOf fuel base
    { rich
      lineOf := fun ts => lineOf ts - base
      list := fun ts => (list g false (ts.length + 1) (skipLines ts)).map fun r => (.sequence r.1, r.2)
      body := fun line ts =>
        command (grammar rich lineOf fuel (if rich then 0 else base + line - 1)) (ts.length + 1) ts }

def maxDepth : Nat := 100

/-- The complete commands of tokens, and whether one that is not well formed follows them. -/
def commands (g : Grammar) : (fuel : Nat) → List Token → List Command × Bool
  | 0, _ => ([], true)
  | fuel + 1, ts =>
    match skipLines ts with
    | [] => ([], false)
    | ts =>
      match list g true (ts.length + 1) ts with
      | none => ([], true)
      | some (found, rest) =>
        let (more, broken) := commands g fuel rest
        (.sequence found :: more, broken)

/-- Reads a script: its complete commands, and whether one that is not well formed follows them. -/
def parse (rich : Bool) (text : List Char) : List Command × Bool :=
  let found := numberedTokens rich (text.length + 1) 1 0 text
  let ts := found.map (·.1)
  let lines := (found.map (·.2)).toArray
  let last := 1 + text.count '\n'
  let lineOf (rest : List Token) : Nat := lines.getD (lines.size - rest.length) last
  commands (grammar rich lineOf maxDepth 0) (ts.length + 1) ts

end Script

end SbtWorkspace.Simulation
