import SbtWorkspace.Terminal.Literal.Token

/-! Readers of tokens. A reader gives a result and the tokens that are left, or it does not fit, or it refuses the
text, after which no other reader is tried. How far the tokens were looked at is kept in all three cases. -/

namespace SbtWorkspace.Terminal.Literal

/-- A way to read tokens: it gives a result and the rest, or it does not fit, or it refuses the text. The least
number of tokens that were left where one was looked at is kept. -/
abbrev Reader := StateT (List Token) (OptionT (ExceptT Refusal (StateM Nat)))

def refuseWith (r : Refusal) : Reader α := fun _ => OptionT.mk (throw r)

/-- Tells a fault. -/
def refuse (fault : Fault) : Reader α := refuseWith ⟨fault, false⟩

def neverClosed (bracket : Char) : Fault := between bracket ++ " was never closed"

/-- The next token. The end of the text is a fault where a bracket is open, or where it breaks off. -/
def next : Reader Kind := do
  let ts ← get
  monadLift (modify (min ts.length) : StateM Nat PUnit)
  match ts.head?.map Token.kind with
  | some (.unclosed bracket _) => refuse (neverClosed bracket)
  | some (.broken fault _ none) => refuse fault
  | some (.broken _ _ (some fault)) => refuseWith ⟨fault, true⟩
  | some (.misread fault later) => refuseWith ⟨later.getD fault, true⟩
  | some kind => pure kind
  | none => failure

/-- Takes the next token. -/
def take : Reader Unit := modify List.tail

def isNext (s : String) : Reader Bool := do
  match ← next with
  | .operator t | .name t => pure (t = s)
  | _ => pure false

def takeIf (s : String) : Reader Bool := do
  if ← isNext s then
    take
    pure true
  else pure false

/-- Takes an operator or a reserved word. -/
def expect (s : String) : Reader Unit := do if ← takeIf s then pure () else failure

/-- The result of a reader, if it fits. -/
def optional (r : Reader α) : Reader (Option α) := (some <$> r) <|> pure none

def ahead (r : Reader α) : Reader (Option α) := do
  let ts ← get
  let a ← optional r
  set ts
  pure a

def keywords : List String :=
  ["False", "None", "True", "and", "as", "assert", "async", "await", "break", "class", "continue", "def",
    "del", "elif", "else", "except", "finally", "for", "from", "global", "if", "import", "in", "is", "lambda",
    "nonlocal", "not", "or", "pass", "raise", "return", "try", "while", "with", "yield"]

def identifier : Reader String := do
  match ← next with
  | .name s => if keywords.contains s then failure else do
      take
      pure s
  | _ => failure

/-- What was read of a text: a result, nothing that fits, or why it is refused. -/
abbrev Outcome (α : Type) := Except Refusal (Option α)

/-- Reads tokens; gives what was read, and the least number of tokens that were left where one was looked at. -/
def Reader.runOn (r : Reader α) (ts : List Token) (reach : Nat) : Outcome α × Nat :=
  let (result, reach) := ((r.run ts).run.run.run reach : Except Refusal (Option (α × List Token)) × Nat)
  (result.map fun found => found.map Prod.fst, reach)

end SbtWorkspace.Terminal.Literal
