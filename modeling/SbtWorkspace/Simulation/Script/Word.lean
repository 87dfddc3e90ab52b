/-! Words of a shell script. A word is read into pieces, which keep whether they are quoted and what is to
be put in place of parameters, commands and arithmetic until the word is expanded. What only a rich shell knows is
read where `rich` says so. -/

namespace SbtWorkspace.Simulation

/-- Where a pattern has to match in a value: at the first place, at all, at the beginning or at the end. -/
inductive Anchor where
  | first
  | all
  | start
  | finish
  deriving DecidableEq, Repr

/-- What is made of the value of a parameter. Words and patterns are kept as they are written. In the
four uses that ask whether a parameter is set, `orEmpty` counts an empty one as not set. -/
inductive Use where
  | value
  | length
  | orElse (orEmpty : Bool) (word : List Char)
  | orAssign (orEmpty : Bool) (word : List Char)
  | orFail (orEmpty : Bool) (word : List Char)
  | ifSet (orEmpty : Bool) (word : List Char)
  | cut (atEnd longest : Bool) (pattern : List Char)
  | slice (start : List Char) (length : Option (List Char))
  | replace (anchor : Anchor) (pattern word : List Char)
  | recase (up whole : Bool) (pattern : List Char)
  | transform (letter : Char)
  /-- The keys of an array. -/
  | keys
  /-- The names of variables that begin with the name. -/
  | names
  /-- A use that is not known, with all that is written. -/
  | bad (text : List Char)
  deriving DecidableEq

/-- A parameter: its name, the key of the element that is meant of an array, and whether its value is the name of the
one that is meant. -/
structure Parameter where
  name : String
  key : Option (List Char) := none
  isIndirect : Bool := false
  deriving DecidableEq

/-- A piece of a word. A quoted piece is kept whole where the word is split into fields. -/
inductive Piece where
  | literal (chars : List Char) (quoted : Bool)
  | parameter (p : Parameter) (use : Use) (quoted : Bool)
  | command (source : List Char) (quoted : Bool)
  | arithmetic (source : List Char) (quoted : Bool)
  /-- A file from which the output of commands can be read. -/
  | process (source : List Char)
  deriving DecidableEq

abbrev Word := List Piece

namespace Script

def isNameStart (c : Char) : Bool := c.isAlpha || c = '_'

def isNameChar (c : Char) : Bool := c.isAlphanum || c = '_'

def isSpecial (c : Char) : Bool := "@*#?$!-0123456789".toList.contains c

/-- The text up to the bracket that closes what is opened, and the rest. Quoted brackets do not count. -/
def enclosed (opening closing : Char) (depth : Nat) (quote : Option Char) :
    List Char → Option (List Char × List Char)
  | [] => none
  | [c] => if c = closing ∧ depth = 0 ∧ quote.isNone then some ([], []) else none
  | c :: d :: rest =>
    let keep (r : List Char × List Char) : List Char × List Char := (c :: r.1, r.2)
    if c = '\\' ∧ quote ≠ some '\x27' then
      (enclosed opening closing depth quote rest).map fun r => (c :: d :: r.1, r.2)
    else match quote with
      | some q =>
        (enclosed opening closing depth (if c = q then none else quote) (d :: rest)).map keep
      | none =>
        if c = '\x27' ∨ c = '"' then (enclosed opening closing depth (some c) (d :: rest)).map keep
        else if c = closing then
          match depth with
          | 0 => some ([], d :: rest)
          | depth + 1 => (enclosed opening closing depth none (d :: rest)).map keep
        else if c = opening then (enclosed opening closing (depth + 1) none (d :: rest)).map keep
        else (enclosed opening closing depth none (d :: rest)).map keep

/-- The text up to the next back quote, with the back slashes before others taken off, and the rest. -/
def backquoted : List Char → Option (List Char × List Char)
  | [] => none
  | '\x60' :: rest => some ([], rest)
  | '\\' :: c :: rest =>
    let kept := if ['$', '\\', '\x60'].contains c then [c] else ['\\', c]
    (backquoted rest).map fun r => (kept ++ r.1, r.2)
  | c :: rest => (backquoted rest).map fun r => (c :: r.1, r.2)

def nameHere? (cs : List Char) : Option (String × List Char) :=
  match cs with
  | [] => none
  | c :: rest =>
    if isNameStart c then some (String.ofList (cs.takeWhile isNameChar), cs.dropWhile isNameChar)
    else if c.isDigit then
      some (String.ofList (cs.takeWhile Char.isDigit), cs.dropWhile Char.isDigit)
    else if isSpecial c then some (String.ofList [c], rest)
    else none

/-- A text up to the first place of a character that is not quoted and not in brackets, and the rest after it. -/
def splitAtSign (sign : Char) (depth : Nat) : List Char → List Char × Option (List Char)
  | [] => ([], none)
  | '\\' :: c :: rest =>
    let (before, after) := splitAtSign sign depth rest
    ('\\' :: c :: before, after)
  | c :: rest =>
    if c = sign ∧ depth = 0 then ([], some rest)
    else
      let depth := if c = '(' ∨ c = '\x7b' ∨ c = '[' then depth + 1
        else if c = ')' ∨ c = '\x7d' ∨ c = ']' then depth - 1 else depth
      let (before, after) := splitAtSign sign depth rest
      (c :: before, after)

def replacing (anchor : Anchor) (text : List Char) : Use :=
  let (pattern, word) := splitAtSign '/' 0 text
  .replace anchor pattern (word.getD [])

def richUse? : List Char → Option Use
  | ':' :: text =>
    let (start, length) := splitAtSign ':' 0 text
    some (.slice start length)
  | '/' :: '/' :: text => some (replacing .all text)
  | '/' :: '#' :: text => some (replacing .start text)
  | '/' :: '%' :: text => some (replacing .finish text)
  | '/' :: text => some (replacing .first text)
  | '^' :: '^' :: pattern => some (.recase true true pattern)
  | '^' :: pattern => some (.recase true false pattern)
  | ',' :: ',' :: pattern => some (.recase false true pattern)
  | ',' :: pattern => some (.recase false false pattern)
  | ['@', letter] => some (.transform letter)
  | _ => none

/-- The use that is written after the name of a parameter in braces, `content` being all between them. -/
def use (rich : Bool) (content : List Char) : List Char → Use
  | [] => .value
  | ':' :: '-' :: word => .orElse true word
  | '-' :: word => .orElse false word
  | ':' :: '=' :: word => .orAssign true word
  | '=' :: word => .orAssign false word
  | ':' :: '?' :: word => .orFail true word
  | '?' :: word => .orFail false word
  | ':' :: '+' :: word => .ifSet true word
  | '+' :: word => .ifSet false word
  | '%' :: '%' :: pattern => .cut true true pattern
  | '%' :: pattern => .cut true false pattern
  | '#' :: '#' :: pattern => .cut false true pattern
  | '#' :: pattern => .cut false false pattern
  | cs => (if rich then richUse? cs else none).getD (.bad ("$\x7b".toList ++ content ++ ['\x7d']))

/-- The parameter at the beginning of a text between braces, with the key after it, and the rest. -/
def parameterHere? (rich : Bool) (cs : List Char) : Option (Parameter × List Char) := do
  let (name, rest) ← nameHere? cs
  match rest with
  | '[' :: more =>
    if rich ∧ name.toList.head?.any isNameStart then do
      let (key, rest) ← enclosed '[' ']' 0 none more
      pure ({ name, key := some key }, rest)
    else pure ({ name }, rest)
  | _ => pure ({ name }, rest)

def braced (rich quoted : Bool) (content : List Char) : Piece :=
  let bad : Piece := .parameter { name := "" } (.bad ("$\x7b".toList ++ content ++ ['\x7d'])) quoted
  let plain : Piece :=
    match parameterHere? rich content with
    | some (p, rest) => .parameter p (use rich content rest) quoted
    | none => bad
  match content with
  | '#' :: name@(_ :: _) =>
    match parameterHere? rich name with
    | some (p, []) => .parameter p .length quoted
    | _ => plain
  | '!' :: name@(c :: _) =>
    if rich ∧ (isNameStart c || c.isDigit || c = '#' || c = '@' || c = '*') then
      match parameterHere? rich name with
      | some (p, []) =>
        if p.key = some ['@'] ∨ p.key = some ['*'] then .parameter p .keys quoted
        else .parameter { p with isIndirect := true } .value quoted
      | some (p, ['*']) | some (p, ['@']) => .parameter p .names quoted
      | some (p, rest) => .parameter { p with isIndirect := true } (use rich content rest) quoted
      | none => bad
    else plain
  | _ => plain

/-- The piece that is written after a dollar sign, and the rest; `none` if it is not well formed. -/
def dollar (rich quoted : Bool) (cs : List Char) : Option (Piece × List Char) :=
  match cs with
  | '\x7b' :: rest => do
    let (content, rest) ← enclosed '\x7b' '\x7d' 0 none rest
    pure (braced rich quoted content, rest)
  | '(' :: '(' :: rest =>
    match enclosed '(' ')' 0 none rest with
    | some (source, ')' :: rest) => some (.arithmetic source quoted, rest)
    | _ => (enclosed '(' ')' 0 none ('(' :: rest)).map fun r => (.command r.1 quoted, r.2)
  | '(' :: rest => (enclosed '(' ')' 0 none rest).map fun r => (.command r.1 quoted, r.2)
  | c :: rest =>
    if c.isDigit then some (.parameter { name := String.ofList [c] } .value quoted, rest)
    else if rich ∧ c = '[' then
      (enclosed '[' ']' 0 none rest).map fun r => (.arithmetic r.1 quoted, r.2)
    else match nameHere? cs with
      | some (name, rest) => some (.parameter { name } .value quoted, rest)
      | none => some (.literal ['$'] quoted, cs)
  | [] => some (.literal ['$'] quoted, [])

/-- The number that at most so many digits of a base are written for, and the rest; `none` if there is no digit. -/
def digitsOf (base most : Nat) (cs : List Char) : Option (Nat × List Char) :=
  let value (c : Char) : Nat :=
    if c.isDigit then c.toNat - 48 else if c.isAlpha then c.toLower.toNat - 87 else base
  let ds := (cs.take most).takeWhile fun c => value c < base
  if ds = [] then none else some (ds.foldl (fun n c => n * base + value c) 0, cs.drop ds.length)

/-- The characters up to a closing quote, with escapes that stand for others, and the rest. -/
def escapedQuote : (fuel : Nat) → List Char → Option (List Char × List Char)
  | 0, _ => none
  | _, [] => none
  | _, '\x27' :: rest => some ([], rest)
  | fuel + 1, '\\' :: c :: rest =>
    let add (cs rest : List Char) : Option (List Char × List Char) :=
      (escapedQuote fuel rest).map fun r => (cs ++ r.1, r.2)
    let number (base most : Nat) (digits : List Char) : Option (List Char × List Char) :=
      match digitsOf base most digits with
      | some (n, rest) => add [Char.ofNat n] rest
      | none => add ['\\', c] rest
    match c with
    | 'n' => add ['\n'] rest
    | 't' => add ['\t'] rest
    | 'r' => add ['\r'] rest
    | 'a' => add ['\x07'] rest
    | 'b' => add ['\x08'] rest
    | 'e' | 'E' => add ['\x1b'] rest
    | 'f' => add ['\x0c'] rest
    | 'v' => add ['\x0b'] rest
    | 'x' => number 16 2 rest
    | 'u' => number 16 4 rest
    | 'U' => number 16 8 rest
    | '\\' | '\x27' | '"' | '?' => add [c] rest
    | _ => if '0' ≤ c ∧ c ≤ '7' then number 8 3 (c :: rest) else add ['\\', c] rest
  | fuel + 1, c :: rest => (escapedQuote fuel rest).map fun r => (c :: r.1, r.2)

/-- The pieces up to the closing double quote, and the rest. Where the end of the text closes them, there
is no rest. -/
def doubleQuoted (rich closesAtEnd : Bool) : (fuel : Nat) → List Char → Option (Word × List Char)
  | 0, _ => none
  | fuel + 1, cs =>
    let add (p : Piece) (rest : List Char) : Option (Word × List Char) :=
      (doubleQuoted rich closesAtEnd fuel rest).map fun r => (p :: r.1, r.2)
    match cs with
    | [] => if closesAtEnd then some ([], []) else none
    | '\\' :: '\n' :: rest => doubleQuoted rich closesAtEnd fuel rest
    | '\\' :: c :: rest =>
      add (.literal (if ['$', '"', '\\', '\x60'].contains c then [c] else ['\\', c]) true) rest
    | '$' :: rest => do
      let (p, rest) ← dollar rich true rest
      add p rest
    | '\x60' :: rest => do
      let (source, rest) ← backquoted rest
      add (.command source true) rest
    | c :: rest => if c = '"' ∧ !closesAtEnd then some ([], rest) else add (.literal [c] true) rest

def endsWord (c : Char) : Bool := " \t\n;&|<>()".toList.contains c

def word (rich : Bool) (isEnd : Char → Bool) : (fuel : Nat) → List Char → Option (Word × List Char)
  | 0, _ => none
  | fuel + 1, cs =>
    let add (p : Piece) (rest : List Char) : Option (Word × List Char) :=
      (word rich isEnd fuel rest).map fun r => (p :: r.1, r.2)
    let inQuotes (rest : List Char) : Option (Word × List Char) := do
      let (pieces, rest) ← doubleQuoted rich false fuel rest
      let pieces := if pieces = [] then [.literal [] true] else pieces
      (word rich isEnd fuel rest).map fun r => (pieces ++ r.1, r.2)
    match cs with
    | [] => some ([], [])
    | '\x27' :: rest =>
      let content := rest.takeWhile (· ≠ '\x27')
      match rest.drop content.length with
      | [] => none
      | _ :: rest => add (.literal content true) rest
    | '"' :: rest => inQuotes rest
    | '\\' :: '\n' :: rest => word rich isEnd fuel rest
    | '\\' :: c :: rest => add (.literal [c] true) rest
    | '$' :: '\x27' :: rest =>
      if rich then do
        let (content, rest) ← escapedQuote (rest.length + 1) rest
        add (.literal content true) rest
      else add (.literal ['$'] false) ('\x27' :: rest)
    | '$' :: '"' :: rest => if rich then inQuotes rest else add (.literal ['$'] false) ('"' :: rest)
    | '$' :: rest => do
      let (p, rest) ← dollar rich false rest
      add p rest
    | '\x60' :: rest => do
      let (source, rest) ← backquoted rest
      add (.command source false) rest
    | '<' :: '(' :: below =>
      if rich then do
        let (source, rest) ← enclosed '(' ')' 0 none below
        add (.process source) rest
      else if isEnd '<' then some ([], cs) else add (.literal ['<'] false) ('(' :: below)
    | c :: rest => if isEnd c then some ([], cs) else add (.literal [c] false) rest

def wordOf (rich quoted : Bool) (text : List Char) : Word :=
  let read := if quoted then doubleQuoted rich true (text.length + 1) text
    else word rich (fun _ => false) (text.length + 1) text
  match read with
  | some (w, _) => w
  | none => [.literal text quoted]

def plain? (w : Word) : Option String :=
  let parts : Option (List (List Char)) := w.mapM fun
    | .literal cs false => some cs
    | _ => none
  parts.map fun parts => String.ofList parts.flatten

end Script

end SbtWorkspace.Simulation
