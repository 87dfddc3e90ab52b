import SbtWorkspace.Simulation.Editing.Command
import SbtWorkspace.Text.Octet

/-! How the commands of a line editor are written. A script that is not well formed is refused as a whole; what is
told of it names the place that the reading has come to. -/

namespace SbtWorkspace.Simulation.Editing

inductive Flaw where
  | twoNegations
  | strayComma
  | countFirst
  | unclosedBlock
  | strayClosing
  | trailing
  | lacksText
  | addressedClosing
  | addressedLabel
  | addressedRemark
  | lacksCommand
  | twoAddresses
  | openAddress
  | openReplacement
  | openExchange
  | unknownFlag
  | repeatedPrint
  | repeatedGlobal
  | repeatedNumber
  | zeroNumber
  | unequalLists
  | newerVersion
  | zeroLine
  | unknownCommand (letter : Char)
  | lacksLabel
  | lacksFile
  | strayGroup (number : Nat)
  | emptyFlags
  | badExpression (reason : String)
  deriving DecidableEq, Repr

/-- What is told of a script that is not well formed. -/
def Flaw.message : Flaw → String
  | twoNegations => "multiple \x60!'s"
  | strayComma => "unexpected \x60,'"
  | countFirst => "invalid usage of +N or ~N as first address"
  | unclosedBlock => "unmatched \x60\x7b'"
  | strayClosing => "unexpected \x60\x7d'"
  | trailing => "extra characters after command"
  | lacksText => "expected \\ after \x60a', \x60c' or \x60i'"
  | addressedClosing => "\x60\x7d' doesn't want any addresses"
  | addressedLabel => ": doesn't want any addresses"
  | addressedRemark => "comments don't accept any addresses"
  | lacksCommand => "missing command"
  | twoAddresses => "command only uses one address"
  | openAddress => "unterminated address regex"
  | openReplacement => "unterminated \x60s' command"
  | openExchange => "unterminated \x60y' command"
  | unknownFlag => "unknown option to \x60s'"
  | repeatedPrint => "multiple \x60p' options to \x60s' command"
  | repeatedGlobal => "multiple \x60g' options to \x60s' command"
  | repeatedNumber => "multiple number options to \x60s' command"
  | zeroNumber => "number option to \x60s' command may not be zero"
  | unequalLists => "strings for \x60y' command are different lengths"
  | newerVersion => "expected newer version of sed"
  | zeroLine => "invalid usage of line address 0"
  | unknownCommand c => "unknown command: \x60" ++ String.ofList [c] ++ "'"
  | lacksLabel => "\":\" lacks a label"
  | lacksFile => "missing filename in r/R/w/W commands"
  | strayGroup n => "invalid reference \\" ++ toString n ++ " on \x60s' command's RHS"
  | emptyFlags => "cannot specify modifiers on empty regexp"
  | badExpression reason => reason

/-- What is wrong with a script, and how many of its characters were not read yet. -/
structure Misread where
  flaw : Flaw
  left : Nat

/-- Why a script is refused: it is not well formed, or a jump goes to a label that is nowhere. -/
inductive Fault where
  | misread (m : Misread)
  | noLabel (name : List Char)

/-- A reading of a script that is under way: the form of its expressions, the commands so far, which jumps go to which
labels, and the blocks that are open, with how many characters were left behind their braces. -/
structure Reading where
  form : Regex.Form
  commands : Array Command := #[]
  labels : List (List Char × Nat) := []
  jumps : List (Nat × List Char) := []
  blocks : List (Nat × Nat) := []

/-- A gap within a line. -/
def isGap (c : Char) : Bool := c = ' ' || ('\t' ≤ c && c ≤ '\r' && c ≠ '\n')

/-- The character that a letter after a back slash stands for in texts and expressions, and the rest. -/
def signified? : List Char → Option (Char × List Char)
  | 'a' :: rest => some ('\x07', rest)
  | 'f' :: rest => some ('\x0c', rest)
  | 'n' :: rest => some ('\n', rest)
  | 'r' :: rest => some ('\r', rest)
  | 't' :: rest => some ('\t', rest)
  | 'v' :: rest => some ('\x0b', rest)
  | 'c' :: c :: rest => some (Char.ofNat (c.toUpper.toNat ^^^ 64), rest)
  | 'd' :: rest => numbered 10 3 rest
  | 'o' :: rest => numbered 8 3 rest
  | 'x' :: rest => numbered 16 2 rest
  | _ => none
where
  /-- The character whose number is written in a base. -/
  numbered (base most : Nat) (cs : List Char) : Option (Char × List Char) :=
    let value (c : Char) : Nat := if c.isDigit then c.toNat - 48 else if c.isAlpha then c.toLower.toNat - 87 else 99
    let ds := (cs.take most).takeWhile fun c => value c < base
    if ds = [] then none
    else some (Char.ofNat (ds.foldl (fun n c => n * base + value c) 0 % 256), cs.drop ds.length)

/-- The text up to a delimiter, and the rest; or how many characters are left where it is clear that there is none. A
delimiter after a back slash stands for itself; in an expression, nothing within brackets ends the text. -/
def delimited (isExpression : Bool) (delimiter : Char) : (fuel : Nat) → List Char → Except Nat (List Char × List Char)
  | 0, _ | _, [] => .error 0
  | fuel + 1, '\\' :: c :: rest =>
    let kept : List Char :=
      if c = 'n' ∧ isExpression then ['\n']
      else if c = '\n' then ['\n']
      else if c = delimiter ∧ !(c = '&' && !isExpression) then [c]
      else ['\\', c]
    let kept := if c = '\n' ∧ !isExpression then ['\\', 'n'] else kept
    (delimited isExpression delimiter fuel rest).map fun r => (kept ++ r.1, r.2)
  | fuel + 1, c :: rest =>
    if c = delimiter then .ok ([], rest)
    else if c = '\n' then .error (rest.length + 1)
    else if c = '[' ∧ isExpression then
      let list := bracketed rest
      (delimited isExpression delimiter fuel (rest.drop list.2)).map fun r => ('[' :: list.1 ++ r.1, r.2)
    else (delimited isExpression delimiter fuel rest).map fun r => (c :: r.1, r.2)
where
  /-- The text of a list in brackets after the opening one, and how long it is as it is written; nothing if no bracket
  closes it. -/
  bracketed (cs : List Char) : List Char × Nat :=
    let start := if cs.head? = some '^' then 1 else 0
    let start := if (cs.drop start).head? = some ']' then start + 1 else start
    match inside (cs.length + 1) (cs.drop start) with
    | some (text, size) => (cs.take start ++ text, start + size)
    | none => ([], 0)
  /-- The text up to the closing bracket, with classes that are named, and how long it is as it is written. -/
  inside : (fuel : Nat) → List Char → Option (List Char × Nat)
    | 0, _ | _, [] => none
    | _, ']' :: _ => some ([']'], 1)
    | fuel + 1, '\\' :: 'n' :: rest => (inside fuel rest).map fun r => ('\n' :: r.1, r.2 + 2)
    | fuel + 1, '[' :: c :: rest =>
      if c = ':' ∨ c = '.' ∨ c = '=' then
        let name := rest.takeWhile (· ≠ ']')
        if name.getLast? = some c then
          (inside fuel (rest.drop (name.length + 1))).map fun r =>
            ('[' :: c :: name ++ ']' :: r.1, r.2 + name.length + 3)
        else (inside fuel (c :: rest)).map fun r => ('[' :: r.1, r.2 + 1)
      else (inside fuel (c :: rest)).map fun r => ('[' :: r.1, r.2 + 1)
    | fuel + 1, c :: rest => if c = '\n' then none else (inside fuel rest).map fun r => (c :: r.1, r.2 + 1)

/-- An expression in which letters after back slashes are replaced by what they stand for. -/
def resolvedExpression : (fuel : Nat) → List Char → List Char
  | 0, cs => cs
  | _, [] => []
  | fuel + 1, '\\' :: rest =>
    match signified? rest with
    | some (c, more) => c :: resolvedExpression fuel more
    | none =>
      match rest with
      | c :: more => '\\' :: c :: resolvedExpression fuel more
      | [] => ['\\']
  | fuel + 1, c :: rest => c :: resolvedExpression fuel rest

def sought (form : Regex.Form) (text : List Char) (folds isLined : Bool) : Except Flaw Sought :=
  if text = [] then (if folds || isLined then .error .emptyFlags else .ok ⟨none, false, false⟩)
  else
    let resolved := resolvedExpression (text.length + 1) text
    match Regex.read? form resolved with
    | some r => .ok ⟨some r, folds, isLined⟩
    | none => .error (.badExpression (Regex.fault form resolved))

def inserts : (fuel : Nat) → List Char → List Insert
  | 0, _ => []
  | _, [] => []
  | fuel + 1, '\\' :: c :: rest =>
    let go (i : Insert) : List Insert := i :: inserts fuel rest
    match c with
    | 'U' => go (.case .upper)
    | 'L' => go (.case .lower)
    | 'u' => go (.case .nextUpper)
    | 'l' => go (.case .nextLower)
    | 'E' => go (.case .none)
    | c =>
      if c.isDigit then go (.group (c.toNat - 48))
      else match signified? (c :: rest) with
        | some (d, more) => .text [d] :: inserts fuel more
        | none => go (.text [c])
  | fuel + 1, '&' :: rest => .group 0 :: inserts fuel rest
  | fuel + 1, c :: rest => .text [c] :: inserts fuel rest

def number? (cs : List Char) : Option (Nat × List Char) := Regex.number? cs

def misread (flaw : Flaw) (rest : List Char) : Except Misread α := .error ⟨flaw, rest.length⟩

/-- The line that is meant at the beginning of a text, and the rest, if one is meant. -/
def place (form : Regex.Form) (cs : List Char) : Except Misread (Option (LinePlace × List Char)) :=
  let rec flags : List Char → Bool × Bool × List Char
    | 'I' :: rest => let (_, m, r) := flags rest; (true, m, r)
    | 'M' :: rest => let (i, _, r) := flags rest; (i, true, r)
    | rest => (false, false, rest)
  let expression (delimiter : Char) (rest : List Char) : Except Misread (Option (LinePlace × List Char)) :=
    match delimited true delimiter (rest.length + 1) rest with
    | .error left => .error ⟨.openAddress, left⟩
    | .ok (text, rest) =>
      let (folds, isLined, rest) := flags rest
      match sought form text folds isLined with
      | .ok s => .ok (some (.fits s, rest))
      | .error flaw => misread flaw rest
  match cs with
  | '$' :: rest => .ok (some (.last, rest))
  | '/' :: rest => expression '/' rest
  | '\\' :: d :: rest => if d = '\n' ∨ d = '\\' then misread .openAddress rest else expression d rest
  | ['\\'] => misread .openAddress []
  | _ =>
    match number? cs with
    | none => .ok none
    | some (n, rest) =>
      match rest.dropWhile isGap with
      | '~' :: more =>
        let (step, more) := (number? (more.dropWhile isGap)).getD (0, more)
        .ok (some (if step = 0 then .number n else .every n step, more))
      | _ => .ok (some (.number n, rest))

/-- Where a range ends that is written at the beginning of a text, and the rest. -/
def rangeEnd (form : Regex.Form) (cs : List Char) : Except Misread (RangeEnd × List Char) :=
  let other : Except Misread (RangeEnd × List Char) := do
    match ← place form cs with
    | some (p, rest) => pure (.place p, rest)
    | none => misread .strayComma (cs.drop 1)
  match cs with
  | '+' :: rest =>
    match number? rest with
    | some (n, rest) => .ok (.after n, rest)
    | none => misread .strayComma rest
  | '~' :: rest =>
    match number? rest with
    | some (n, rest) => .ok (.multiple n, rest)
    | none => misread .strayComma rest
  | _ => other

def selector (form : Regex.Form) (cs : List Char) : Except Misread (Selector × List Char) := do
  let (s, rest) ← match ← place form cs with
    | none =>
      match cs with
      | '+' :: rest | '~' :: rest =>
        match number? rest with
        | some (_, more) => misread .countFirst more
        | none => pure (({} : Selector), cs)
      | _ => pure ({}, cs)
    | some (first, rest) =>
      match rest.dropWhile isGap with
      | ',' :: more => do
        let (last, more) ← rangeEnd form (more.dropWhile isGap)
        match first, last with
        | .number 0, .place (.fits s) => pure ({ first, last := some (.place (.fits s)), isOpen := true }, more)
        | .number 0, _ => misread .zeroLine ((more.dropWhile isGap).drop 1)
        | first, last => pure ({ first, last := some last }, more)
      | more =>
        match first with
        | .number 0 => misread .zeroLine (more.drop 1)
        | first => pure ({ first }, rest)
  match rest.dropWhile isGap with
  | '!' :: more =>
    match more.dropWhile isGap with
    | '!' :: rest => misread .twoNegations rest
    | more => pure ({ s with negated := true }, more)
  | rest => pure (s, rest)

/-- The rest after the end of a command, unless something else stands there. -/
def endedBy (flaw : Flaw) (cs : List Char) : Except Misread (List Char) :=
  match cs.dropWhile isGap with
  | [] => .ok []
  | '\n' :: rest | ';' :: rest => .ok rest
  | '\x7d' :: rest => .ok ('\x7d' :: rest)
  | '#' :: rest => .ok ('#' :: rest)
  | _ :: rest => misread flaw rest

/-- The rest after the end of a command. -/
def ended (cs : List Char) : Except Misread (List Char) := endedBy .trailing cs

/-- The text of a command that puts lines in, and the rest. A back slash joins the next line, or keeps the blanks at
the beginning. -/
def lineText : (fuel : Nat) → List Char → List Char × List Char
  | 0, _ | _, [] => ([], [])
  | _, '\n' :: rest => ([], rest)
  | fuel + 1, '\\' :: rest =>
    match signified? rest, rest with
    | some (c, more), _ => let (text, rest) := lineText fuel more; (c :: text, rest)
    | none, c :: more => let (text, rest) := lineText fuel more; (c :: text, rest)
    | none, [] => ([], [])
  | fuel + 1, c :: rest => let (text, rest) := lineText fuel rest; (c :: text, rest)

def givenText (cs : List Char) : Except Misread (List Char × List Char) :=
  let withEnd (r : List Char × List Char) : List Char × List Char := (r.1 ++ ['\n'], r.2)
  match cs.dropWhile isGap with
  | [] => misread .lacksText []
  | '\\' :: rest =>
    match rest.dropWhile isGap with
    | '\n' :: rest => .ok (withEnd (lineText (rest.length + 1) rest))
    | [] => .ok ([], [])
    | _ => .ok (withEnd (lineText (rest.length + 1) rest))
  | '\n' :: rest => misread .lacksText rest
  | rest => .ok (withEnd (lineText (rest.length + 1) rest))

def fileName (cs : List Char) : Except Misread (String × List Char) :=
  let cs := cs.dropWhile isGap
  let name := cs.takeWhile (· ≠ '\n')
  let rest := (cs.drop name.length).drop 1
  if name = [] then misread .lacksFile rest else .ok (Octets.toString name, rest)

def labelName (cs : List Char) : List Char × List Char :=
  let cs := cs.dropWhile isGap
  let name := cs.takeWhile fun c => c ≠ '\n' && c ≠ ';' && c ≠ ' ' && c ≠ '\t'
  (name, cs.drop name.length)

/-- A replacement with its flags: whether case does not count, whether lines are apart, and whether it has a number. -/
structure Flagged where
  replacement : Substitution
  folds : Bool := false
  isLined : Bool := false
  hasNumber : Bool := false

def substitutionFlags : (fuel : Nat) → Flagged → List Char → Except Misread (Flagged × List Char)
  | 0, f, rest => .ok (f, rest)
  | _, f, [] => .ok (f, [])
  | fuel + 1, f, c :: rest =>
    let goOn (s : Substitution) : Except Misread (Flagged × List Char) :=
      substitutionFlags fuel { f with replacement := s } rest
    match c with
    | 'g' =>
      if f.replacement.everywhere then misread .repeatedGlobal rest
      else goOn { f.replacement with everywhere := true }
    | 'p' => if f.replacement.prints then misread .repeatedPrint rest else goOn { f.replacement with prints := true }
    | 'e' => goOn { f.replacement with runs := true }
    | 'i' | 'I' => substitutionFlags fuel { f with folds := true } rest
    | 'm' | 'M' => substitutionFlags fuel { f with isLined := true } rest
    | 'w' => do
      let (name, rest) ← fileName rest
      pure ({ f with replacement := { f.replacement with file := some name } }, rest)
    | c =>
      if !c.isDigit then (endedBy .unknownFlag (c :: rest)).map fun rest => (f, rest)
      else if f.hasNumber then misread .repeatedNumber rest
      else
        let more := rest.takeWhile Char.isDigit
        let n := (c :: more).foldl (fun n d => n * 10 + (d.toNat - 48)) 0
        if n = 0 then misread .zeroNumber (rest.drop more.length)
        else
          substitutionFlags fuel { f with replacement := { f.replacement with number := n }, hasNumber := true }
            (rest.drop more.length)

def substitution (form : Regex.Form) : List Char → Except Misread (Substitution × List Char)
  | d :: rest => do
    let text (isExpression : Bool) (cs : List Char) : Except Misread (List Char × List Char) :=
      (delimited isExpression d (cs.length + 1) cs).mapError (⟨.openReplacement, ·⟩)
    if d = '\n' ∨ d = '\\' then misread .openReplacement rest
    let (pattern, rest) ← text true rest
    let (replacement, rest) ← text false rest
    let parts := inserts (replacement.length + 1) replacement
    let (f, rest) ← substitutionFlags (rest.length + 1)
      { replacement := { sought := ⟨none, false, false⟩, inserts := parts } } rest
    let greatest := parts.foldl (fun m i => match i with
      | .group n => max m n
      | _ => m) 0
    match sought form pattern f.folds f.isLined with
    | .error flaw => misread flaw rest
    | .ok s =>
      if s.expression.any fun r => r.groups < greatest then misread (.strayGroup greatest) rest
      else pure ({ f.replacement with sought := s }, rest)
  | [] => misread .openReplacement []

def exchanged : List Char → List Char
  | '\\' :: c :: rest =>
    (if c = '\\' then c else ((signified? [c]).map (·.1)).getD c) :: exchanged rest
  | c :: rest => c :: exchanged rest
  | [] => []

/-- Reads one command, and gives the rest. -/
def Reading.command (r : Reading) (cs : List Char) : Except Misread (Reading × List Char) := do
  let (selector, cs) ← selector r.form cs
  let add (deed : Deed) (rest : List Char) : Except Misread (Reading × List Char) :=
    .ok ({ r with commands := r.commands.push ⟨selector, deed⟩ }, rest)
  let alone (deed : Deed) (rest : List Char) : Except Misread (Reading × List Char) := do add deed (← ended rest)
  let jump (deed : Deed) (rest : List Char) : Except Misread (Reading × List Char) := do
    let (name, rest) := labelName rest
    let name' := name.takeWhile (· ≠ '\x7d')
    let rest := name.drop name'.length ++ rest
    let (r, rest) ← add deed (← ended rest)
    pure (if name' = [] then r else { r with jumps := (r.commands.size - 1, name') :: r.jumps }, rest)
  let quit (silent : Bool) (rest : List Char) : Except Misread (Reading × List Char) :=
    if selector.last.isSome then misread .twoAddresses rest
    else
      let (n, rest) := (number? (rest.dropWhile isGap)).getD (0, rest)
      alone (.quit n silent) rest
  match cs with
  | [] => misread .lacksCommand []
  | '#' :: rest => misread .addressedRemark rest
  | '\x7b' :: rest => do
    let (r', rest) ← add (.open 0) rest
    pure ({ r' with blocks := (r.commands.size, rest.length) :: r.blocks }, rest)
  | '\x7d' :: rest =>
    match r.blocks, selector.first with
    | (opening, _) :: blocks, none => do
      let place := r.commands.size
      let commands := r.commands.modify opening fun c => { c with deed := .open place }
      pure ({ r with commands := commands.push ⟨{}, .close⟩, blocks }, ← ended rest)
    | [], _ => misread .strayClosing rest
    | _, _ => misread .addressedClosing rest
  | ':' :: rest =>
    if selector.first.isSome then misread .addressedLabel rest
    else
      let (name, rest) := labelName rest
      if name = [] then misread .lacksLabel rest
      else do
        let (r', rest) ← add .label (← ended rest)
        pure ({ r' with labels := (name, r.commands.size) :: r.labels }, rest)
  | 'b' :: rest => jump (.jump none) rest
  | 't' :: rest => jump (.jumpIfReplaced none) rest
  | 'T' :: rest => jump (.jumpUnlessReplaced none) rest
  | 'a' :: rest => do let (text, rest) ← givenText rest; add (.append text) rest
  | 'i' :: rest => do let (text, rest) ← givenText rest; add (.insert text) rest
  | 'c' :: rest => do let (text, rest) ← givenText rest; add (.change text) rest
  | 'd' :: rest => alone .delete rest
  | 'D' :: rest => alone .deleteFirst rest
  | 'e' :: rest =>
    let line := (rest.dropWhile isGap).takeWhile (· ≠ '\n')
    add (.run line) (((rest.dropWhile isGap).drop line.length).drop 1)
  | 'F' :: rest => alone .name rest
  | 'g' :: rest => alone .get rest
  | 'G' :: rest => alone .getAppend rest
  | 'h' :: rest => alone .hold rest
  | 'H' :: rest => alone .holdAppend rest
  | 'x' :: rest => alone .exchange rest
  | 'l' :: rest =>
    match number? (rest.dropWhile isGap) with
    | some (n, rest) => alone (.list (some n)) rest
    | none => alone (.list none) rest
  | 'n' :: rest => alone .next rest
  | 'N' :: rest => alone .nextAppend rest
  | 'p' :: rest => alone .print rest
  | 'P' :: rest => alone .printFirst rest
  | 'q' :: rest => quit false rest
  | 'Q' :: rest => quit true rest
  | 'r' :: rest => do let (name, rest) ← fileName rest; add (.readFile name) rest
  | 'R' :: rest => do let (name, rest) ← fileName rest; add (.readLine name) rest
  | 's' :: rest => do let (s, rest) ← substitution r.form rest; add (.substitute s) rest
  | 'v' :: rest =>
    let word := (rest.dropWhile isGap).takeWhile fun c => !(isGap c || c = '\n' || c = ';')
    let rest := (rest.dropWhile isGap).drop word.length
    let version := (List.splitOn '.' word).map fun p => (number? p).map (·.1)
    let isNewer : Bool := match version with
      | some major :: some minor :: _ => 4 < major || (major = 4 && 9 < minor)
      | some major :: _ => 4 < major
      | _ => false
    if isNewer then misread .newerVersion rest else add .label rest
  | 'w' :: rest => do let (name, rest) ← fileName rest; add (.write name) rest
  | 'W' :: rest => do let (name, rest) ← fileName rest; add (.writeFirst name) rest
  | ['y'] => misread .openExchange []
  | 'y' :: d :: rest => do
    let text (cs : List Char) : Except Misread (List Char × List Char) :=
      (delimited false d (cs.length + 1) cs).mapError (⟨.openExchange, ·⟩)
    if d = '\n' ∨ d = '\\' then misread .openExchange rest
    let (source, rest) ← text rest
    let (goal, rest) ← text rest
    let (source, goal) := (exchanged source, exchanged goal)
    if source.length = goal.length then alone (.translate (source.zip goal)) rest else misread .unequalLists rest
  | '=' :: rest => alone .number rest
  | 'z' :: rest => alone .clear rest
  | ',' :: rest => if selector.first.isSome then misread (.unknownCommand ',') rest else misread .strayComma rest
  | c :: rest => misread (.unknownCommand c) rest

/-- Reads all commands. -/
def Reading.all : (fuel : Nat) → Reading → List Char → Except Misread Reading
  | 0, r, _ => .ok r
  | fuel + 1, r, cs =>
    match cs.dropWhile fun c => isGap c || c = '\n' || c = ';' with
    | [] =>
      match r.blocks with
      | [] => .ok r
      | (_, left) :: _ => .error ⟨.unclosedBlock, left⟩
    | '#' :: rest => Reading.all fuel r (rest.dropWhile (· ≠ '\n'))
    | cs => do
      let (r, rest) ← r.command cs
      Reading.all fuel r rest

/-- Puts the places of labels into jumps. -/
def Reading.resolve (r : Reading) : Except Fault (Array Command) :=
  r.jumps.foldlM
    (fun commands (place, name) =>
      match r.labels.find? fun l => l.1 = name with
      | none => .error (.noLabel name)
      | some (_, target) =>
        .ok (commands.modify place fun c =>
          { c with
            deed := match c.deed with
              | .jump _ => .jump (some target)
              | .jumpIfReplaced _ => .jumpIfReplaced (some target)
              | .jumpUnlessReplaced _ => .jumpUnlessReplaced (some target)
              | deed => deed })) r.commands

/-- Reads a script. -/
def read (form : Regex.Form) (cs : List Char) : Except Fault (Array Command) :=
  match Reading.all (cs.length + 2) { form } cs with
  | .ok r => r.resolve
  | .error m => .error (.misread m)

end SbtWorkspace.Simulation.Editing
