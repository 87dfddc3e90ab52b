import SbtWorkspace.Simulation.Printing
import SbtWorkspace.Simulation.Shell.Switch

/-! Declaring variables: what kinds they are of, which of them are given to programs, and which cannot be changed. -/

namespace SbtWorkspace.Simulation.Shell

def splitAssignment (arg : String) : String × Option String :=
  let name := arg.toList.takeWhile (· ≠ '=')
  if name.length = arg.length then (arg, none)
  else (String.ofList name, some (String.ofList (arg.toList.drop (name.length + 1))))

/-- A name and its key, if there is one. -/
def splitKey (name : String) : String × Option String :=
  let cs := name.toList
  let base := cs.takeWhile (· ≠ '[')
  if base.length < cs.length ∧ cs.getLast? = some ']' then
    (String.ofList base, some (String.ofList (cs.drop (base.length + 1)).dropLast))
  else (name, none)

def inQuotes (cs : List Char) : List Char :=
  let parts := List.splitOn '\x27' cs
  let quoted := parts.map fun p => '\x27' :: p ++ ['\x27']
  (['"', '\x27', '"'] : List Char).intercalate quoted

def inDoubleQuotes (cs : List Char) : List Char :=
  if cs.any Printing.isHidden then Printing.quotedRich cs
  else
    let part (c : Char) : List Char := if "\"\\$\x60".toList.contains c then ['\\', c] else [c]
    '"' :: cs.flatMap part ++ ['"']

def listed (cs : List Char) : List Char :=
  if cs.any Printing.isHidden then Printing.quotedRich cs
  else if cs.any fun c => " \"\x27\\|&;()<>!\x7b\x7d*[?]^$\x60#~".toList.contains c then
    '\x27' :: (cs.flatMap fun c => if c = '\x27' then ['\x27', '\\', '\x27', '\x27'] else [c]) ++ ['\x27']
  else cs

/-- The elements of an array as they are written between brackets. -/
def listedItems (s : Shell) (name : String) : String :=
  let parts := (s.elements name).map fun e =>
    "[" ++ e.1 ++ "]=" ++ String.ofList (inDoubleQuotes e.2.toList)
  if s.tables.contains name ∧ parts ≠ [] then "(" ++ " ".intercalate parts ++ " )"
  else "(" ++ " ".intercalate parts ++ ")"

def isArray (s : Shell) (name : String) : Bool := s.arrays.contains name || s.tables.contains name

def declaration? (s : Shell) (name : String) : Option String :=
  let marks := String.ofList <| ([('a', s.arrays.contains name), ('A', s.tables.contains name),
    ('i', s.integers.contains name), ('l', s.cased.contains (name, false)), ('r', s.constants.contains name),
    ('u', s.cased.contains (name, true)), ('x', s.exported.contains name)].filter (·.2)).map (·.1)
  let before := "declare -" ++ (if marks = "" then "-" else marks) ++ " " ++ name
  if isArray s name then some (before ++ "=" ++ listedItems s name ++ "\n")
  else
    match s.values.get? name with
    | some v => some (before ++ "=" ++ String.ofList (inDoubleQuotes v.toList) ++ "\n")
    | none => if s.exported.contains name ∨ s.integers.contains name then some (before ++ "\n") else none

def variableNames (s : Shell) : List String :=
  let plain := (s.values.bindings.map (·.1)).filter fun n => !n.toList.contains '['
  ((plain ++ s.arrays ++ s.tables).eraseDups).mergeSort (· ≤ ·)

def listValues : Running Nat := do
  let s ← get
  let line (name : String) : String :=
    if isArray s name then name ++ "=" ++ listedItems s name ++ "\n"
    else
      let cs := ((s.values.get? name).getD "").toList
      name ++ "=" ++ String.ofList (if s.rich then listed cs else inQuotes cs) ++ "\n"
  tell (String.join ((variableNames s).map line))

def listMarked (word : String) (names : List String) : Running Nat := do
  let s ← get
  let line (name : String) : String :=
    if s.rich then (declaration? s name).getD ""
    else
      match s.values.get? name with
      | some v => word ++ " " ++ name ++ "=" ++ String.ofList (inQuotes v.toList) ++ "\n"
      | none => word ++ " " ++ name ++ "\n"
  tell (String.join ((names.eraseDups.mergeSort (· ≤ ·)).map line))

/-- Marks variables, and assigns to those with a value. In a rich shell, a word that is no name is a failure. -/
def markEach (mark : String → Shell → Shell) : List String → Running Nat
  | [] => pure 0
  | arg :: rest => do
    let (name, value) := splitAssignment arg
    let s ← get
    let appends := s.rich && value.isSome && name.toList.getLast? = some '+'
    let name := if appends then String.ofList name.toList.dropLast else name
    if !isName name then
      let status ← refuse 1 (name ++ ": bad variable name") (notName arg)
      pure (max status (← markEach mark rest))
    else do
      let value := value.map fun v => if appends then (s.stored? name).getD "" ++ v else v
      let status ← match value with
        | some value => if s.rich then assignOr 1 name value else do
            assign name value
            pure 0
        | none => pure 0
      modify (mark name)
      pure (max status (← markEach mark rest))

def exportEach (args : List String) : Running Nat := do
  let s ← get
  let (options, names) := args.span fun a => a.toList.head? = some '-' && a ≠ "--"
  let names := if names.head? = some "--" then names.tail else names
  let has (c : Char) : Bool := options.any fun a => a.toList.contains c
  if let some option := badOption? (if s.rich then "fnp" else "p") options then badOption true option
  else if names = [] then listMarked "export" (s.exported.filter fun n => s.rich || (s.values.get? n).isSome)
  else if has 'f' then
    let missing := names.filter fun n => !s.functions.any fun f => f.1 = n
    for name in missing do complain (name ++ ": not a function")
    pure (if missing = [] then 0 else 1)
  else
    markEach
      (fun n s => { s with exported := if has 'n' then s.exported.filter (· ≠ n) else n :: s.exported }) names

def fixEach (args : List String) : Running Nat := do
  let s ← get
  let (options, names) := args.span fun a => a.toList.head? = some '-' && a ≠ "--"
  let names := if names.head? = some "--" then names.tail else names
  if let some option := badOption? (if s.rich then "aAfp" else "p") options then badOption true option
  else if names = [] then listMarked "readonly" s.constants
  else markEach (fun n s => { s with constants := n :: s.constants }) names

/-- Makes a variable local to the function that runs. In a rich shell it has no value then. -/
def localizeName (name : String) : Running Unit :=
  modify fun s =>
    match s.saved with
    | some saved =>
      let t := { s with saved := some (s.save name :: saved) }
      if s.rich then t.without name else t
    | none => s

def asArray (isTable : Bool) (name : String) (s : Shell) : Shell :=
  if isArray s name then s
  else
    let values := match s.values.get? name with
      | some old => (s.values.erase name).set (elementName name "0") old
      | none => s.values
    if isTable then { s with values, tables := name :: s.tables } else { s with values, arrays := name :: s.arrays }

def giveKinds (given taken : List Char) (name : String) (s : Shell) : Shell :=
  let s := if given.contains 'a' then asArray false name s else s
  let s := if given.contains 'A' then asArray true name s else s
  let s := if given.contains 'i' then { s with integers := name :: s.integers } else s
  let s := if given.contains 'x' then { s with exported := name :: s.exported } else s
  let s := if given.contains 'u' then { s with cased := (name, true) :: s.cased } else s
  let s := if given.contains 'l' then { s with cased := (name, false) :: s.cased } else s
  let s := if taken.contains 'i' then { s with integers := s.integers.filter (· ≠ name) } else s
  if taken.contains 'x' then { s with exported := s.exported.filter (· ≠ name) } else s

def declareOne (given taken : List Char) (isLocal : Bool) (arg : String) : Running Nat := do
  let (name, value) := splitAssignment arg
  let appends := value.isSome && name.toList.getLast? = some '+'
  let name := if appends then String.ofList name.toList.dropLast else name
  let (name, key) := splitKey name
  if !isName name then misused 1 "" (notName arg)
  else if value.isSome ∧ (← get).constants.contains name then misused 1 "" (name ++ ": readonly variable")
  else do
    if isLocal then localizeName name
    modify (giveKinds given taken name)
    if let some value := value then
      let s ← get
      match key with
      | some key => assignElement name (← keyOfText name key) value
      | none => assign name (if appends then (s.stored? name).getD "" ++ value else value)
    if given.contains 'r' then modify fun s => { s with constants := name :: s.constants }
    pure 0

def declareEach (onlyLocal : Bool) (args : List String) : Running Nat := do
  let s ← get
  let isOption (a : String) : Bool :=
    (a.toList.head? = some '-' || a.toList.head? = some '+') && a.length ≠ 1 && a ≠ "--"
  let (options, names) := args.span isOption
  let names := if names.head? = some "--" then names.tail else names
  let letters (sign : Char) : List Char :=
    options.flatMap fun a => if a.toList.head? = some sign then a.toList.drop 1 else []
  let given := letters '-'
  if let some option := badOption? "aAfFgiIlnprtux" options then badOption false option
  else if given.contains 'p' then
    let wanted := if names = [] then variableNames s else names
    let _ ← tell (String.join (wanted.filterMap (declaration? s)))
    let missing := wanted.filter fun n => (declaration? s n).isNone
    for name in missing do complain (name ++ ": not found")
    pure (if missing = [] then 0 else 1)
  else if given.contains 'f' ∨ given.contains 'F' then
    let found := names.filter fun n => s.functions.any fun f => f.1 = n
    if given.contains 'F' then
      let shown := if names = [] then (s.functions.map fun f => "declare -f " ++ f.1 ++ "\n").mergeSort (· ≤ ·)
        else found.map (· ++ "\n")
      let _ ← tell (String.join shown)
    pure (if found.length = names.length then 0 else 1)
  else if names = [] then (if options = [] ∧ !onlyLocal then listValues else pure 0)
  else
    let isLocal := s.saved.isSome && !given.contains 'g'
    let mut status := 0
    for name in names do
      status := max status (← declareOne given (letters '+') isLocal name)
    pure status

def localize (args : List String) : Running Nat := do
  let s ← get
  if s.saved.isNone then refuse 1 "not in a function" "can only be used in a function"
  else if s.rich then declareEach true args
  else
    for arg in args do
      let (name, value) := splitAssignment arg
      if !isName name ∧ name ≠ "-" then fail (name ++ ": bad variable name")
      localizeName name
      if let some value := value then assign name value
    pure 0

/-- Removes a variable or an element of an array. What is no name may be one of a function in a rich shell, unless a
mark says that it is a variable. -/
def unsetVariable (isMarked : Bool) (arg : String) : Running Nat := do
  let s ← get
  let (name, key) := if s.rich then splitKey arg else (arg, none)
  if s.constants.contains name then
    refuse 1 (name ++ ": is read only") (name ++ ": cannot unset: readonly variable")
  else
    match key with
    | some key => do
      if key = "@" ∨ key = "*" then set (s.without name)
      else
        let place := elementName name (← keyOfText name key)
        modify fun s => { s with values := s.values.erase place }
      pure 0
    | none =>
      if !isName name then
        if s.rich ∧ !isMarked then pure 0 else refuse 1 (name ++ ": bad variable name") (notName name)
      else do
        let isThere := (s.held name ≠ []) || isArray s name
        let t := s.without name
        set
          { t with
            exported := s.exported.filter (· ≠ name)
            functions := if s.rich ∧ !isThere then s.functions.filter fun f => f.1 ≠ name else s.functions }
        pure 0

def unset (args : List String) : Running Nat := do
  let s ← get
  let (options, names) := args.span fun a => a.toList.head? = some '-' && a ≠ "--"
  let names := if names.head? = some "--" then names.tail else names
  let letters := options.flatMap fun a => a.toList.drop 1
  if let some option := badOption? "fvn" options then badOption true option
  else if letters.getLast? = some 'f' then do
    set { s with functions := s.functions.filter fun f => !names.contains f.1 }
    pure 0
  else
    let mut status := 0
    for name in names do
      status := max status (← unsetVariable (letters ≠ []) name)
    pure status

end SbtWorkspace.Simulation.Shell
