import SbtWorkspace.Simulation.Options
import SbtWorkspace.Simulation.Shell.Declaration
import SbtWorkspace.Simulation.Shell.Expansion
import SbtWorkspace.Text.Octet

/-! What a shell takes in: lines of its input, which become the values of variables, and options of arguments. -/

namespace SbtWorkspace.Simulation.Shell

/-- How a line is read: whether back slashes have no meaning, the character at its end, how many characters it has at
most, and whether these are all that ends it. -/
structure LineForm where
  raw : Bool := false
  delimiter : Char := '\n'
  most : Option Nat := none
  isExact : Bool := false

/-- Takes a line of a text, in which a back slash at the end joins it to the next one; gives the characters, those
after a back slash as quoted ones, and whether the line has an end. -/
def takeLine (f : LineForm) : (fuel : Nat) → (taken : Nat) → List Char → List Mark × Bool × List Char
  | 0, _, cs => ([], false, cs)
  | fuel + 1, taken, cs =>
    if f.most = some taken then ([], true, cs)
    else
      let keep (m : Mark) (rest : List Char) : List Mark × Bool × List Char :=
        let (line, ended, left) := takeLine f fuel (taken + 1) rest
        (m :: line, ended, left)
      match cs with
      | [] => ([], false, [])
      | c :: rest =>
        if c = f.delimiter ∧ !f.isExact then ([], true, rest)
        else if c = '\\' ∧ !f.raw then
          match rest with
          | '\n' :: rest => takeLine f fuel taken rest
          | d :: rest => keep (d, true) rest
          | [] => ([], false, [])
        else if c = '\x00' then takeLine f fuel taken rest
        else keep (c, false) rest

/-- The values that a line gives to a number of names. The last one gets all that is left. -/
def lineValues (separators : List Char) : (names : Nat) → List Mark → List String
  | 0, _ => []
  | names + 1, line =>
    let separates (m : Mark) : Bool := !m.2 && separators.contains m.1
    let blank (m : Mark) : Bool := separates m && isBlank m.1
    let line := line.dropWhile blank
    if names = 0 then
      let last := (line.reverse.dropWhile blank).reverse
      let field := last.takeWhile (!separates ·)
      let rest := (last.drop field.length).dropWhile blank
      [unmarked (if rest.length = 1 ∧ rest.all separates then field else last)]
    else
      let field := line.takeWhile (!separates ·)
      let rest := (line.drop field.length).dropWhile blank
      let rest := match rest with
        | m :: more => if separates m then more.dropWhile blank else rest
        | [] => []
      unmarked field :: lineValues separators names rest

/-- The octets that are left to be read from a descriptor; none if it is closed. -/
def octetsFrom (descriptor : Nat) : Running (Option Bytes) := do
  let s ← get
  if descriptor = 0 then pure (some s.world.input)
  else pure ((s.sources.find? fun f => f.1 = descriptor).map (·.2))

/-- Leaves octets to be read from a descriptor. -/
def leave (descriptor : Nat) (bytes : Bytes) : Running Unit :=
  modify fun s =>
    if descriptor = 0 then { s with world := { s.world with input := bytes } }
    else { s with sources := s.sources.map fun f => if f.1 = descriptor then (descriptor, bytes) else f }

def descriptorOf (value : Option String) : Option Nat :=
  match value with
  | none => some 0
  | some text => text.toNat?

def fillArray (name : String) (from_ : Nat) : List String → Running Unit
  | [] => pure ()
  | value :: rest => do
    assignElement name (toString from_) value
    fillArray name (from_ + 1) rest

def emptied (name : String) (s : Shell) : Shell :=
  let isTable := s.tables.contains name
  let values := (s.held name).foldl (fun env v => env.erase v.1) s.values
  if isTable ∨ s.arrays.contains name then { s with values } else { s with values, arrays := name :: s.arrays }

def unmarkedText (ms : List Mark) : String := Octets.toString (ms.map (·.1))

def badArguments (fault : OptionFault) : Running Nat := do
  match fault with
  | .unknownLetter c => badOption false (String.ofList ['-', c])
  | .missingValue c => do
    let option := String.ofList ['-', c]
    let usage ← usage
    misused misuse ("No arg for " ++ option ++ " option") (option ++ ": option requires an argument\n" ++ usage)
  | _ => badOption false "--"

def closedDescriptor (value : Option String) : Running Nat :=
  misused 1 "" (value.getD "" ++ ": invalid file descriptor: Bad file descriptor")

def assignUntilRefused (refusal : Nat) : List (String × String) → Running Nat
  | [] => pure 0
  | (name, value) :: rest => do
    let status ← assignOr refusal name value
    if status = 0 then assignUntilRefused refusal rest else pure status

def readLine (args : List String) : Running Nat := do
  let s ← get
  let options : Options := if s.rich then { letters := "ers", valued := "adinNptu", isFirst := true }
    else { letters := "r", valued := "p", isFirst := true }
  match options.read args with
  | .error fault => badArguments fault
  | .ok a =>
    let noNumber (letter : Char) : Option String := (a.value? letter).filter fun t => (t.toNat?).isNone
    if a.operands = [] ∧ !s.rich then misused misuse "arg count" ""
    else if let some name := a.operands.find? (!isName ·) then
      misused (if s.rich then 1 else misuse) (name ++ ": bad variable name") (notName name)
    else if let some text := (noNumber 'n').or (noNumber 'N') then misused 1 "" (text ++ ": invalid number")
    else
      let most := ((a.value? 'N').or (a.value? 'n')).bind (·.toNat?)
      let form : LineForm :=
        { raw := a.has 'r', most, isExact := a.has 'N'
          delimiter := match a.value? 'd' with
            | some text => text.toList.headD '\x00'
            | none => '\n' }
      match ← (match descriptorOf (a.value? 'u') with
        | some d => octetsFrom d
        | none => pure none) with
      | none => closedDescriptor (a.value? 'u')
      | some bytes => do
        let cs := Octets.toChars bytes
        let (line, ended, rest) := takeLine form (2 * cs.length + 2) 0 cs
        leave ((descriptorOf (a.value? 'u')).getD 0) (Octets.ofChars rest)
        let refusal := if s.rich then 1 else misuse
        let status ← match a.value? 'a' with
          | some name => do
            let fields := fieldsOf (separators s) (line.map fun m => .char m.1 m.2 !m.2)
            modify (emptied name)
            fillArray name 0 (fields.map unmarkedText)
            pure 0
          | none =>
            match a.operands with
            | [] => assignOr refusal "REPLY" (unmarkedText line)
            | name :: more =>
              let values := if form.isExact then unmarkedText line :: more.map fun _ => ""
                else (lineValues (separators s) (more.length + 1) line).map fun v => Octets.toString v.toList
              assignUntilRefused refusal ((name :: more).zip values)
        pure (if status ≠ 0 then status else if ended then 0 else 1)

/-- The lines of a text by a character at their ends, with their ends. -/
def linesWith (delimiter : Char) : List Char → List (List Char)
  | [] => []
  | c :: rest =>
    if c = delimiter then [c] :: linesWith delimiter rest
    else
      match linesWith delimiter rest with
      | [] => [[c]]
      | line :: more => (c :: line) :: more

def readLines (args : List String) : Running Nat := do
  let options : Options := { letters := "t", valued := "cCdnOsu", isFirst := true }
  match options.read args with
  | .error fault => badArguments fault
  | .ok a =>
    match ← (match descriptorOf (a.value? 'u') with
      | some d => octetsFrom d
      | none => pure none) with
    | none => closedDescriptor (a.value? 'u')
    | some bytes => do
      let name := a.operands.headD "MAPFILE"
      if !isName name then misused 1 "" (notName name)
      else
        let number (letter : Char) : Nat := ((a.value? letter).bind (·.toNat?)).getD 0
        let delimiter := match a.value? 'd' with
          | some text => text.toList.headD '\x00'
          | none => '\n'
        let all := linesWith delimiter (Octets.toChars bytes)
        let (skipped, rest) := all.splitAt (number 's')
        let (wanted, left) := if number 'n' = 0 then (rest, []) else rest.splitAt (number 'n')
        let _ := skipped
        leave ((descriptorOf (a.value? 'u')).getD 0) (Octets.ofChars left.flatten)
        let bare (line : List Char) : List Char :=
          let line := if a.has 't' ∧ line.getLast? = some delimiter then line.dropLast else line
          line.filter (· ≠ '\x00')
        if (a.value? 'O').isNone then modify (emptied name)
        fillArray name (number 'O') (wanted.map fun line => Octets.toString (bare line))
        pure 0

def getOption (letters name : String) (args : List String) : Running Nat := do
  let s ← get
  let place := s.optionPlace
  let index := (((s.values.get? "OPTIND").bind (·.toNat?)).getD 1)
  let finished (index : Nat) : Running Nat := do
    assign "OPTIND" (toString index)
    let _ ← assignOr 1 name "?"
    pure 1
  let begun : Option (List Char × Nat × Nat) :=
    if place = 0 then
      match (args[index - 1]?).map String.toList with
      | some ('-' :: c :: rest) => if c = '-' ∧ rest = [] then none else some (c :: rest, index + 1, 1)
      | _ => none
    else some (((args[index - 2]?).getD "").toList.drop place, index, place)
  match begun with
  | none => finished (if args[index - 1]? = some "--" then index + 1 else index)
  | some ([], index, _) => finished index
  | some (c :: rest, index, place) => do
    let next := if rest = [] then 0 else place + 1
    let settle (found : String) (argument : Option String) (index place : Nat) : Running Nat := do
      assign "OPTIND" (toString index)
      let status ← assignOr (if s.rich then 1 else misuse) name found
      match argument with
      | some text => assign "OPTARG" text
      | none => modify fun s => { s with values := s.values.erase "OPTARG" }
      modify fun s => { s with optionPlace := place }
      pure status
    let silent := letters.toList.head? = some ':'
    let letter := String.ofList [c]
    let warn (plain rich : String) : Running Unit := do
      if !silent ∧ (s.values.get? "OPTERR") ≠ some "0" then
        let _ ← write 2 (Utf8.encode ((if s.rich then s.name ++ ": " ++ rich else plain) ++ "\n"))
    let known := if c = ':' then [] else letters.toList.dropWhile (· ≠ c)
    match known with
    | [] => do
      warn ("Illegal option -" ++ letter) ("illegal option -- " ++ letter)
      settle "?" (if silent then some letter else none) index next
    | _ :: ':' :: _ =>
      if rest ≠ [] then settle letter (some (String.ofList rest)) index 0
      else
        match args[index - 1]? with
        | some text => settle letter (some text) (index + 1) 0
        | none => do
          warn ("No arg for -" ++ letter ++ " option") ("option requires an argument -- " ++ letter)
          settle (if silent then ":" else "?") (if silent then some letter else none) index 0
    | _ => settle letter (if s.rich then none else some "") index next

end SbtWorkspace.Simulation.Shell
