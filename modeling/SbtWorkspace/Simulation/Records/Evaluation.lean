import SbtWorkspace.Simulation.Records.Format
import SbtWorkspace.Simulation.Records.Machine
import SbtWorkspace.Simulation.Records.Token

/-! Values of expressions. Each kind of expression is evaluated by means of an engine for the expressions and
statements inside it. -/

namespace SbtWorkspace.Simulation.Records

/-- How expressions and statements inside others are worked on, and how programs are run. -/
structure Engine where
  value : Expression → Working Value
  carryOut : Statement → Working Unit
  launch : Launching

namespace Machine

/-- Runs a command by the shell. -/
def shell (launch : Launching) (c : Call) (w : World) (command : List Char) : World × Ending :=
  match launch c w ["/bin/sh", "-c", Octets.toString command] with
  | .ok result => result
  | .error _ => (w, .exited 127)

def outputOf (launch : Launching) (command : List Char) : Working (List Char × Nat) := do
  flushAll
  let m ← get
  let (world, sink) := m.world.openPipe
  let sinks := (1, sink) :: m.place.sinks.filter fun s => s.1 ≠ 1
  let (world, ending) := shell launch { m.place with sinks } world command
  let (world, bytes) := world.closePipe
  set { m with world }
  pure (Octets.toChars bytes, told ending)

/-- Runs a command with a text as its input, or with the input that is left. -/
def run (launch : Launching) (input : Option Bytes) (command : List Char) : Working Nat := do
  let m ← get
  let world := match input with
    | some bytes => { m.world with input := bytes, origin := .stream }
    | none => m.world
  let (world, ending) := shell launch m.place world command
  let world := if input.isSome then { world with input := m.world.input, origin := m.world.origin } else world
  set { m with world }
  pure (told ending)

/-- Ends the writing by a name, and gives the status that is told of it. -/
def closeWriter (launch : Launching) (name : String) : Working (Option Nat) := do
  let m ← get
  match m.writers.find? fun w => w.1 = name with
  | none => pure none
  | some (_, w) => do
    set { m with writers := m.writers.filter fun v => v.1 ≠ name }
    match w with
    | .file sink waiting => do
      modify fun m => { m with world := m.world.emit waiting sink }
      pure (some 0)
    | .command text => some <$> run launch (some text) (Octets.ofString name)

/-- Ends all writing, that which was used last first. -/
def closeAll (launch : Launching) : (fuel : Nat) → Working Unit
  | 0 => pure ()
  | fuel + 1 => do
    match (← get).writers with
    | [] => pure ()
    | (name, _) :: _ => do
      let _ ← closeWriter launch name
      closeAll launch fuel

/-- Ends the reading and the writing by a name, and gives the status that is told of it. -/
def close (launch : Launching) (name : String) : Working Value := do
  let m ← get
  let reader := m.readers.find? fun r => r.1 = name
  set { m with readers := m.readers.filter fun r => r.1 ≠ name }
  let written ← closeWriter launch name
  match written.or (reader.map (·.2.2)) with
  | some n => pure (.ofNat n)
  | none => pure (.number (-1))

def countRecord (name : String) : Working Unit :=
  modify fun m => m.withGlobal name (.number ((m.global name).toNumber + 1))

/-- Assigns as an argument tells that is a name, an equals sign and a text; says whether it is one. -/
def assignArgument (arg : List Char) : Working Bool := do
  let name := arg.takeWhile fun c => c.isAlphanum || c = '_'
  match name, arg.drop name.length with
  | c :: _, '=' :: text =>
    if c.isDigit then pure false
    else do
      let value := match Token.constant (2 * text.length + 3) (text.flatMap quoted ++ ['"']) with
        | some (cs, _) => cs
        | none => text
      setVariable (String.ofList name) (.ofInput value)
      pure true
  | _, _ => pure false
where
  /-- A character as a constant holds it. -/
  quoted (c : Char) : List Char := if c = '"' then ['\\', '"'] else if c = '\n' then ['\\', '0', '1', '2'] else [c]

def openNext : (fuel : Nat) → Working Bool
  | 0 => pure false
  | fuel + 1 => do
    let m ← get
    let count := (Value.clamped (m.global "ARGC").toNumber).toNat
    let opened (name : List Char) (world : World) (bytes : Bytes) : Working Bool := do
      let m ← get
      set (({ m with world, source := some (Octets.toChars bytes), hasFiles := true }.withGlobal "FILENAME"
        (.ofInput name)).withGlobal "FNR" (.number 0))
      pure true
    if m.argument < count then
      set { m with argument := m.argument + 1 }
      let arg ← match (m.globals.getD "ARGV" {}).table with
        | some i => do pure (((← table i).value? (.number m.argument)).getD .unset)
        | none => pure .unset
      let arg := m.text arg
      if arg = [] then openNext fuel
      else if ← assignArgument arg then openNext fuel
      else
        let m ← get
        let isInput : Bool := arg = ['-'] || arg = "/dev/stdin".toList
        match if isInput then m.world.readInput else m.world.readFile m.place (Octets.toString arg) with
        | .ok (world, bytes) => opened arg world bytes
        | .error .isDirectory => failWith "read error (Is a directory)"
        | .error fault => failWith ("cannot open \"" ++ Octets.toString arg ++ "\" (" ++ fault.wording ++ ")")
    else if m.hasFiles then pure false
    else
      match m.world.readInput with
      | .ok (world, bytes) => opened ['-'] world bytes
      | .error _ => failWith "read error (Is a directory)"

def nextText : (fuel : Nat) → Working (Option (List Char))
  | 0 => pure none
  | fuel + 1 => do
    let m ← get
    if m.isAtEnd then pure none
    else
      match m.source with
      | some cs =>
        match firstRecord? (m.globalText "RS") cs with
        | some (found, rest) => do
          set { m with source := some rest }
          countRecord "NR"
          countRecord "FNR"
          pure (some found)
        | none => do
          set { m with source := none }
          nextText fuel
      | none => do
        if ← openNext 10000 then nextText fuel
        else
          modify fun m => { m with isAtEnd := true }
          pure none

/-- The next record that is read by a name; none if the name cannot be read, and an empty answer at the end. -/
def nextFrom (launch : Launching) (isCommand : Bool) (name : String) : Working (Option (Option (List Char))) := do
  let m ← get
  let opened : Option (List Char × Nat) ← match m.readers.find? fun r => r.1 = name with
    | some r => pure (some r.2)
    | none => do
      if isCommand then some <$> outputOf launch (Octets.ofString name)
      else
        let isInput : Bool := name = "-" || name = "/dev/stdin"
        match if isInput then m.world.readInput else m.world.readFile m.place name with
        | .ok (world, bytes) => do
          set { m with world }
          pure (some (Octets.toChars bytes, 0))
        | .error _ => pure none
  match opened with
  | none => pure none
  | some (cs, status) => do
    let m ← get
    let (found, rest) : Option (List Char) × List Char := match firstRecord? (m.globalText "RS") cs with
      | some (found, rest) => (some found, rest)
      | none => (none, [])
    set { m with readers := (name, rest, status) :: m.readers.filter fun r => r.1 ≠ name }
    pure (some found)

end Machine

namespace Engine

open Machine

/-- The text of an expression. -/
def text (e : Engine) (a : Expression) : Working (List Char) := do
  let v ← e.value a
  pure ((← get).text v)

/-- The key that expressions make. -/
def key (e : Engine) : List Expression → Working Key
  | [a] => do
    match ← e.value a with
    | .number x =>
      match Value.whole? x with
      | some n =>
        if n.natAbs < Nat.pow 2 63 then pure (.number n) else pure (.word (String.ofList ((← get).text (.number x))))
      | none => do pure (.word (String.ofList ((← get).text (.number x))))
    | v => do pure (.word (String.ofList ((← get).text v)))
  | indices => do
    let parts ← indices.mapM e.text
    pure (.word (String.ofList (((← get).globalText "SUBSEP").intercalate parts)))

def regexOf (e : Engine) : Expression → Working Regex
  | .regex r | .group (.regex r) => pure r
  | a => do
    match Regex.read? .escaped (← e.text a) with
    | some r => pure r
    | none => fail

def separatorOf (e : Engine) : Expression → Working Separator
  | .regex r => pure (.regex r)
  | a => do
    match Separator.ofText? (← e.text a) with
    | some s => pure s
    | none => fail

def element (table : String) (k : Key) : Working Value := do
  let i ← tableOf table
  let t ← Machine.table i
  match t.value? k with
  | some v => do
    setTable i (t.used k)
    pure v
  | none => do
    setTable i (t.insert k .unset)
    pure .unset

/-- A place to put values into. -/
inductive Goal where
  | variable (name : String)
  | field (n : Nat)
  | element (table : Nat) (k : Key)

def goal (e : Engine) : Expression → Working Goal
  | .variable name => pure (.variable name)
  | .field a => do pure (.field (← fieldNumber (← e.value a)))
  | .element table indices => do
    let k ← e.key indices
    pure (.element (← tableOf table) k)
  | _ => fail

/-- The value at a place. -/
def Goal.value : Goal → Working Value
  | .variable name => do pure ((← get).slot name).value
  | .field n => Machine.field n
  | .element i k => do
    let t ← table i
    match t.value? k with
    | some v => pure v
    | none => do
      setTable i (t.insert k .unset)
      pure .unset

/-- Puts a value into a place. -/
def Goal.put (v : Value) : Goal → Working Unit
  | .variable name => setVariable name v
  | .field n => setField n v
  | .element i k => do setTable i ((← table i).insert k v)

def operate (o : Operator) (x y : Float) : Float :=
  match o with
  | .add => x + y
  | .subtract => x - y
  | .multiply => x * y
  | .divide => x / y
  | .remainder => remainder x y
  | .power => x ^ y
  | _ => 0
where
  /-- What is left of a number after it was divided by another one. -/
  remainder (x y : Float) : Float :=
    match Binary.ofFloat x, Binary.ofFloat y with
    | .finite negative m i, .finite _ n j =>
      if n = 0 then Binary.undefined.toFloat
      else
        let least := min i j
        let a := m * Nat.pow 2 (i - least).toNat
        let b := n * Nat.pow 2 (j - least).toNat
        (Binary.ofRatio .double negative (a % b * (Binary.scale 1 2 least).1) (Binary.scale 1 2 least).2).toFloat
    | .finite .., .infinite _ => x
    | _, _ => Binary.undefined.toFloat

def combine (m : Machine) (o : Operator) (a b : Value) : Value :=
  let compare (holds : Ordering → Bool) (otherwise : Bool) : Value :=
    .ofBool (match Value.order m.format a b with
      | some order => holds order
      | none => otherwise)
  match o with
  | .join => .text (m.text a ++ m.text b)
  | .less => compare (· == .lt) false
  | .atMost => compare (· != .gt) false
  | .equal => compare (· == .eq) false
  | .differs => compare (· != .eq) true
  | .greater => compare (· == .gt) false
  | .atLeast => compare (· != .lt) false
  | _ => .number (operate o a.toNumber b.toNumber)

def isIn (r : Regex) (cs : List Char) : Bool := r.isIn { text := cs.toArray }

/-- The value of a record that was read, which goes to a place or is the record; `counts` are the variables that count
it. -/
def received (e : Engine) (goal : Option Expression) (counts : List String) (cs : List Char) : Working Value := do
  for name in counts do
    countRecord name
  match goal with
  | some a => do (← e.goal a).put (.ofInput cs)
  | none => setRecord (.ofInput cs)
  pure (.number 1)

/-- Replaces in a text, once or as often as it can be, and puts the outcome back. -/
def substitute (e : Engine) (once : Bool) (pattern new goal : Expression) : Working Value := do
  let r ← e.regexOf pattern
  let new ← e.text new
  if goal.isGoal then
    let place ← e.goal goal
    let cs := (← get).text (← place.value)
    let (made, n) := replaced r { text := cs.toArray } new once (cs.length + 2) 0 none
    if 0 < n then place.put (.text made)
    pure (.ofNat n)
  else
    let cs ← e.text goal
    pure (.ofNat (replaced r { text := cs.toArray } new once (cs.length + 2) 0 none).2)

def rounded (x : Float) : Int :=
  let low := x.floor
  let n := Value.clamped low
  if x - low < 0.5 then n else if x - low > 0.5 then n + 1 else if n % 2 = 0 then n else n + 1

/-- The part of a text from a place on with a length. -/
def part (cs : List Char) (start : Float) (length : Option Float) : List Char :=
  let isNumber (x : Float) : Bool := x == x
  let first := rounded start
  let last : Int := match length with
    | none => cs.length + 1
    | some n => if isNumber n then rounded (start + n) else first
  if !isNumber start then []
  else
    let first := max first 1
    (cs.drop (first - 1).toNat).take (last - first).toNat

def builtin (e : Engine) (name : String) (args : List Expression) : Working Value := do
  let number (f : Float → Float) (a : Expression) : Working Value := do
    pure (.number (f (← e.value a).toNumber))
  match name, args with
  | "length", [] => do pure (.ofNat ((← get).text (← get).record).length)
  | "length", [a] => do
    let m ← get
    let size? : Option Nat := match a with
      | .variable s | .group (.variable s) =>
        (m.slot s).table.bind fun i => match (m.slot s).value with
          | .unset => some (m.tables.getD i {}).size
          | _ => none
      | _ => none
    match size? with
    | some n => pure (.ofNat n)
    | none => do pure (.ofNat (← e.text a).length)
  | "substr", [a, b] => do
    let cs ← e.text a
    pure (.text (part cs (← e.value b).toNumber none))
  | "substr", [a, b, c] => do
    let cs ← e.text a
    let start := (← e.value b).toNumber
    pure (.text (part cs start (some (← e.value c).toNumber)))
  | "index", [a, b] => do
    let s ← e.text a
    let t ← e.text b
    let at? := (List.range (s.length + 1)).find? fun i => t.isPrefixOf (s.drop i)
    pure (.ofNat ((at?.map (· + 1)).getD 0))
  | "split", a :: .variable table :: rest | "split", a :: .group (.variable table) :: rest => do
    let cs ← e.text a
    let s ← e.separatorOf (rest.headD (.variable "FS"))
    let i ← tableOf table
    let parts := (s.cut ((← get).globalText "RS" = [] && rest.isEmpty) cs).map Value.ofInput
    setTable i (Table.ofList parts)
    pure (.ofNat parts.length)
  | "sub", [a, b] => e.substitute true a b (.field (.number 0))
  | "sub", [a, b, c] => e.substitute true a b c
  | "gsub", [a, b] => e.substitute false a b (.field (.number 0))
  | "gsub", [a, b, c] => e.substitute false a b c
  | "match", [a, b] => do
    let cs ← e.text a
    let r ← e.regexOf b
    let (start, length) : Float × Float := match r.search { text := cs.toArray } 0 with
      | some (first, last, _) => (Float.ofNat (first + 1), Float.ofNat (last - first))
      | none => (0, -1)
    modify fun m => (m.withGlobal "RSTART" (.number start)).withGlobal "RLENGTH" (.number length)
    pure (.number start)
  | "sprintf", a :: rest => do
    let format ← e.text a
    let values ← rest.mapM e.value
    let (cs, isWhole) := formatted (← get).format (format.length + 1) format values
    if isWhole then pure (.text cs) else fail
  | "sin", [a] => number Float.sin a
  | "cos", [a] => number Float.cos a
  | "exp", [a] => number Float.exp a
  | "log", [a] => number Float.log a
  | "sqrt", [a] => number Float.sqrt a
  | "atan2", [a, b] => do
    let y := (← e.value a).toNumber
    pure (.number (Float.atan2 y (← e.value b).toNumber))
  | "int", [a] => number (fun x => if x < 0 then -((-x).floor) else x.floor) a
  | "rand", [] => do
    let m ← get
    let seed := (m.seed * 6364136223846793005 + 1442695040888963407) % Nat.pow 2 64
    set { m with seed }
    pure (.number (Float.ofNat (seed / Nat.pow 2 33) / 2147483648))
  | "srand", args => do
    let m ← get
    match args with
    | [] => set { m with seed := 0 }
    | a :: _ => do
      let n := Value.clamped (← e.value a).toNumber
      set { m with seed := n.toNat }
    pure (.ofNat m.seed)
  | "tolower", [a] => do pure (.text ((← e.text a).map Char.toLower))
  | "toupper", [a] => do pure (.text ((← e.text a).map Char.toUpper))
  | "system", [a] => do
    let command ← e.text a
    flushAll
    pure (.ofNat (← run e.launch none command))
  | "close", a :: _ => do
    let name := Octets.toString (← e.text a)
    close e.launch name
  | "fflush", args => do
    let _ ← args.mapM e.value
    flushAll
    pure (.number 0)
  | _, _ => fail

/-- Calls a function. A name that stands for nothing yet can become a table inside it. -/
def call (e : Engine) (name : String) (args : List Expression) : Working Value := do
  match (← get).functions.find? fun f => f.1 = name with
  | none => fail
  | some (_, f) => do
    if f.parameters.length < args.length then fail
    let slots ← args.mapM fun a => do
      match a with
      | .variable s => do
        match ((← get).slot s).value with
        | .unset => do
          let i ← tableOf s
          pure ({ table := some i } : Slot)
        | v => pure { value := v }
      | a => do pure { value := ← e.value a }
    let outer := (← get).frame
    let frame := f.parameters.zipIdx.map fun (p, i) => (p, slots.getD i {})
    modify fun m => { m with frame }
    let result ← ExceptT.lift (e.carryOut f.body).run
    modify fun m => { m with frame := outer }
    match result with
    | .ok () => pure .unset
    | .error (.function v) => pure v
    | .error leave => throw leave

def valueOf (e : Engine) : Expression → Working Value
  | .number x => pure (.number x)
  | .text cs => pure (.text cs)
  | .regex r => do pure (.ofBool (isIn r ((← get).text (← get).record)))
  | .variable name => do pure ((← get).slot name).value
  | .field a => do field (← fieldNumber (← e.value a))
  | .element table indices => do element table (← e.key indices)
  | .isKey indices table => do
    let k ← e.key indices
    let i ← tableOf table
    let t ← Machine.table i
    if t.contains k then
      setTable i (t.used k)
      pure (.number 1)
    else pure (.number 0)
  | .group a => e.value a
  | .assign a none b => do
    match a with
    | .variable name => do
      let v ← e.value b
      setVariable name v
      pure v
    | _ => do
      let place ← e.goal a
      let v ← e.value b
      place.put v
      pure v
  | .assign a (some o) b => do
    let place ← e.goal a
    let y := (← e.value b).toNumber
    let v : Value := .number (operate o (← place.value).toNumber y)
    place.put v
    pure v
  | .step a isUp isBefore => do
    let place ← e.goal a
    let x := (← place.value).toNumber
    let y := if isUp then x + 1 else x - 1
    place.put (.number y)
    pure (.number (if isBefore then y else x))
  | .binary o a b => do
    let x ← e.value a
    let y ← e.value b
    pure (combine (← get) o x y)
  | .fits negated a b => do
    let cs ← e.text a
    let r ← e.regexOf b
    pure (.ofBool (isIn r cs != negated))
  | .both a b => do
    if (← e.value a).isTrue then pure (.ofBool (← e.value b).isTrue) else pure (.number 0)
  | .either a b => do
    if (← e.value a).isTrue then pure (.number 1) else pure (.ofBool (← e.value b).isTrue)
  | .choice condition a b => do if (← e.value condition).isTrue then e.value a else e.value b
  | .negation a => do pure (.ofBool (!(← e.value a).isTrue))
  | .minus a => do pure (.number (-(← e.value a).toNumber))
  | .plus a => do pure (.number (← e.value a).toNumber)
  | .call name args => e.call name args
  | .builtin name args => e.builtin name args
  | .nextRecord goal => do
    match ← nextText 10000 with
    | some cs => e.received goal [] cs
    | none => pure (.number 0)
  | .nextOfFile goal path => do
    match ← nextFrom e.launch false (Octets.toString (← e.text path)) with
    | some (some cs) => e.received goal [] cs
    | some none => pure (.number 0)
    | none => pure (.number (-1))
  | .nextOfCommand goal command => do
    match ← nextFrom e.launch true (Octets.toString (← e.text command)) with
    | some (some cs) => e.received goal ["NR"] cs
    | some none => pure (.number 0)
    | none => pure (.number (-1))

end Engine

end SbtWorkspace.Simulation.Records
