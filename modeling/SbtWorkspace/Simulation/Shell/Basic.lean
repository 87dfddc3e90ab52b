import SbtWorkspace.Simulation.Arithmetic
import SbtWorkspace.Simulation.Script.Command
import SbtWorkspace.Simulation.World
import SbtWorkspace.Total

/-! A running shell: what it knows, and the operations on it. An operation gives a result, or a jump that
keeps the shell from going on with the next command; the state of the shell is kept in both cases. -/

namespace SbtWorkspace.Simulation

/-- What a variable was before it was made local: its values with those of its elements, and the kinds it had. -/
structure Saved where
  name : String
  values : List (String × String)
  isArray : Bool := false
  isTable : Bool := false
  isInteger : Bool := false

/-- A command that was put into the background: its status, when it ends, and what it does to the world when its time
has come, where that is still to be done. -/
structure Job where
  status : Nat
  ends : Nat
  work : Option (World → World) := none

/-- A running shell. The variables that are exported are given to the programs that it runs. The elements of an array
are variables whose names have the key in brackets. -/
structure Shell where
  world : World
  cwd : Location
  sinks : List (Nat × Sink) := allLost
  /-- What is left of what is read from descriptors other than the input. -/
  sources : List (Nat × Bytes) := []
  /-- The descriptor from which the input is taken, if it is another one. -/
  shared : Option Nat := none
  values : Environment
  exported : List String
  /-- The variables that have their values for one command. -/
  temporary : List String := []
  constants : List String := []
  arrays : List String := []
  /-- The arrays whose keys are texts. -/
  tables : List String := []
  integers : List String := []
  /-- The variables whose values are written in small letters, or in great ones. -/
  cased : List (String × Bool) := []
  functions : List (String × Command) := []
  /-- The scripts that are run at the end, under the name `EXIT`, and on signals. -/
  traps : List (String × String) := []
  options : List Char := []
  /-- The options that have no letter and are switched on. -/
  named : List String := []
  name : String
  /-- The line of the command that runs. -/
  line : Nat := 1
  /-- The command of the shell that runs, for which complaints are told. -/
  topic : String := ""
  /-- The script that was found by its name and runs, if one does. -/
  script : Option String := none
  parameters : List String := []
  status : Nat := 0
  /-- The status of each stage of the last pipeline. -/
  stages : List Nat := [0]
  /-- The commands that were run in the background. -/
  jobs : List Job := []
  /-- The status of the last command that was put in place of itself in a word, if there was one. -/
  substituted : Option Nat := none
  /-- What to come back to after the function that runs. -/
  saved : Option (List Saved) := none
  /-- The names of the functions that run, the innermost one first. -/
  running : List String := []
  /-- How many scripts run that were found by their names. -/
  sourced : Nat := 0
  /-- The directories that are kept to come back to. -/
  kept : List Location := []
  /-- How many loops are running. -/
  loops : Nat := 0
  /-- How far in the present argument the options are read. -/
  optionPlace : Nat := 0
  /-- How many files there are from which the output of commands can be read. -/
  processes : Nat := 0
  /-- How many shells this one is inside of. -/
  depth : Nat := 0
  /-- The paths that are opened for output by the time that the next program runs, and whether they are emptied. -/
  awaited : List (String × Bool) := []
  /-- Whether the next program takes the place of the shell. -/
  isReplaced : Bool := false
  /-- Whether the shell knows what a rich one does. -/
  rich : Bool := false
  /-- Whether the script was an argument. -/
  isString : Bool := false

/-- What keeps a shell from going on with the next command. -/
inductive Jump where
  | ended (e : Ending)
  /-- A command cannot be used: a plain shell ends, unless it is one of its own that is not special. -/
  | abandoned
  /-- The rest of a complete command is not run. -/
  | discarded
  | returned
  /-- Loops are left with a status. -/
  | broken (loops status : Nat)
  | continued (loops : Nat)
  deriving DecidableEq, Repr

abbrev Running := ExceptT Jump (StateM Shell)

/-- How a command is run; `tested` says that its failure is no reason to end the shell. -/
abbrev Runner := (tested : Bool) → Command → Running Nat

namespace Shell

def processNumber : String := "2"

def misuse : Nat := 2

/-- Runs an operation, and changes the state after it, also if it jumps. -/
def andThen (x : Running α) (after : Shell → Shell) : Running α :=
  ExceptT.mk do
    let result ← x.run
    modify after
    pure result

/-- Runs an operation, and gives its jump, if there is one, as a result. -/
def attempt (x : Running α) : Running (Except Jump α) := ExceptT.lift x.run

def isName (word : String) : Bool :=
  match word.toList with
  | c :: rest => Script.isNameStart c && rest.all Script.isNameChar
  | [] => false

/-- The place of a variable in the order in which a plain shell hands variables on. -/
def plainPlace (name : String) : Nat :=
  match name.toList with
  | [] => 0
  | c :: rest => (c.toNat * 17 + total Char.toNat rest) % 39

def richPlace (name : String) : Nat :=
  ((name.toList.foldl (fun (h : UInt32) c => (h * 16777619) ^^^ UInt32.ofNat c.toNat) 2166136261).toNat) % 1024

/-- The environment that a program is given. One that takes the place of a rich shell is at the level of that
shell. -/
def environment (s : Shell) : Environment :=
  let place := if s.rich then richPlace else plainPlace
  let level (text : String) : String := if s.isReplaced then toString (text.toNat?.getD 1 - 1) else text
  let given := (s.values.bindings.filter fun v => s.exported.contains v.1).mergeSort fun a b => place a.1 ≤ place b.1
  let isFirst (v : String × String) : Bool := s.rich && s.temporary.contains v.1
  let given := given.filter isFirst ++ given.filter (!isFirst ·)
  { s.values with bindings := given.map fun v => if v.1 = "SHLVL" then (v.1, level v.2) else v }

def elementName (name key : String) : String := name ++ "[" ++ key ++ "]"

def elements (s : Shell) (name : String) : List (String × String) :=
  let start := name ++ "["
  let found := (s.values.bindings.filter fun v => start.isPrefixOf v.1).map fun v =>
    (((v.1.drop start.length).toString.dropEnd 1).toString, v.2)
  if s.tables.contains name then found.mergeSort fun a b => richPlace a.1 ≤ richPlace b.1
  else found.mergeSort fun a b => (a.1.toNat?).getD 0 ≤ (b.1.toNat?).getD 0

def setting (s : Shell) : Arithmetic.Setting := { rich := s.rich, arrays := s.arrays, tables := s.tables }

/-- What a program is given that the shell runs. -/
def call (s : Shell) : Call := { name := s.name, cwd := s.cwd, env := s.environment, sinks := s.sinks }

/-- Writes octets to a descriptor; the status is 1 if it is closed. -/
def write (descriptor : Nat) (bytes : Bytes) : Running Nat := do
  match (← get).call.sink? descriptor with
  | some sink => do
    modify fun s => { s with world := s.world.emit bytes sink }
    pure 0
  | none => pure 1

/-- Writes a line for the errors, after the name of the script and the line in it. A plain shell tells the command,
too, that it runs. -/
def report (text : String) : Running Unit := do
  let s ← get
  let name := if s.isString ∧ s.running ≠ [] then "environment" else s.name
  let start := if s.rich then s.script.getD name ++ ": line " else s.name ++ ": "
  let text := if s.rich ∨ s.topic = "" then text else s.topic ++ ": " ++ text
  let _ ← write 2 (Utf8.encode (start ++ toString s.line ++ ": " ++ text ++ "\n"))

def complain (text : String) : Running Unit := do
  let s ← get
  report (if s.rich ∧ s.topic ≠ "" then s.topic ++ ": " ++ text else text)

def complainAs (plain rich : String) : Running Unit := do complain (if (← get).rich then rich else plain)

/-- Writes octets to the output, for the command of the shell that runs. -/
def put (bytes : Bytes) : Running Nat := do
  let status ← write 1 bytes
  if status ≠ 0 then complainAs ((← get).topic ++ ": I/O error") "write error: Bad file descriptor"
  pure status

/-- Gives up a command that cannot be used, which ends the shell if it is one of the special ones. -/
def abandon : Running α := throw .abandoned

/-- Ends the shell because of a command that it cannot use. -/
def fail (text : String) : Running α := do
  complain text
  abandon

/-- Gives up a command that cannot be used: a rich shell has a status for it, and a plain one ends. -/
def refuse (status : Nat) (plain rich : String) : Running Nat := do
  complainAs plain rich
  if (← get).rich then pure status else abandon

/-- Complains of a command that cannot be used, and has a status for it. -/
def misused (status : Nat) (plain rich : String) : Running Nat := do
  complainAs plain rich
  pure status

/-- Gives up what is worked on: a rich shell goes on with the next complete command, and a plain one ends. -/
def giveUp : Running α := do
  if (← get).rich then
    modify fun s => { s with status := 1 }
    throw .discarded
  else abandon

def discard (plain rich : String) : Running α := do
  report (if (← get).rich then rich else plain)
  giveUp

def failUnset (plain rich : String) : Running α := do
  let s ← get
  report (if s.rich then rich else plain)
  if s.rich then throw (.ended (.exited (if s.isString ∧ !s.options.contains 'e' then 127 else 1))) else abandon

/-- Runs an operation that is a command of the shell, for which complaints are told. -/
def telling (topic : String) (x : Running α) : Running α := do
  let outer := (← get).topic
  modify fun s => { s with topic }
  andThen x fun s => { s with topic := outer }

def richValues : List (String × String) :=
  [("BASH", "/bin/bash"), ("BASH_VERSION", "5.2.15(1)-release"), ("EUID", "0"), ("HOSTTYPE", "x86_64"),
    ("MACHTYPE", "x86_64-pc-linux-gnu"), ("OPTERR", "1"), ("OSTYPE", "linux-gnu"), ("PS4", "+ "),
    ("SHELL", "/bin/bash"),     ("TERM", "dumb"), ("UID", "0"), ("HOSTNAME", "localhost"),
    ("BASH_VERSINFO[0]", "5"), ("BASH_VERSINFO[1]", "2"), ("BASH_VERSINFO[2]", "15")]

/-- A shell as it begins, with the environment that it is given. -/
def start (rich isString : Bool) (c : Call) (w : World) (name : String) (parameters : List String) : Shell :=
  let given := c.env.bindings.filter fun v => isName v.1
  let values := given.foldl (fun (env : Environment) v => env.set v.1 v.2) ⟨[], c.env.account⟩
  let values := if rich then
    richValues.foldl (fun (env : Environment) v =>
      if (env.get? v.1).isSome ∧ ["SHELL", "TERM", "HOSTNAME"].contains v.1 then env else env.set v.1 v.2) values
    else values
  let level := ((values.get? "SHLVL").bind (·.toNat?)).getD 0 + 1
  let values := if rich then values.set "SHLVL" (toString level) else values
  let values := (values.set "IFS" " \t\n").set "PWD" c.cwd.render
  let values := (values.set "OPTIND" "1").set "PPID" "1"
  let values := if (values.get? "PATH").isNone then
    values.set "PATH" "/usr/local/sbin:/usr/local/bin:/usr/sbin:/usr/bin:/sbin:/bin" else values
  let own := if rich then ["SHLVL", "PWD"] else ["PWD"]
  { world := w, cwd := c.cwd, sinks := c.sinks, values, name, parameters, rich, isString
    constants := if rich then ["EUID", "UID", "PPID", "BASH_VERSINFO"] else []
    arrays := if rich then ["BASH_VERSINFO", "PIPESTATUS", "FUNCNAME", "BASH_REMATCH", "DIRSTACK"] else []
    exported := own ++ given.map (·.1) }

/-- The value of an expression. One that sets a constant has none. -/
def evaluate (text : List Char) : Running Int := do
  let s ← get
  match Arithmetic.eval s.setting s.values text with
  | .ok (n, values) =>
    match s.constants.find? fun c => values.get? c ≠ s.values.get? c with
    | some name => discard (name ++ ": is read only") (name ++ ": readonly variable")
    | none => do
      set { s with values }
      pure n
  | .error fault => do
    complain (fault.message s.rich)
    giveUp

/-- The text that is put into a variable by its kind: an integer is worked out, and letters are changed. -/
def kindOfText (name value : String) : Running String := do
  let s ← get
  let value ← if s.integers.contains name then toString <$> evaluate value.toList else pure value
  pure (match s.cased.find? fun c => c.1 = name with
    | some (_, isGreat) => String.ofList (value.toList.map fun c => if isGreat then c.toUpper else c.toLower)
    | none => value)

def assign (name value : String) : Running Unit := do
  if (← get).constants.contains name then discard (name ++ ": is read only") (name ++ ": readonly variable")
  else
    let value ← kindOfText name value
    modify fun s =>
      let isArray := s.arrays.contains name || s.tables.contains name
      { s with
        values := s.values.set (if isArray then elementName name "0" else name) value
        exported := if s.options.contains 'a' then name :: s.exported else s.exported
        optionPlace := if name = "OPTIND" then 0 else s.optionPlace }

def assignOr (status : Nat) (name value : String) : Running Nat := do
  let s ← get
  if s.constants.contains name then
    report (name ++ if s.rich then ": readonly variable" else ": is read only")
    pure status
  else
    assign name value
    pure 0

def assignElement (name key value : String) : Running Unit := do
  if (← get).constants.contains name then discard (name ++ ": is read only") (name ++ ": readonly variable")
  else
    let value ← kindOfText name value
    modify fun s =>
      let s := if s.arrays.contains name ∨ s.tables.contains name then s
        else
          { s with
            arrays := name :: s.arrays
            values := match s.values.get? name with
              | some old => (s.values.erase name).set (elementName name "0") old
              | none => s.values }
      { s with values := s.values.set (elementName name key) value }

/-- The key of an element of an array, which is a text or a number. A number below zero counts from the end. -/
def keyOfText (name text : String) : Running String := do
  if (← get).tables.contains name then pure text
  else
    let n ← evaluate text.toList
    let size : Nat := (((← get).elements name).map fun e => (e.1.toNat?).getD 0 + 1).foldl max 0
    if 0 ≤ n then pure (toString n)
    else if 0 ≤ (size : Int) + n then pure (toString ((size : Int) + n))
    else discard "" (elementName name text ++ ": bad array subscript")

def held (s : Shell) (name : String) : List (String × String) :=
  s.values.bindings.filter fun v => v.1 = name || (name ++ "[").isPrefixOf v.1

/-- A shell without a variable. -/
def without (s : Shell) (name : String) : Shell :=
  { s with
    values := (s.held name).foldl (fun env v => env.erase v.1) s.values
    arrays := s.arrays.filter (· ≠ name)
    tables := s.tables.filter (· ≠ name)
    integers := s.integers.filter (· ≠ name)
    cased := s.cased.filter fun c => c.1 ≠ name }

/-- What a variable is. -/
def save (s : Shell) (name : String) : Saved :=
  { name, values := s.held name, isArray := s.arrays.contains name, isTable := s.tables.contains name
    isInteger := s.integers.contains name }

def restore (saved : List Saved) (s : Shell) : Shell :=
  saved.foldl
    (fun (s : Shell) v =>
      let s := s.without v.name
      { s with
        values := v.values.foldl (fun env b => env.set b.1 b.2) s.values
        arrays := if v.isArray then v.name :: s.arrays else s.arrays
        tables := if v.isTable then v.name :: s.tables else s.tables
        integers := if v.isInteger then v.name :: s.integers else s.integers }) s

/-- The numbers that a shell gives for the commands that it runs in the background. -/
def jobNumber (index : Nat) : String := toString (3 + index)

def stored? (s : Shell) (name : String) : Option String :=
  if s.rich then
    if name = "RANDOM" then
      some (toString ((s.world.time * 7919 + s.values.bindings.length * 104729 + s.status) % 32768))
    else if name = "SECONDS" then some (toString (s.world.time / 1000))
    else if name = "LINENO" then some (toString s.line)
    else if name = "BASHPID" then some processNumber
    else if name = "BASH_SUBSHELL" then some (toString s.depth)
    else if name = "FUNCNAME" then s.running.head?
    else if name = "PIPESTATUS" then (s.stages.head?).map toString
    else (s.values.get? name).or (s.values.get? (elementName name "0"))
  else if name = "LINENO" then some (toString s.line)
  else s.values.get? name

def optionText (s : Shell) : String :=
  let order := if s.rich then "abefhkmnptuvxBCEHPTcs" else "pubaCEVvxsnmiIfe"
  String.ofList (order.toList.filter s.options.contains)

def value? (s : Shell) (name : String) : Option String :=
  if name = "#" then some (toString s.parameters.length)
  else if name = "?" then some (toString s.status)
  else if name = "$" then some processNumber
  else if name = "!" then if s.jobs = [] then none else some (jobNumber (s.jobs.length - 1))
  else if name = "-" then some s.optionText
  else if name = "0" then some s.name
  else if name = "@" ∨ name = "*" then
    if s.parameters = [] then none else some (" ".intercalate s.parameters)
  else match name.toNat? with
    | some n => if name.toList.all Char.isDigit then s.parameters[n - 1]? else s.stored? name
    | none => s.stored? name

def items (s : Shell) (name : String) : List (String × String) :=
  if s.rich ∧ name = "PIPESTATUS" then s.stages.zipIdx.map fun (n, i) => (toString i, toString n)
  else if s.rich ∧ name = "FUNCNAME" then s.running.zipIdx.map fun (f, i) => (toString i, f)
  else if s.rich ∧ name = "DIRSTACK" then
    (s.cwd :: s.kept).zipIdx.map fun (d, i) => (toString i, d.render)
  else
    match s.elements name with
    | [] => ((s.values.get? name).map fun v => ("0", v)).toList
    | found => found

def connect (descriptor : Nat) (sink : Option Sink) (s : Shell) : Shell :=
  let others := s.sinks.filter fun e => e.1 ≠ descriptor
  { s with
    sinks := match sink with
      | some sink => (descriptor, sink) :: others
      | none => others }

/-- Runs an operation in a shell of its own, of which nothing is kept but what it shares with others. A
signal that it gets is for both. -/
def inSubshell (finish : Running Nat → Running Ending) (x : Running Nat) : Running Nat := do
  let s ← get
  let (result, t) := (finish x).run.run
    { s with traps := s.traps.filter fun v => v.2 = "", depth := s.depth + 1, isReplaced := false }
  modify fun s => { s with world := t.world }
  match result with
  | .ok (.exited code) => pure code
  | .ok (.killed signal) => throw (.ended (.killed signal))
  | .error _ => pure t.status

def gathering (x : Running α) : Running (α × Bytes) := do
  let outer := (← get).sinks
  modify fun s =>
    let (world, sink) := s.world.openPipe
    connect 1 (some sink) { s with world }
  let a ← andThen x fun s => { s with sinks := outer }
  let (world, bytes) := (← get).world.closePipe
  modify fun s => { s with world }
  pure (a, bytes)

end Shell

end SbtWorkspace.Simulation
