import SbtWorkspace.Simulation.Condition
import SbtWorkspace.Simulation.Shell.Declaration
import SbtWorkspace.Simulation.Shell.Engine
import SbtWorkspace.Simulation.Shell.Intake
import SbtWorkspace.Simulation.Shell.Signal

/-! The commands that a shell has of its own. Some are special: a plain shell ends when it cannot use one of
them, and what is assigned before one of them stays. -/

namespace SbtWorkspace.Simulation.Shell

def special : List String :=
  [".", ":", "break", "continue", "eval", "exec", "exit", "export", "local", "readonly", "return", "set", "shift",
    "times", "trap", "unset"]

/-- The commands of the shell that are not special. -/
def regular : List String :=
  ["[", "alias", "bg", "cd", "command", "echo", "false", "fg", "getopts", "hash", "jobs", "kill",
    "printf", "pwd", "read", "test", "true", "type", "ulimit", "umask", "unalias", "wait"]

def added : List String :=
  ["bind", "builtin", "caller", "compgen", "complete", "compopt", "declare", "dirs", "disown", "enable", "fc", "help",
    "history", "let", "logout", "mapfile", "popd", "pushd", "readarray", "shopt", "source", "suspend", "typeset"]

def isOwn (s : Shell) (name : String) : Bool :=
  special.contains name || regular.contains name || (s.rich && added.contains name)

/-- Words with a meaning of their own that only a rich shell has. -/
def addedWords : List String := ["[[", "]]", "coproc", "function", "select", "time"]

def isReserved (s : Shell) (name : String) : Bool :=
  Script.reserved.contains name || name = "in" && s.rich || (s.rich && addedWords.contains name)

def maxNumber : Int := 2147483647

/-- The number that an argument is written as. A rich shell takes one below zero, too. -/
def number? (rich : Bool) (arg : String) : Option Int :=
  (Condition.number? arg).filter fun n => rich || (0 ≤ n && n ≤ maxNumber)

def statusOf (n : Int) : Nat := (n % 256).toNat

/-- Gives up a command that has more arguments than a rich shell takes. -/
def tooMany : Running Nat := do
  complain "too many arguments"
  giveUp

/-- Tells of an argument that should be a number; a plain shell ends. -/
def noNumber (arg : String) (otherwise : Running Nat) : Running Nat := do
  complainAs ("Illegal number: " ++ arg) (arg ++ ": numeric argument required")
  if (← get).rich then otherwise else abandon

/-- Leaves the shell. -/
def exit (args : List String) : Running Nat := do
  match args with
  | [] => throw (.ended (.exited (← get).status))
  | arg :: rest =>
    match number? (← get).rich arg with
    | some n =>
      if rest ≠ [] ∧ (← get).rich then tooMany else throw (.ended (.exited (statusOf n)))
    | none => noNumber arg abandon

def returnFrom (args : List String) : Running Nat := do
  let s ← get
  let isInside := !s.rich || s.saved.isSome || s.sourced ≠ 0
  let leave (status : Nat) : Running Nat :=
    if isInside then do
      modify fun s => { s with status }
      throw .returned
    else do
      complain "can only \x60return' from a function or sourced script"
      pure misuse
  match args with
  | [] => leave s.status
  | arg :: rest =>
    match number? s.rich arg with
    | some n => if s.rich ∧ rest ≠ [] then tooMany else leave (if s.rich then statusOf n else n.toNat)
    | none => noNumber arg (leave misuse)

/-- Leaves some of the loops that are running, or goes on with the next turn of one of them. -/
def leaveLoops (jump : Nat → Jump) (args : List String) : Running Nat := do
  let s ← get
  if s.rich ∧ s.loops = 0 then
    complain "only meaningful in a \x60for', \x60while', or \x60until' loop"
    pure 0
  else
    match args with
    | [] => if s.loops = 0 then pure 0 else throw (jump 1)
    | arg :: rest =>
      match number? s.rich arg with
      | none => noNumber arg (throw (.ended (.exited 128)))
      | some n =>
        if s.rich ∧ rest ≠ [] then tooMany
        else if n ≤ 0 then do
          complainAs ("Illegal number: " ++ arg) (arg ++ ": loop count out of range")
          if s.rich then throw (.broken s.loops 1) else abandon
        else if s.loops = 0 then pure 0
        else throw (jump (min n.toNat s.loops))

def shift (args : List String) : Running Nat := do
  let s ← get
  let arg := args.headD "1"
  match number? s.rich arg with
  | none => noNumber arg (pure 1)
  | some n =>
    if s.rich ∧ 1 < args.length then tooMany
    else if s.parameters.length < n ∨ n < 0 then
      if s.rich ∧ 0 ≤ n ∧ !s.named.contains "shift_verbose" then pure 1
      else refuse 1 "can't shift that many" (arg ++ ": shift count out of range")
    else
      set { s with parameters := s.parameters.drop n.toNat }
      pure 0

/-- Enters a directory, and keeps where the shell was; gives whether it can. -/
def enterDirectory (path : String) : Running Bool := do
  let s ← get
  match s.world.files.status s.cwd (.ofString path) with
  | .ok (loc, .directory) => do
    set
      { s with
        cwd := loc
        values := (s.values.set "OLDPWD" s.cwd.render).set "PWD" loc.render
        exported := if s.rich then "OLDPWD" :: s.exported else "OLDPWD" :: "PWD" :: s.exported }
    pure true
  | _ => pure false

def refusedDirectory (path : String) : Running Nat := do
  let s ← get
  let reason := match s.world.files.status s.cwd (.ofString path) with
    | .ok _ => Fault.notDirectory.wording
    | .error fault => fault.wording
  misused (if s.rich then 1 else misuse) ("can't cd to " ++ path) (path ++ ": " ++ reason)

def searchedDirectories (s : Shell) (path : String) : List String :=
  let isFixed := path.toList.head? = some '/' || ["." , ".."].contains ((path.splitOn "/").headD "")
  match if isFixed then none else s.values.get? "CDPATH" with
  | some text => ((Program.directories text).filter (· ≠ "")).map (Program.inDirectory · path)
  | none => []

/-- Enters a directory. A plain shell stays where it is if the variable is not set that names it. -/
def changeDirectory (args : List String) : Running Nat := do
  let s ← get
  let (options, operands) := args.span fun a => a.toList.head? = some '-' && a ≠ "-" && a ≠ "--"
  let operands := if operands.head? = some "--" then operands.tail else operands
  if let some option := badOption? (if s.rich then "LPe@" else "LP") options then badOption false option
  else if s.rich ∧ 1 < operands.length then misused 1 "" "too many arguments"
  else
    let held (name : String) : Except String String := match s.values.get? name with
      | some path => .ok path
      | none => if s.rich then .error (name ++ " not set") else .ok ""
    let found := match operands with
      | [] => held "HOME"
      | "-" :: _ => held "OLDPWD"
      | path :: _ => .ok path
    match found with
    | .error reason => misused 1 "" reason
    | .ok path =>
      let isThere (p : String) : Bool := match s.world.files.status s.cwd (.ofString p) with
        | .ok (_, .directory) => true
        | _ => false
      let searched := (searchedDirectories s path).find? isThere
      if ← enterDirectory (searched.getD (if path = "" then "." else path)) then
        if operands.head? = some "-" ∨ searched.isSome then tell ((← get).cwd.render ++ "\n") else pure 0
      else refusedDirectory path

def listedDirectory (s : Shell) (d : Location) : String :=
  let text := d.render
  match s.values.get? "HOME" with
  | some home =>
    if text = home then "~"
    else if (home ++ "/").isPrefixOf text ∧ home ≠ "" then "~" ++ (text.drop home.length).toString
    else text
  | none => text

def listDirectories (args : List String) : Running Nat := do
  let s ← get
  let all := s.cwd :: s.kept
  if args = ["-c"] then
    set { s with kept := [] }
    pure 0
  else if args = ["-p"] then tell (String.join (all.map fun d => listedDirectory s d ++ "\n"))
  else if args = ["-l"] then tell (" ".intercalate (all.map fun d => d.render) ++ "\n")
  else if args = ["-v"] then
    tell (String.join (all.zipIdx.map fun (d, i) =>
      (if i < 10 then " " else "") ++ toString i ++ "  " ++ listedDirectory s d ++ "\n"))
  else tell (" ".intercalate (all.map (listedDirectory s)) ++ "\n")

def pushDirectory (args : List String) : Running Nat := do
  let s ← get
  match args, s.kept with
  | [], [] => misused 1 "" "no other directory"
  | [], d :: rest =>
    if ← enterDirectory d.render then
      modify fun t => { t with kept := s.cwd :: rest }
      listDirectories []
    else refusedDirectory d.render
  | path :: _, _ =>
    if ← enterDirectory path then
      modify fun t => { t with kept := s.cwd :: s.kept }
      listDirectories []
    else refusedDirectory path

def popDirectory : Running Nat := do
  match (← get).kept with
  | d :: rest =>
    if ← enterDirectory d.render then
      modify fun t => { t with kept := rest }
      listDirectories []
    else refusedDirectory d.render
  | [] => misused 1 "" "directory stack empty"

/-- The conditions of a rich shell about its variables and options as ones about texts. -/
def knownConditions (s : Shell) : List String → List String
  | "-v" :: name :: rest =>
    let (base, key) := splitKey name
    let isSet : Bool := match key with
      | some k => if k = "@" ∨ k = "*" then s.items base != [] else (s.items base).any fun e => e.1 = k
      | none => (s.stored? name).isSome
    "-n" :: (if isSet then "x" else "") :: knownConditions s rest
  | "-o" :: name :: rest =>
    match (letterNames true).find? fun o => o.1 = name with
    | some (_, letter) => "-n" :: (if s.options.contains letter then "x" else "") :: knownConditions s rest
    | none =>
      if bareNames.contains name then
        "-n" :: (if s.named.contains name then "x" else "") :: knownConditions s rest
      else "-o" :: knownConditions s (name :: rest)
  | arg :: rest => arg :: knownConditions s rest
  | [] => []

def testStatus (args : List String) : Running Nat := do
  let s ← get
  let args := if s.rich ∧ args.length ≠ 3 then knownConditions s args
    else if s.rich ∧ args.head? = some "!" then "!" :: knownConditions s args.tail
    else args
  match Condition.holds s.rich s.world s.cwd args with
  | .ok answer => pure (if answer then 0 else 1)
  | .error fault => do
    complain (fault.message s.rich args)
    pure misuse

/-- The signals that scripts of a rich shell can be set for, without being signals. -/
def moments : List String := ["ERR", "DEBUG", "RETURN"]

def signalName? (rich : Bool) (word : String) : Option String :=
  if rich ∧ moments.contains (word.map Char.toUpper) then some (word.map Char.toUpper)
  else if rich ∨ !"SIG".toList.isPrefixOf word.toList then (Signal.ofWord? word).map (·.1)
  else none

def listTraps (names : List String) : Running Nat := do
  let s ← get
  let order := (Signal.all.map (·.1)) ++ moments
  let found := order.filterMap fun n =>
    if names ≠ [] ∧ !names.contains n then none else s.traps.find? fun t => t.1 = n
  let shown (t : String × String) : String :=
    let name := if s.rich ∧ t.1 ≠ "EXIT" ∧ !moments.contains t.1 then "SIG" ++ t.1 else t.1
    let text := if s.rich then
        '\x27' :: (t.2.toList.flatMap fun c => if c = '\x27' then ['\x27', '\\', '\x27', '\x27'] else [c]) ++ ['\x27']
      else inQuotes t.2.toList
    "trap -- " ++ String.ofList text ++ " " ++ name ++ "\n"
  tell (String.join (found.map shown))

/-- Tells of words that are no signals. A plain shell tells it without its name. -/
def complainOfSignals (words : List String) : Running Unit := do
  let s ← get
  for word in words do
    if s.rich then complain (word ++ ": invalid signal specification")
    else
      let _ ← write 2 (Utf8.encode ("trap: " ++ word ++ ": bad trap\n"))

/-- Sets the scripts for signals, or takes them away. -/
def setTrap (action : Option String) (words : List String) : Running Nat := do
  let rich := (← get).rich
  for signal in words.filterMap (signalName? rich) do
    modify fun s =>
      { s with traps := (action.toList.map fun a => (signal, a)) ++ s.traps.filter fun t => t.1 ≠ signal }
  let unknown := words.filter fun w => (signalName? rich w).isNone
  complainOfSignals unknown
  pure (if unknown = [] then 0 else 1)

def setTraps (args : List String) : Running Nat := do
  let s ← get
  match if args.head? = some "--" then args.tail else args with
  | [] => listTraps []
  | first :: words =>
    let isOption := first.toList.head? = some '-' && first ≠ "-" && args.head? ≠ some "--"
    if s.rich ∧ first = "-p" then
      complainOfSignals (words.filter fun w => (signalName? true w).isNone)
      let known := words.filterMap (signalName? true)
      let status ← if words ≠ [] ∧ known = [] then pure 0 else listTraps known
      pure (if known.length = words.length then status else 1)
    else if s.rich ∧ first = "-l" then tell Signal.richList
    else if isOption then badOption true (String.ofList (first.toList.take 2))
    else if words = [] then
      if s.rich ∧ (signalName? true first).isNone then
        let _ ← write 2 (Utf8.encode ((← usage) ++ "\n"))
        pure misuse
      else setTrap none [first]
    else if first = "-" then setTrap none words
    else if first ≠ "" ∧ first.toList.all Char.isDigit then setTrap none (first :: words)
    else setTrap (some first) words

/-- Works out expressions; the last one tells the status. -/
def letEach (status : Nat) : List String → Running Nat
  | [] => pure status
  | arg :: rest => do
    match ← attempt (evaluate arg.toList) with
    | .ok n => letEach (if n = 0 then 1 else 0) rest
    | .error .discarded => pure 1
    | .error jump => throw jump

/-- Does what jobs still do whose time has come, those that end first before others. -/
def settleJobs (isDue : Job → Bool) : (fuel : Nat) → Running Unit
  | 0 => pure ()
  | fuel + 1 => do
    let s ← get
    let due := s.jobs.zipIdx.filter fun j => j.1.work.isSome && isDue j.1
    match due.mergeSort fun a b => a.1.ends ≤ b.1.ends with
    | [] => pure ()
    | (j, index) :: _ => do
      let world := (j.work.getD id) s.world
      set
        { s with
          world := { world with time := s.world.time, input := s.world.input, limit := s.world.limit }
          jobs := s.jobs.set index { j with work := none } }
      settleJobs isDue fuel

def waitFor (index : Nat) : Running Nat := do
  let s ← get
  match s.jobs[index]? with
  | none => pure 127
  | some j => do
    let (world, _) := s.world.wait (j.ends - s.world.time)
    set { s with world }
    settleJobs (fun k => k.ends ≤ j.ends) s.jobs.length
    pure j.status

def jobIndex? (s : Shell) (word : String) : Option Nat :=
  match word.toList with
  | '%' :: rest =>
    if rest = ['%'] ∨ rest = ['+'] ∨ rest = [] then (if s.jobs = [] then none else some (s.jobs.length - 1))
    else if rest = ['-'] then (if s.jobs.length < 2 then none else some (s.jobs.length - 2))
    else (String.ofList rest).toNat?.map (· - 1)
  | _ => (List.range s.jobs.length).find? fun i => jobNumber i = word

def complainOfJob (word : String) : Running Nat := do
  if word.toList.head? = some '%' then
    misused (if (← get).rich then 127 else misuse) ("No such job: " ++ word) (word ++ ": no such job")
  else if (Condition.number? word).isNone then
    misused (if (← get).rich then 1 else misuse) ("Illegal number: " ++ word)
      ("\x60" ++ word ++ "': not a pid or valid job spec")
  else
    if (← get).rich then complain ("pid " ++ word ++ " is not a child of this shell")
    pure 127

def waitJobs (args : List String) : Running Nat := do
  let s ← get
  if args.head? = some "-n" ∧ s.rich then
    let left := (s.jobs.zipIdx.filter fun j => s.world.time < j.1.ends).mergeSort fun a b => a.1.ends ≤ b.1.ends
    match left.head?.or (s.jobs.zipIdx.getLast?) with
    | some (_, index) => waitFor index
    | none => pure 127
  else if args.head?.any (·.toList.head? = some '-') then
    badOption false (String.ofList ((args.headD "").toList.take 2))
  else if args = [] then do
    for index in List.range s.jobs.length do
      let _ ← waitFor index
    pure 0
  else do
    let mut status := 0
    for word in args do
      status := ← match jobIndex? s word with
        | some index => waitFor index
        | none => complainOfJob word
    pure status

namespace Engine

/-- Gets a signal: it is ignored, its script is run, or the shell is killed. -/
def receive (e : Engine) (signal : String × Nat × Bool) : Running Nat := do
  match (← get).traps.find? fun t => t.1 = signal.1 && !Signal.isFinal signal.2.1 with
  | some (_, script) => do
    let status := (← get).status
    let _ ← runText e.run false script.toList
    modify fun s => { s with status }
    pure 0
  | none => if signal.2.2 then throw (.ended (.killed signal.2.1)) else pure 0

/-- Sends a signal to one process: the shell itself, or a job that has not ended yet. -/
def killOne (e : Engine) (signal : String × Nat × Bool) (target : String) : Running Nat := do
  let s ← get
  let gone : Running Nat := misused 1 "No such process\n" ("(" ++ target ++ ") - No such process")
  if target = processNumber ∨ (s.rich ∧ target = "0") then e.receive signal
  else
    match jobIndex? s target with
    | some index =>
      match s.jobs[index]? with
      | some j =>
        if j.ends ≤ s.world.time then gone
        else
          if signal.2.2 then
            let stopped : Job := { status := 128 + signal.2.1, ends := s.world.time }
            set { s with jobs := s.jobs.set index stopped }
          pure 0
      | none => gone
    | none =>
      if target.toList.head? = some '%' then
        misused (if s.rich then 1 else misuse) ("No such job: " ++ target) (target ++ ": no such job")
      else if (Condition.number? target).isSome then gone
      else
        misused (if s.rich then 1 else misuse) ("Illegal number: " ++ target)
          (target ++ ": arguments must be process or job IDs")

def badKill : Running Nat := do
  let usage ← usage
  if (← get).rich then
    let _ ← write 2 (Utf8.encode (usage ++ "\n"))
  else complain "Usage: kill [-s sigspec | -signum | -sigspec] [pid | job]... or\nkill -l [exitstatus]"
  pure misuse

def badSignal (args : List String) : Running Nat := do
  let rich := (← get).rich
  match args with
  | [] => badKill
  | ["-s"] | ["-n"] =>
    misused (if rich then 1 else misuse) "No arg for -s option" (args.headD "" ++ ": option requires an argument")
  | option :: rest =>
    let isSplit := ["-s", "-n"].contains option
    let word := if isSplit then rest.headD "" else (option.drop 1).toString
    let plain := if isSplit then "invalid signal number or name: " ++ word
      else "Illegal option -" ++ String.ofList (word.toList.take 1)
    misused (if rich then 1 else misuse) plain (word ++ ": invalid signal specification")

/-- Sends a signal to the processes that are given by their numbers. -/
def kill (e : Engine) (args : List String) : Running Nat := do
  let (signal, targets) := match args with
    | "-s" :: name :: rest | "-n" :: name :: rest => (Signal.ofWord? name, rest)
    | arg :: rest =>
      match arg.toList with
      | '-' :: name => (Signal.ofWord? (String.ofList name), rest)
      | _ => (Signal.ofWord? "TERM", args)
    | [] => (none, [])
  if args = ["-l"] ∨ args = ["-L"] then tell (if (← get).rich then Signal.richList else Signal.plainList)
  else if args.head? = some "-l" then
    let shown (word : String) : Option String :=
      (Signal.ofWord? (match word.toNat? with
        | some n => toString (if 128 < n then n - 128 else n)
        | none => word)).map fun s => if word.toNat?.isSome then s.1 else toString s.2.1
    let found := args.tail.map shown
    let _ ← tell (String.join ((found.filterMap id).map (· ++ "\n")))
    match (args.tail.zip found).find? fun f => f.2.isNone with
    | none => pure 0
    | some (word, _) =>
      misused (if (← get).rich then 1 else misuse) ("invalid signal number or exit status: " ++ word)
        (word ++ ": invalid signal specification")
  else
    match signal, if targets.head? = some "--" then targets.tail else targets with
    | some signal, first :: rest => do
      let mut status ← e.killOne signal first
      for target in rest do
        status := max status (← e.killOne signal target)
      pure status
    | none, _ => badSignal args
    | _, _ => badKill

/-- Runs a script that is found by its name in the shell itself. A rich shell looks for it in the working directory,
too, and gives it parameters. -/
def source (e : Engine) (topic : String) (args : List String) : Running Nat := do
  let s ← get
  match if args.head? = some "--" then args.tail else args with
  | [] =>
    if s.rich then
      telling topic do
        let usage ← usage
        misused misuse "" ("filename argument required\n" ++ usage)
    else pure 0
  | name :: more => do
    let places := if s.rich ∧ !Program.isPath name then paths s name ++ [name] else paths s name
    let text := places.findSome? fun path =>
      match s.world.readFile s.call path with
      | .ok (_, bytes) => some (path, Octets.toString (Octets.toChars bytes))
      | .error _ => none
    match text with
    | none => do
      match if s.rich ∨ Program.isPath name then s.world.files.status s.cwd (.ofString name) else .error .noEntry with
      | .ok (_, .directory) => if s.rich then telling topic (misused 1 "" (name ++ ": is a directory")) else pure 0
      | found => do
        let missing := if Program.isPath name then "cannot open " ++ name ++ ": No such file" else name ++ ": not found"
        report (if s.rich then unreachable name found else missing)
        if s.rich then pure 1 else abandon
    | some (path, text) => do
      let isGiven := s.rich && more ≠ []
      modify fun s =>
        { s with
          sourced := s.sourced + 1, parameters := if isGiven then more else s.parameters
          topic := if s.rich then s.topic else path
          script := if s.rich then some path else s.script }
      let result ← attempt (runPart e.run false text.toList)
      modify fun t =>
        { t with
          sourced := s.sourced, parameters := if isGiven then s.parameters else t.parameters, topic := s.topic
          script := s.script }
      match result with
      | .error .returned => do pure (← get).status
      | .error jump => throw jump
      | .ok status => pure status
where
  /-- Why nothing can be read at a path. -/
  unreachable (name : String) (found : Except Fault (Location × Node)) : String :=
    name ++ ": " ++ match found with
      | .ok _ => Fault.noEntry.wording
      | .error fault => fault.wording

/-- The words of a command without the options of a rich shell before them, and whether it is run without an
environment. -/
def replacing (rich isBare : Bool) : List String → List String × Bool
  | "--" :: rest => (rest, isBare)
  | "-a" :: name :: rest => if rich then replacing rich isBare rest else ("-a" :: name :: rest, isBare)
  | "-c" :: rest => if rich then replacing rich true rest else ("-c" :: rest, isBare)
  | "-l" :: rest => if rich then replacing rich isBare rest else ("-l" :: rest, isBare)
  | words => (words, isBare)

/-- Puts a program in the place of the shell. Without a name, only redirections are meant. -/
def replace (e : Engine) (args : List String) : Running Nat := do
  let s ← get
  let isOption (a : String) : Bool := a.toList.head? = some '-' && a ≠ "-" && a ≠ "--"
  match replacing s.rich false args with
  | ([], _) => pure 0
  | (name :: args, isBare) => do
    if s.rich ∧ isOption name then return ← badOption false (String.ofList (name.toList.take 2))
    set { s with isReplaced := s.rich && !isBare, exported := if isBare then [] else s.exported }
    throw (.ended (← e.runProgram name args))

inductive Nature where
  | reserved
  | function
  | special
  | own
  | program (path : String)
  | nothing

def nature (s : Shell) (name : String) : Nature :=
  if isReserved s name then .reserved
  else if s.functions.any fun f => f.1 = name then .function
  else if special.contains name then .special
  else if isOwn s name then .own
  else
    match found? s name with
    | some path => .program path
    | none => .nothing

/-- Tells what names stand for; gives how many of them stand for something. A rich shell complains of the others where
it tells all. -/
def describe (isLong : Bool) (line : String → Nature → Option String) (names : List String) : Running Nat := do
  let s ← get
  for n in names do
    match line n (nature s n), nature s n with
    | some text, _ => let _ ← tell text
    | none, .nothing => if isLong ∧ s.rich then complain (n ++ ": not found")
    | none, _ => pure ()
  pure (names.filter fun n => match nature s n with
    | .nothing => false
    | _ => true).length

def longLine (rich : Bool) (name : String) : Nature → Option String
  | .reserved => some (name ++ " is a shell keyword\n")
  | .function => some (name ++ (if rich then " is a function\n" else " is a shell function\n"))
  | .special => some (name ++ (if rich then " is a shell builtin\n" else " is a special shell builtin\n"))
  | .own => some (name ++ " is a shell builtin\n")
  | .program path => some (name ++ " is " ++ path ++ "\n")
  | .nothing => if rich then none else some (name ++ ": not found\n")

def shortLine (name : String) : Nature → Option String
  | .program path => some (path ++ "\n")
  | .nothing => none
  | _ => some (name ++ "\n")

def kindLine (_ : String) : Nature → Option String
  | .reserved => some "keyword\n"
  | .function => some "function\n"
  | .special | .own => some "builtin\n"
  | .program _ => some "file\n"
  | .nothing => none

def pathLine (_ : String) : Nature → Option String
  | .program path => some (path ++ "\n")
  | _ => none

def describeBy (args : List String) : Running Nat := do
  let rich := (← get).rich
  let (options, names) := if rich then args.span fun a => a.toList.head? = some '-' else ([], args)
  let has (c : Char) : Bool := options.any fun a => a.toList.contains c
  let isLong := !(has 't' || has 'p' || has 'P')
  let found ← describe isLong (if has 't' then kindLine else if !isLong then pathLine else longLine rich) names
  pure (if found = names.length then 0 else if rich then 1 else 127)

/-- Tells how commands are run, as `command` does: a plain shell tells of one of them. -/
def describeCommand (isTerse : Bool) (names : List String) : Running Nat := do
  let rich := (← get).rich
  let names := if rich then names else names.take 1
  let found ← describe (!isTerse) (if isTerse then shortLine else longLine rich) names
  pure (if 0 < found then 0 else if rich then 1 else 127)

def writePrinted (d : Printing.Dialect) (printed : Printing.Printed) : Running Nat := do
  for (_, fault) in printed.faults do complain (d.message fault)
  pure (max printed.status (← put printed.bytes))

/-- Writes arguments by a format, or puts the text into a variable. -/
def printf (args : List String) : Running Nat := do
  let rich := (← get).rich
  let dialect : Printing.Dialect := if rich then .rich else .plain
  let words := if args.head? = some "--" then args.tail else args
  let usage ← usage
  match rich, args with
  | true, "-v" :: name :: args => do
    let (base, key) := splitKey name
    if !isName base then misused misuse "" (notName name)
    else
      let printed := Printing.printf dialect args
      for (_, fault) in printed.faults do complain (dialect.message fault)
      let text := Octets.toString (Octets.toChars (printed.bytes.filter (· ≠ 0)))
      match key with
      | some key => do
        assignElement base (← keyOfText base key) text
        pure printed.status
      | none => do pure (max printed.status (← assignOr 1 base text))
  | _, [] => do
    if rich then
      let _ ← write 2 (Utf8.encode (usage ++ "\n"))
    else complain "usage: printf format [arg ...]"
    pure misuse
  | true, ["-v"] => misused misuse "" ("-v: option requires an argument\n" ++ usage)
  | _, first :: _ =>
    if first.toList.head? = some '-' ∧ first ≠ "-" ∧ first ≠ "--" then
      badOption false (String.ofList (first.toList.take 2))
    else writePrinted dialect (Printing.printf dialect words)

/-- Runs a command that only a rich shell has; `none` if it is none of them. -/
def addedBuiltin? (e : Engine) (name : String) (args : List String) : Option (Running Nat) :=
  match name with
  | "declare" | "typeset" => some (declareEach false args)
  | "let" => some (if args = [] then misused 1 "" "expression expected" else letEach 1 args)
  | "source" => some (e.source name args)
  | "shopt" => some (setHabits args)
  | "mapfile" | "readarray" => some (readLines args)
  | "pushd" => some (pushDirectory args)
  | "popd" => some popDirectory
  | "dirs" => some (listDirectories args)
  | "caller" => some do pure (if (← get).running = [] then 1 else 0)
  | "logout" => some (misused 1 "" "not login shell: use \x60exit'")
  | "suspend" => some (misused 1 "" "cannot suspend: no job control")
  | "compopt" => some (misused 1 "" "not currently executing completion function")
  | "disown" => some do if (← get).jobs.isEmpty then misused 1 "" "current: no such job" else pure 0
  | "bind" | "compgen" | "complete" | "enable" | "fc" | "help" | "history" => some (pure 0)
  | _ => none

/-- Runs a command of the shell; `none` if it is none of them. -/
def builtin? (e : Engine) (tested rich : Bool) (name : String) (args : List String) : Option (Running Nat) :=
  match name with
  | ":" | "true" => some (pure 0)
  | "false" => some (pure 1)
  | "exit" => some (exit args)
  | "return" => some (returnFrom args)
  | "break" => some (leaveLoops (.broken · 0) args)
  | "continue" => some (leaveLoops .continued args)
  | "shift" => some (shift args)
  | "set" => some (if args = [] then listValues else setOptions args)
  | "export" => some (exportEach args)
  | "readonly" => some (fixEach args)
  | "local" => some (localize args)
  | "unset" => some (unset args)
  | "echo" => some do
    let escapes := (← get).named.contains "xpg_echo"
    put (if rich then Printing.echoFlagged true escapes args else Printing.echo true args)
  | "printf" => some (printf args)
  | "test" => some (testStatus args)
  | "[" => some
    (match args.reverse with
    | "]" :: rest => testStatus rest.reverse
    | _ => misused misuse "missing ]" "missing \x60]'")
  | "cd" => some (changeDirectory args)
  | "pwd" => some do
    match badOption? "LP" (args.filter fun a => a.toList.head? = some '-') with
    | some option => badOption false option
    | none => tell ((← get).cwd.render ++ "\n")
  | "read" => some (readLine args)
  | "getopts" => some do
    match args with
    | letters :: name :: rest => do
      let s ← get
      if isName name then getOption letters name (if rest = [] then s.parameters else rest)
      else misused (if s.rich then 1 else misuse) (name ++ ": bad variable name") (notName name)
    | _ => do
      if rich then
        let _ ← write 2 (Utf8.encode ((← usage) ++ "\n"))
      else complain "Usage: getopts optstring var [arg...]"
      pure misuse
  | "kill" => some (e.kill args)
  | "trap" => some (setTraps args)
  | "eval" => some (runPart e.run tested (" ".intercalate (if args.head? = some "--" then args.tail else args)).toList)
  | "." => some (e.source name args)
  | "exec" => some (e.replace args)
  | "type" => some (describeBy args)
  | "wait" => some (waitJobs args)
  | "umask" => some do
    match args with
    | [] => tell "0022\n"
    | ["-S"] => tell "u=rwx,g=rx,o=rx\n"
    | arg :: _ =>
      match badOption? "pS" (args.takeWhile fun a => a.toList.head? = some '-') with
      | some option => badOption false option
      | none =>
        if arg.toList.all Char.isDigit ∧ !arg.toList.all Printing.isOctal then
          misused (if rich then 1 else misuse) ("Illegal number: " ++ arg) (arg ++ ": octal number out of range")
        else pure 0
  | "ulimit" => some do if args = [] then tell "unlimited\n" else pure 0
  | "hash" => some do
    let s ← get
    let missing := args.filter fun a => !(a.toList.head? = some '-' || isOwn s a || (found? s a).isSome)
    for a in missing do complain (a ++ ": not found")
    pure (if missing = [] then 0 else 1)
  | "alias" | "unalias" => some do
    let missing := args.filter fun a => !(a = "-a" || (name = "alias" && a.toList.contains '='))
    for a in missing do
      if rich then complain (a ++ ": not found")
      else
        let _ ← write 2 (Utf8.encode (name ++ ": " ++ a ++ " not found\n"))
    pure (if missing = [] then 0 else 1)
  | "fg" | "bg" => some (misused (if rich then 1 else misuse) "No current job" "no job control")
  | "times" => some do
    let line := if rich then "0m0.000s 0m0.000s\n" else "0m0.000000s 0m0.000000s\n"
    tell (line ++ line)
  | "jobs" => some (pure 0)
  | _ => if rich then e.addedBuiltin? name args else none

end Engine

end SbtWorkspace.Simulation.Shell
