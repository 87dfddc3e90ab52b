import SbtWorkspace.Simulation.Shell.Assignment
import SbtWorkspace.Simulation.Shell.Inquiry

/-! Running the commands of a shell. Each kind of command is run by means of a runner for the commands
inside it; a shell runs commands that are nested as deeply as its scripts may be. -/

namespace SbtWorkspace.Simulation.Shell

namespace Engine

/-- The commands in whose scripts a rich shell does not tell of them. -/
def carriers : List String := ["eval", ".", "source"]

/-- Runs a command of the shell itself, for which complaints are told. One that is not special and cannot be used does
not end the shell. -/
def runOwn (isSpecial : Bool) (name : String) (x : Running Nat) : Running Nat := do
  match ← attempt (if (← get).rich ∧ carriers.contains name then x else telling name x) with
  | .ok status => pure status
  | .error jump =>
    if jump = .abandoned ∧ !isSpecial ∧ !(← get).rich then pure misuse else throw jump

def runNamed (e : Engine) (tested isSpecial : Bool) : (fuel : Nat) → String → List String → Running Nat
  | fuel + 1, "command", args =>
    match args with
    | "-v" :: names => telling "command" (describeCommand true names)
    | "-V" :: names => telling "command" (describeCommand false names)
    | "-p" :: name :: rest | "--" :: name :: rest => e.runNamed tested false fuel name rest
    | name :: rest =>
      match name.toList with
      | '-' :: c :: _ => telling "command" (badOption false (String.ofList ['-', c]))
      | _ => e.runNamed tested false fuel name rest
    | [] => pure 0
  | fuel + 1, "builtin", own :: rest => do
    let rich := (← get).rich
    let missing : Running Nat := do
      if rich then telling "builtin" (misused 1 "" (own ++ ": not a shell builtin"))
      else
        report "builtin: not found"
        pure 127
    match if rich then e.builtin? tested rich own rest else none with
    | some x => runOwn false own x
    | none => if own = "command" ∧ rich then e.runNamed tested false fuel own rest else missing
  | _, name, args => do
    match e.builtin? tested (← get).rich name args with
    | some x => runOwn isSpecial name x
    | none => do
      let ending ← e.runProgram name args
      if (← get).isReplaced then throw (.ended ending) else pure ending.status

/-- The fields of the words of a command. An assignment after a word that declares variables is one field. -/
def commandFields (e : Engine) (isDeclaring : Bool) : List Word → Running (List String)
  | [] => pure []
  | w :: rest => do
    let s ← get
    let isOne := isDeclaring && (Script.assignment? s.rich w).isSome
    let found ← if isOne then do pure [← wordText e.substitute w] else wordFields e.substitute w
    let isDeclaring := isDeclaring || (Script.plain? w).any fun n =>
      ["export", "readonly", "local"].contains n || (s.rich && ["declare", "typeset"].contains n)
    pure (found ++ (← e.commandFields isDeclaring rest))

/-- Runs a command that declares variables and then assigns arrays to them, although they may be constants. -/
def declaring (e : Engine) (later : List Assignment) (x : Running Nat) : Running Nat := do
  if later = [] then x
  else
    let before := (← get).constants
    let status ← x
    let after := (← get).constants
    modify fun s => { s with constants := before }
    e.assignAll later
    modify fun s => { s with constants := after }
    pure status

def runFields (e : Engine) (tested : Bool) (assignments later : List Assignment) (redirects : List Redirect)
    (name : String) (args : List String) : Running Nat := do
  let s ← get
  let own : Running Nat := e.declaring later (e.runNamed tested (special.contains name) (args.length + 1) name args)
  match s.functions.find? fun f => f.1 = name with
  | some (_, body) =>
    if special.contains name ∧ !s.rich then
      e.redirecting true redirects do
        e.assignAll assignments
        own
    else e.redirecting false redirects (e.withAssignments assignments (e.call tested name body args))
  | none =>
    if name = "exec" ∧ args = [] then
      if ← e.redirectAll redirects then pure 0 else if s.rich then pure 1 else abandon
    else if special.contains name ∧ !s.rich then
      e.redirecting true redirects do
        e.assignAll assignments
        own
    else e.redirecting false redirects (e.withAssignments assignments own)

def runSimple (e : Engine) (tested : Bool) (assignments : List Assignment) (words : List Word)
    (later : List Assignment) (redirects : List Redirect) : Running Nat := do
  modify fun s => { s with substituted := none }
  match ← e.commandFields false words with
  | [] =>
    e.redirecting false redirects do
      e.assignAll assignments
      pure ((← get).substituted.getD 0)
  | name :: args => do
    let last : Shell → Shell := fun s =>
      if s.rich then { s with values := s.values.set "_" ((args.getLast?).getD name) } else s
    andThen (e.runFields tested assignments later redirects name args) last

def writtenPath? (w : Word) : Option String :=
  let parts : Option (List (List Char)) := w.mapM fun
    | .literal cs quoted => if quoted ∨ !cs.any "*?[~".toList.contains then some cs else none
    | _ => none
  parts.map fun parts => String.ofList parts.flatten

/-- The files that a command opens for its output before it does anything else. -/
def opened (c : Command) : List (String × Bool) :=
  let redirects := match c with
    | .simple _ _ _ _ rs | .redirected _ rs => rs
    | _ => []
  redirects.filterMap fun
    | .write _ _ w | .both false w => (writtenPath? w).map (·, true)
    | .append _ w | .both true w => (writtenPath? w).map (·, false)
    | _ => none

/-- Runs the stages of a pipeline: each one gets the output of the one before it as its input. Gives the status of each
stage. -/
def runStages (e : Engine) (tested : Bool) : List Command → Running (List Nat)
  | [] => pure []
  | [c] => do
    let isInside := (← get).named.contains "lastpipe"
    pure [← if isInside then e.run tested c else e.apart (e.run tested c)]
  | c :: rest => do
    let outer := (← get).awaited
    modify fun s => { s with awaited := rest.flatMap opened }
    let (status, bytes) ← gathering (e.apart (e.run tested c))
    modify fun s => { s with awaited := outer }
    let left := (← get).world
    modify fun s => { s with world := { s.world with input := bytes, origin := .stream } }
    let more ← andThen (e.runStages tested rest) fun s =>
      { s with world := { s.world with input := left.input, origin := left.origin } }
    pure (status :: more)

/-- Runs a command in a loop; gives its status, and whether the loop goes on. -/
def turn (x : Running Nat) : Running (Nat × Bool) := do
  match ← attempt x with
  | .ok status => pure (status, true)
  | .error (.broken n status) => if n ≤ 1 then pure (status, false) else throw (.broken (n - 1) status)
  | .error (.continued n) => if n ≤ 1 then pure (0, true) else throw (.continued (n - 1))
  | .error jump => throw jump

/-- Runs the turns of a loop as long as its condition holds, or fails. -/
def repeatWhile (e : Engine) (tested whileFails : Bool) (condition body : Command) (status : Nat) :
    (fuel : Nat) → Running Nat
  | 0 => pure status
  | fuel + 1 => do
    let (answer, goesOn) ← turn (e.run true condition)
    if goesOn ∧ (answer ≠ 0) = whileFails then
      let (status, goesOn) ← turn (e.run tested body)
      if goesOn then e.repeatWhile tested whileFails condition body status fuel else pure status
    else pure status

/-- Runs the turns of a loop over values of a variable. -/
def repeatEach (e : Engine) (tested : Bool) (name : String) (body : Command) (status : Nat) :
    List String → Running Nat
  | [] => pure status
  | value :: rest => do
    let refusal ← if (← get).rich then assignOr 1 name value else do
      assign name value
      pure 0
    if refusal ≠ 0 then return refusal
    let (status, goesOn) ← turn (e.run tested body)
    if goesOn then e.repeatEach tested name body status rest else pure status

/-- Runs the turns of a loop over what is chosen from some values, until the input ends. -/
def repeatMenu (e : Engine) (tested : Bool) (name : String) (values : List String) (body : Command) (status : Nat) :
    (fuel : Nat) → Running Nat
  | 0 => pure status
  | fuel + 1 => do
    let answer ← readLine []
    let reply := ((← get).values.get? "REPLY").getD ""
    if answer ≠ 0 then
      let _ ← tell "\n"
      pure 1
    else if reply = "" then e.repeatMenu tested name values body status fuel
    else
      assign name ((reply.toNat?.bind fun n => if n = 0 then none else values[n - 1]?).getD "")
      let (status, goesOn) ← turn (e.run tested body)
      if goesOn then e.repeatMenu tested name values body status fuel else pure status

/-- The values that a loop goes over: those of some words, or the parameters. -/
def loopValues (e : Engine) (words : Option (List Word)) : Running (List String) := do
  match words with
  | some words => pure (← words.mapM (wordFields e.substitute)).flatten
  | none => pure (← get).parameters

def looping (x : Running Nat) : Running Nat := do
  modify fun s => { s with loops := s.loops + 1 }
  andThen x fun s => { s with loops := s.loops - 1 }

/-- Runs the first branch whose condition holds, or the last command if there is one. -/
def runBranches (e : Engine) (tested : Bool) (otherwise : Option Command) :
    List (Command × Command) → Running Nat
  | [] =>
    match otherwise with
    | some c => e.run tested c
    | none => pure 0
  | (condition, body) :: rest => do
    if (← e.run true condition) = 0 then e.run tested body else e.runBranches tested otherwise rest

def matchesAny (e : Engine) (text : String) : List Word → Running Bool
  | [] => pure false
  | w :: rest => do
    if (← wordPattern e.substitute w).isMatch (Octets.ofString text) then pure true else e.matchesAny text rest

/-- Runs the first case that has a pattern for a text, and those after it that its end asks for. -/
def runCases (e : Engine) (tested : Bool) (text : String) (isNext : Bool) (status : Nat) :
    List (List Word × Command × Onward) → Running Nat
  | [] => pure status
  | (patterns, body, onward) :: rest => do
    if ← (if isNext then pure true else e.matchesAny text patterns) then
      let status ← e.run tested body
      match onward with
      | .nothing => pure status
      | .next => e.runCases tested text true status rest
      | .other => e.runCases tested text false status rest
    else e.runCases tested text false status rest

def repeatCounting (e : Engine) (tested : Bool) (condition step : List Char) (body : Command) (status : Nat) :
    (fuel : Nat) → Running Nat
  | 0 => pure status
  | fuel + 1 => do
    let isBlank := condition.all fun c => c = ' ' || c = '\t' || c = '\n'
    match ← if isBlank then pure (some 1) else e.number? "((" condition with
    | none => pure 1
    | some 0 => pure status
    | some _ =>
      let (status, goesOn) ← turn (e.run tested body)
      if !goesOn then pure status
      else
        match ← e.number? "((" step with
        | none => pure 1
        | some _ => e.repeatCounting tested condition step body status fuel

/-- Puts a command into the background. One that takes time does its work when its time has come. -/
def startJob (e : Engine) (tested : Bool) (body : Command) : Running Nat := do
  let outer ← get
  let inside (world : World) : Except Jump Nat × Shell :=
    ((e.apart (e.run tested body)).run.run
      { outer with world := { world with input := [], origin := .stream }, jobs := [] })
  let (result, t) := inside outer.world
  let status := match result with
    | .ok status => status
    | .error (.ended ending) => ending.status
    | .error _ => t.status
  let isShort := t.world.time = outer.world.time
  let job : Job :=
    { status, ends := t.world.time
      work := if isShort then none else some fun world => (inside { world with time := outer.world.time }).2.world }
  let world := if isShort then { t.world with input := outer.world.input, origin := outer.world.origin }
    else outer.world
  set { outer with world, jobs := outer.jobs ++ [job] }
  match result with
  | .error (.ended (.killed signal)) => if isShort then throw (.ended (.killed signal)) else pure 0
  | _ => pure 0

def maxTurns : Nat := 100000

/-- The status of a pipeline by those of its stages: of a rich shell that is told so, the last failure counts. -/
def pipelineStatus (isStrict : Bool) (statuses : List Nat) : Nat :=
  if isStrict then ((statuses.reverse.find? (· ≠ 0)).getD 0) else (statuses.getLast?).getD 0

/-- Runs a command without a look at what its failure means. -/
def runBody (e : Engine) (tested : Bool) : Command → Running Nat
  | .simple line assignments words later redirects => do
    modify fun s => { s with line }
    e.runSimple tested assignments words later redirects
  | .redirected body redirects => e.redirecting false redirects (e.run tested body)
  | .sequence commands => do runAll e.run tested 0 commands
  | .background body => e.startJob tested body
  | .pipeline negated stages => do
    let tested := tested || negated
    let status ← match stages with
      | [c] => e.run tested c
      | _ => do
        let statuses ← e.runStages tested stages
        modify fun s => { s with stages := statuses }
        pure (pipelineStatus ((← get).named.contains "pipefail") statuses)
    pure (if negated then (if status = 0 then 1 else 0) else status)
  | .both first second => do
    let status ← e.run true first
    if status = 0 then e.run tested second else pure status
  | .either first second => do
    let status ← e.run true first
    if status = 0 then pure 0 else e.run tested second
  | .subshell body => e.apart (e.run tested body)
  | .conditional branches otherwise => e.runBranches tested otherwise branches
  | .loop whileFails condition body =>
    looping (e.repeatWhile tested whileFails condition body 0 maxTurns)
  | .each name words body => do
    let values ← e.loopValues words
    looping (e.repeatEach tested name body 0 values)
  | .menu name words body => do
    let values ← e.loopValues words
    if values = [] then pure 0 else looping (e.repeatMenu tested name values body 0 maxTurns)
  | .choice subject cases => do e.runCases tested (← wordText e.substitute subject) false 0 cases
  | .question q => e.ask q
  | .calculation source => do pure (truthStatus (← e.number? "((" source))
  | .counting first condition step body => do
    match ← e.number? "((" first with
    | none => pure 1
    | some _ => looping (e.repeatCounting tested condition step body 0 maxTurns)
  | .define name body => do
    modify fun s => { s with functions := (name, body) :: s.functions.filter fun f => f.1 ≠ name }
    pure 0

/-- Whether a failure of a command ends a shell that is told to end on failures. The parts of other
commands have been asked before. -/
def isChecked : Command → Bool
  | .simple .. | .subshell _ | .question _ | .calculation _ => true
  | .pipeline negated _ => !negated
  | _ => false

def isStage : Command → Bool
  | .simple .. | .subshell _ | .question _ | .calculation _ => true
  | _ => false

def runErrorTrap (e : Engine) : Running Unit := do
  let s ← get
  match s.traps.find? fun t => t.1 = "ERR" with
  | some (_, script) =>
    if s.running = [] ∨ s.options.contains 'E' then
      set { s with traps := s.traps.filter fun t => t.1 ≠ "ERR" }
      let _ ← runText e.run false script.toList
      modify fun t =>
        { t with status := s.status, traps := if t.traps.any fun u => u.1 = "ERR" then t.traps else s.traps }
  | none => pure ()

/-- Lets the time that has passed have its effects: jobs end, and the shell is told to end where its time is over. -/
def afterTime (e : Engine) : Running Unit := do
  let s ← get
  if s.jobs.any fun j => j.work.isSome && j.ends ≤ s.world.time then
    settleJobs (fun j => j.ends ≤ s.world.time) s.jobs.length
  if s.world.isLate then
    modify fun s => { s with world := { s.world with limit := none } }
    let _ ← e.receive ("TERM", 15, true)

def runCommand (e : Engine) (tested : Bool) (c : Command) : Running Nat := do
  let status ← if (← get).options.contains 'n' then pure 0 else e.runBody tested c
  modify fun s => { s with status, stages := if isStage c then [status] else s.stages }
  e.afterTime
  if status ≠ 0 ∧ !tested ∧ isChecked c then
    e.runErrorTrap
    if (← get).options.contains 'e' then throw (.ended (.exited status))
  pure status

end Engine

/-- Runs commands that are nested no deeper than the fuel allows. -/
def runner (launcher : Launcher) : (fuel : Nat) → Runner
  | 0 => fun _ _ => abandon
  | fuel + 1 => fun tested c => Engine.runCommand ⟨runner launcher fuel, launcher⟩ tested c

def maxDepth : Nat := 1000

def runScript (launcher : Launcher) (s : Shell) (script : List Char) : World × Ending :=
  let run := runner launcher maxDepth
  let (result, t) := (toEnd run (runWhole run script)).run.run s
  (t.world, match result with
    | .ok e => e
    | .error _ => .exited t.status)

end SbtWorkspace.Simulation.Shell
