import SbtWorkspace.FileSystem.Error
import SbtWorkspace.Program
import SbtWorkspace.Simulation.World
import SbtWorkspace.Simulation.Shell.Expansion

/-! What the commands of a shell are run with: how the commands inside them are run, and how programs are
launched. Scripts inside commands, redirections and functions are built from these. -/

namespace SbtWorkspace.Simulation.Shell

/-- How commands inside a command are run, and how programs are launched. -/
structure Engine where
  run : Runner
  launcher : Launcher

/-- Runs commands one after the other, and gives the status of the last one. -/
def runAll (run : Runner) (tested : Bool) (status : Nat) : List Command → Running Nat
  | [] => pure status
  | c :: rest => do runAll run tested (← run tested c) rest

/-- Runs complete commands one after the other. A shell goes on after one that was given up, but not inside another
shell. -/
def runComplete (status : Nat) : List (Running Nat) → Running Nat
  | [] => pure status
  | x :: rest => do
    match ← attempt x with
    | .ok status => runComplete status rest
    | .error .discarded => do
      let s ← get
      if 0 < s.depth then throw .discarded
      else if s.options.contains 'e' then throw (.ended (.exited s.status))
      else runComplete s.status rest
    | .error jump => throw jump

/-- Runs a script. One that is not well formed ends the shell after the commands before the fault. -/
def runText (run : Runner) (tested : Bool) (text : List Char) : Running Nat := do
  let (commands, broken) := Script.parse (← get).rich text
  let status ← runComplete 0 (commands.map (run tested))
  if broken then abandon else pure status

/-- Runs a script that is part of another one. In a rich shell, a fault in it is a failure. -/
def runPart (run : Runner) (tested : Bool) (text : List Char) : Running Nat := do
  let (commands, broken) := Script.parse (← get).rich text
  let status ← runComplete 0 (commands.map (run tested))
  if !broken then pure status else if (← get).rich then pure misuse else abandon

/-- The commands of a complete command without the last one, which is a simple command without redirections. -/
def lastSimple? : Command → Option (List Command × Command)
  | .sequence cs =>
    match cs.getLast? with
    | some (.simple line assignments words later []) => some (cs.dropLast, .simple line assignments words later [])
    | _ => none
  | _ => none

/-- Runs the script that a shell is given. Where it is an argument of a rich shell, the program that is last takes the
place of the shell. -/
def runWhole (run : Runner) (text : List Char) : Running Nat := do
  let s ← get
  let (commands, broken) := Script.parse s.rich text
  match if s.rich ∧ s.isString ∧ !broken then commands.getLast?.bind lastSimple? else none with
  | none => runText run false text
  | some (before, last) =>
    let final : Running Nat := do
      let _ ← runAll run false 0 before
      modify fun s => { s with isReplaced := s.traps.isEmpty }
      run false last
    runComplete 0 (commands.dropLast.map (run false) ++ [final])

def runExitTrap (run : Runner) (e : Ending) : Running Ending := do
  match e, (← get).traps.find? fun t => t.1 = "EXIT" with
  | .exited code, some (_, script) => do
    modify fun s => { s with status := code, traps := s.traps.filter fun t => t.1 ≠ "EXIT" }
    match ← attempt (runText run false script.toList) with
    | .error (.ended e) => pure e
    | _ => pure e
  | .killed signal, some (_, script) => do
    let s ← get
    if s.rich ∧ signal ≠ 9 then do
      set { s with status := 128 + signal, traps := s.traps.filter fun t => t.1 ≠ "EXIT" }
      let _ ← attempt (runText run false script.toList)
      pure e
    else pure e
  | _, _ => pure e

def toEnd (run : Runner) (x : Running Nat) : Running Ending := do
  match ← attempt x with
  | .ok status => runExitTrap run (.exited status)
  | .error (.ended e) => runExitTrap run e
  | .error .abandoned => runExitTrap run (.exited misuse)
  | .error _ => do runExitTrap run (.exited (← get).status)

namespace Engine

/-- Runs an operation in a shell of its own. -/
def apart (e : Engine) (x : Running Nat) : Running Nat := inSubshell (toEnd e.run) x

/-- The file that a script stands for which is nothing but a redirection of the input. -/
def contentOf? (source : List Char) : Option Word :=
  match Script.parse true source with
  | ([.sequence [.simple _ [] [] [] [.read 0 w]]], false) => some w
  | _ => none

/-- What the commands write that stand in a word. A rich shell does not end there because of a failure. -/
def substitute (e : Engine) (source : List Char) : Running Bytes := do
  let plain (s : Shell) : Shell :=
    if s.rich then { s with options := s.options.filter (· ≠ 'e') } else s
  match if (← get).rich then contentOf? source else none with
  | some w => do
    let path ← wordText (fun _ => pure []) w
    let s ← get
    match s.world.readFile s.call path with
    | .ok (world, bytes) => do
      set { s with world, substituted := some 0, status := 0 }
      pure bytes
    | .error fault => do
      report (path ++ ": " ++ fault.wording)
      modify fun s => { s with substituted := some 1, status := 1 }
      pure []
  | none => do
    let (status, bytes) ← gathering (e.apart do
      modify plain
      runText e.run false source)
    modify fun s => { s with substituted := some status, status }
    pure bytes

def writtenText (w : Word) : String :=
  String.ofList (w.flatMap fun
    | .literal cs _ => cs
    | .parameter p .value _ => '$' :: p.name.toList
    | _ => [])

/-- The path that a redirection is written with; a rich shell wants it to be one field. -/
def targetPath (e : Engine) (target : Word) : Running (Option String) := do
  if (← get).rich then
    match ← wordFields e.substitute target with
    | [path] => pure (some path)
    | _ => do
      report (writtenText target ++ ": ambiguous redirect")
      pure none
  else some <$> wordText e.substitute target

/-- Tells why a file cannot be opened, in a plain shell by what was to be done and by what is missing. -/
def complainOfFile (task missing path : String) (fault : Fault) : Running Unit := do
  if (← get).rich then report (path ++ ": " ++ fault.wording)
  else
    let reason := if fault = .noEntry ∨ fault = .notDirectory then missing else fault.wording
    report ("cannot " ++ task ++ " " ++ path ++ ": " ++ reason)

/-- Opens a file for output. `forced` says that one that is there may be emptied in any case. -/
def openOutput (path : String) (empties forced : Bool) : Running (Option Sink) := do
  let s ← get
  let isKept := empties && !forced && s.options.contains 'C' &&
    match s.world.files.status s.cwd (.ofString path) with
    | .ok (_, .file _ _) => true
    | _ => false
  if isKept then
    if s.rich then report (path ++ ": cannot overwrite existing file")
    else complainOfFile "create" "" path .alreadyExists
    pure none
  else
    match s.world.openFile s.call path empties with
    | .ok (world, sink) => do
      set { s with world }
      pure (some sink)
    | .error fault => do
      complainOfFile "create" "Directory nonexistent" path fault
      pure none

/-- Connects descriptors to a file; gives whether the file can be opened. -/
def output (e : Engine) (descriptors : List Nat) (target : Word) (empties forced : Bool) : Running Bool := do
  match ← e.targetPath target with
  | none => pure false
  | some path =>
    match ← openOutput path empties forced with
    | some sink => do
      modify fun s => descriptors.foldl (fun s d => connect d (some sink) s) s
      pure true
    | none => pure false

/-- Takes octets for the input, or for another descriptor. -/
def input (descriptor : Nat) (origin : Origin) (bytes : Bytes) : Running Bool := do
  let others (s : Shell) : List (Nat × Bytes) := s.sources.filter fun f => f.1 ≠ descriptor
  if descriptor = 0 then
    modify fun s => { s with world := { s.world with input := bytes, origin }, shared := none }
  else modify fun s => { s with sources := (descriptor, bytes) :: others s }
  pure true

def source? (s : Shell) (descriptor : Nat) : Option Bytes :=
  (s.sources.find? fun f => f.1 = descriptor).map (·.2)

def close (descriptor : Nat) : Running Bool := do
  if descriptor = 0 then input 0 .stream []
  else
    modify (connect descriptor none)
    modify fun s => { s with sources := s.sources.filter fun f => f.1 ≠ descriptor }
    pure true

/-- Connects a descriptor to what another one is connected to, or closes it. In a rich shell, any other word is a file
for the output and the errors. -/
def duplicate (e : Engine) (descriptor : Nat) (target : Word) : Running Bool := do
  let source ← wordText e.substitute target
  let s ← get
  match source.toNat? with
  | some n =>
    match s.call.sink? n, source? s n with
    | some sink, _ => do
      modify (connect descriptor (some sink))
      pure true
    | none, some bytes => do
      let done ← input descriptor .file bytes
      if descriptor = 0 then modify fun s => { s with shared := some n }
      pure done
    | none, none =>
      if n = 0 then
        if descriptor = 0 then pure true else input descriptor s.world.origin s.world.input
      else
        report (toString n ++ ": Bad file descriptor")
        pure false
  | none =>
    if source = "-" then close descriptor
    else if s.rich then
      if descriptor = 1 then e.output [1, 2] target true false
      else
        report (writtenText target ++ ": ambiguous redirect")
        pure false
    else fail "Bad fd number"

def redirect (e : Engine) : Redirect → Running Bool
  | .write descriptor forced target => e.output [descriptor] target true forced
  | .append descriptor target => e.output [descriptor] target false false
  | .both appends target => e.output [1, 2] target (!appends) false
  | .read descriptor target => do
    match ← e.targetPath target with
    | none => pure false
    | some path =>
      let s ← get
      match s.world.readFile s.call path, s.world.files.status s.cwd (.ofString path) with
      | .ok (world, bytes), found => do
        set { s with world }
        let origin := match found with
          | .ok (_, .file _ _) => Origin.file
          | _ => .stream
        input descriptor origin bytes
      | .error _, .ok _ => input descriptor .directory []
      | .error fault, .error _ => do
        complainOfFile "open" "No such file" path fault
        pure false
  | .text content => do input 0 .stream (Utf8.encode (textOf (← expandWord e.substitute content)))
  | .line content => do input 0 .stream (Utf8.encode (textOf (← expandWord e.substitute content) ++ "\n"))
  | .duplicate descriptor target => e.duplicate descriptor target

def redirectAll (e : Engine) : List Redirect → Running Bool
  | [] => pure true
  | r :: rest => do if ← e.redirect r then e.redirectAll rest else pure false

def isInput : Redirect → Bool
  | .read descriptor _ | .duplicate descriptor _ => descriptor = 0
  | .text _ | .line _ => true
  | _ => false

/-- A shell after redirections that have an end. What is left of the input is left for the descriptor that it was taken
from. -/
def afterRedirects (outer : Shell) (rs : List Redirect) (s : Shell) : Shell :=
  let isOther (n : Nat) : Bool := rs.any fun
    | .read descriptor _ | .duplicate descriptor _ => descriptor = n
    | _ => false
  let left (f : Nat × Bytes) : Nat × Bytes :=
    if isOther f.1 then f
    else if s.shared = some f.1 ∧ outer.shared ≠ s.shared then (f.1, s.world.input)
    else (f.1, (source? s f.1).getD [])
  { s with
    sinks := outer.sinks
    sources := outer.sources.map left
    shared := outer.shared
    world :=
      if rs.any isInput then { s.world with input := outer.world.input, origin := outer.world.origin }
      else s.world }

/-- Runs an operation under redirections. Where one of them cannot be applied, a plain shell ends if `isFatal`
holds. -/
def redirecting (e : Engine) (isFatal : Bool) (rs : List Redirect) (x : Running Nat) : Running Nat := do
  let outer ← get
  if rs = [] then x
  else andThen (do
    if ← e.redirectAll rs then x
    else if outer.rich then pure 1
    else if isFatal then abandon
    else pure misuse) (afterRedirects outer rs)

/-- Runs a function. -/
def call (e : Engine) (tested : Bool) (name : String) (body : Command) (args : List String) : Running Nat := do
  let outer ← get
  set
    { outer with
      parameters := args, saved := some [], loops := 0, running := name :: outer.running, isReplaced := false }
  let result ← attempt (e.run tested body)
  modify fun s =>
    { restore (s.saved.getD []) s with
      parameters := outer.parameters, saved := outer.saved, loops := outer.loops, running := outer.running }
  match result with
  | .ok status => pure status
  | .error .returned => do pure (← get).status
  | .error jump => throw jump

/-- Opens the files for the output of the stages of a pipeline that are still to come. -/
def openAwaited : Running Unit := do
  let s ← get
  let world := s.awaited.foldl
    (fun w a => match w.openFile s.call a.1 a.2 with
      | .ok (w, _) => w
      | .error _ => w) s.world
  set { s with world, awaited := [] }

/-- Launches the program at a path, which is run by a name. A file that names no interpreter is a script. -/
def launch (e : Engine) (name path : String) (args : List String) : Running (Except Fault Ending) := do
  openAwaited
  let s ← get
  let call := { s.call with name, env := if s.rich then s.environment.set "_" path else s.environment }
  let result := match e.launcher call s.world path args with
    | .error .execFormat =>
      let interpreter := if s.rich then "/bin/bash" else "/bin/sh"
      e.launcher { call with name := interpreter } s.world interpreter (path :: args)
    | result => result
  match result with
  | .ok (world, ending) => do
    set { s with world }
    pure (.ok ending)
  | .error fault => pure (.error fault)

/-- Launches the first of some paths that is a program; of the faults the last one counts that is not about
a missing path, with its path. -/
def launchFirst (e : Engine) (name : String) (args : List String) (fault : String × Fault) :
    List String → Running (Except (String × Fault) Ending)
  | [] => pure (.error fault)
  | path :: rest => do
    match ← e.launch name path args with
    | .ok ending => pure (.ok ending)
    | .error .noEntry | .error .notDirectory => e.launchFirst name args fault rest
    | .error other => e.launchFirst name args (path, other) rest

def refusal (fault : Fault) : Nat :=
  match fault with
  | .noEntry | .notDirectory | .linkLoop | .nameTooLong => 127
  | _ => 126

/-- The paths at which a program is looked for. -/
def paths (s : Shell) (name : String) : List String :=
  if Program.isPath name then [name]
  else (Program.directories ((s.values.get? "PATH").getD "")).map (Program.inDirectory · name)

def found? (s : Shell) (name : String) : Option String :=
  (paths s name).find? fun path =>
    match s.world.files.status s.cwd (.ofString path) with
    | .ok (_, .file _ executable) => executable
    | _ => false

/-- What a rich shell tells of a program that it cannot run: a directory is one as a whole, and of a file that is there
and cannot be found the interpreter is missing. -/
def richReason (s : Shell) (path : String) (fault : Fault) : String :=
  match s.world.files.status s.cwd (.ofString path) with
  | .ok (_, .directory) => "Is a directory"
  | .ok _ => if fault = .noEntry then "cannot execute: required file not found" else fault.wording
  | .error fault => fault.wording

def complainOfProgram (name path : String) (fault : Fault) : Running Unit := do
  let s ← get
  let isMissing := refusal fault = 127
  if !s.rich then report (name ++ ": " ++ if isMissing then "not found" else "Permission denied")
  else if isMissing ∧ !Program.isPath path then
    if s.topic = "" then report (name ++ ": command not found") else complain (name ++ ": not found")
  else
    let reason := richReason s path fault
    report (path ++ ": " ++ reason)
    if s.topic ≠ "" ∧ reason = "Is a directory" then complain (path ++ ": cannot execute: " ++ reason)

def runProgram (e : Engine) (name : String) (args : List String) : Running Ending := do
  let s ← get
  let isThere (path : String) : Bool := match s.world.files.status s.cwd (.ofString path) with
    | .ok (_, .file _ _) => true
    | _ => false
  if !Program.isPath name ∧ (found? s name).isNone then
    match (paths s name).find? isThere with
    | some path => do
      complainOfProgram name path .accessDenied
      pure (.exited (if s.rich then 126 else 127))
    | none => do
      complainOfProgram name name .noEntry
      pure (.exited 127)
  else
    match ← e.launchFirst name args ((found? s name).getD name, .noEntry) (paths s name) with
    | .ok ending => pure ending
    | .error (path, fault) => do
      complainOfProgram name path fault
      pure (.exited (refusal fault))

end Engine

end SbtWorkspace.Simulation.Shell
