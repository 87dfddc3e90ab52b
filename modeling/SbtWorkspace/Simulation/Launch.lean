import SbtWorkspace.Program
import SbtWorkspace.Simulation.World
import SbtWorkspace.Simulation.Script.Token
import SbtWorkspace.Simulation.Shell.Declaration
import SbtWorkspace.Simulation.Shell.Signal
import SbtWorkspace.Simulation.Utility.Clock

/-! Looking for programs by their names, and the programs that run a command under other conditions: with other
variables, for a time, or with what has no effect here. -/

namespace SbtWorkspace.Simulation

open Utility (refused misused named)

def candidates (env : Environment) (name : String) : List String :=
  if Program.isPath name then [name]
  else (Program.directories ((env.get? "PATH").getD Program.standardPath)).map (Program.inDirectory · name)

/-- Runs a program by its name: the first one that is found on the search path. -/
def search (launcher : Launcher) (c : Call) (w : World) (args : List String) (fault : Option Fault) :
    List String → Except Fault (World × Ending)
  | [] => .error (fault.getD .noEntry)
  | path :: rest =>
    match launcher c w path args with
    | .ok result => .ok result
    | .error .noEntry => search launcher c w args fault rest
    | .error .notDirectory =>
      search launcher c w args (if rest = [] then fault.or (some .notDirectory) else fault) rest
    | .error other => search launcher c w args (fault.or (some other)) rest

/-- Runs a program by its name. A file that names no interpreter is a script. -/
def launching (launcher : Launcher) : Launching := fun c w words =>
  let orScript : Launcher := fun c w path args =>
    match launcher c w path args with
    | .error .execFormat => launcher { c with name := "/bin/sh" } w "/bin/sh" (path :: args)
    | result => result
  match words with
  | [] => .error .noEntry
  | name :: args => search orScript { c with name } w args none (candidates c.env name)

/-- The world after a program, and how the program ends. -/
def ending (c : Call) (o : Utility.Outcome) : World × Ending := (o.written c, .exited o.status)

/-- Runs a command in the place of a program, which complains of one that cannot be run. -/
def inPlace (launch : Launching) (c inner : Call) (w : World) (reason : String → Fault → String) (words : List String) :
    World × Ending :=
  match launch inner w words with
  | .ok result => result
  | .error fault =>
    ending c (refused c w (if fault = .noEntry then 127 else 126) (reason (words.headD "") fault))

/-- What is told of a command that is not found, after its name. -/
def unfound (name : String) (fault : Fault) : String := named name ++ ": " ++ fault.wording

def unrun (name : String) (fault : Fault) : String := "failed to run command " ++ unfound name fault

/-- The words of a text that are separated by blanks. Quotes keep words together. -/
def splitWords (text : String) : List String :=
  (Script.tokens false text.toList).filterMap fun
    | .word w => some (String.ofList (w.flatMap fun
      | .literal cs _ => cs
      | _ => []))
    | _ => none

/-- What the arguments of `env` make of a call: its environment and its directory, whether the list of variables has
zeros for ends, and the command. -/
structure EnvTask where
  call : Call
  hasZeros : Bool := false
  isMoved : Bool := false
  words : List String := []

/-- Why `env` cannot use its arguments: what it tells, and whether that is a mistake of the arguments as such. -/
structure EnvFault where
  text : String
  isMisuse : Bool

def EnvTask.settings (t : EnvTask) : List String → EnvTask
  | [] => t
  | arg :: rest =>
    match Shell.splitAssignment arg with
    | (name, some value) =>
      { t with call := { t.call with env := t.call.env.set name value } }.settings rest
    | (_, none) => { t with words := arg :: rest }

/-- Reads the arguments of `env`. -/
def EnvTask.read (w : World) : (fuel : Nat) → EnvTask → List String → Except EnvFault EnvTask
  | 0, t, _ => .ok t
  | _, t, [] => .ok t
  | fuel + 1, t, arg :: rest =>
    let cleared : EnvTask := { t with call := { t.call with env := { t.call.env with bindings := [] } } }
    let unset (name : String) (rest : List String) : Except EnvFault EnvTask :=
      if name = "" ∨ name.toList.contains '=' then .error ⟨"cannot unset " ++ named name ++ ": Invalid argument", false⟩
      else EnvTask.read w fuel { t with call := { t.call with env := t.call.env.erase name } } rest
    let entered (path : String) (rest : List String) : Except EnvFault EnvTask :=
      let refusal (fault : Fault) : EnvFault :=
        ⟨"cannot change directory to " ++ named path ++ ": " ++ fault.wording, false⟩
      match w.files.status t.call.cwd (.ofString path) with
      | .ok (cwd, .directory) => EnvTask.read w fuel { t with call := { t.call with cwd }, isMoved := true } rest
      | .ok _ => .error (refusal .notDirectory)
      | .error fault => .error (refusal fault)
    let split (text : String) (rest : List String) : Except EnvFault EnvTask :=
      EnvTask.read w fuel t (splitWords text ++ rest)
    let valueOf (name : String) : Option String :=
      if (name ++ "=").toList.isPrefixOf arg.toList then
        some (String.ofList (arg.toList.drop (name.length + 1))) else none
    if arg = "--" then .ok (t.settings rest)
    else if arg = "-" ∨ arg = "--ignore-environment" then EnvTask.read w fuel cleared rest
    else if arg = "--null" then EnvTask.read w fuel { t with hasZeros := true } rest
    else if arg = "--debug" then EnvTask.read w fuel t rest
    else if let some name := valueOf "--unset" then unset name rest
    else if let some path := valueOf "--chdir" then entered path rest
    else if let some text := valueOf "--split-string" then split text rest
    else
      match arg.toList with
      | '-' :: '-' :: _ => .error ⟨"unrecognized option '" ++ arg ++ "'", true⟩
      | '-' :: 'i' :: more =>
        EnvTask.read w fuel cleared (if more = [] then rest else String.ofList ('-' :: more) :: rest)
      | '-' :: '0' :: more =>
        EnvTask.read w fuel { t with hasZeros := true }
          (if more = [] then rest else String.ofList ('-' :: more) :: rest)
      | '-' :: 'v' :: more =>
        EnvTask.read w fuel t (if more = [] then rest else String.ofList ('-' :: more) :: rest)
      | '-' :: c :: more =>
        let (value, rest) := if more = [] then (rest.head?, rest.tail) else (some (String.ofList more), rest)
        match c, value with
        | 'u', some name => unset name rest
        | 'C', some path => entered path rest
        | 'S', some text => split text rest
        | c, _ =>
          if ['u', 'C', 'S'].contains c then .error ⟨(OptionFault.missingValue c).message, true⟩
          else .error ⟨(OptionFault.unknownLetter c).message, true⟩
      | _ => .ok (t.settings (arg :: rest))

/-- Runs `env`: a command with other variables, or a list of them. -/
def runEnv (launch : Launching) (c : Call) (w : World) (args : List String) : World × Ending :=
  if args = ["--help"] ∨ args = ["--version"] then (w, .exited 0)
  else
    match EnvTask.read w (2 * args.length + 100) { call := c } args with
    | .error fault => ending c (if fault.isMisuse then misused c w 125 fault.text else refused c w 125 fault.text)
    | .ok t =>
      if t.words = [] then
        if t.isMoved then ending c (misused c w 125 "must specify command with --chdir (-C)")
        else
          let mark := if t.hasZeros then "\x00" else "\n"
          let lines := t.call.env.bindings.flatMap fun v => Utf8.encode (v.1 ++ "=" ++ v.2 ++ mark)
          (w.emit lines ((c.sink? 1).getD .lost), .exited 0)
      else if t.hasZeros then ending c (misused c w 125 "cannot specify --null (-0) with command")
      else
        let hint (name : String) : String :=
          if name.toList.any Char.isWhitespace then
            "\n" ++ c.name ++ ": use -[v]S to pass options in shebang lines"
          else ""
        inPlace launch c t.call w (fun name fault => unfound name fault ++ hint name) t.words

def runTimeout (launch : Launching) (c : Call) (w : World) (args : List String) : World × Ending :=
  let options : Options :=
    { letters := "v", valued := "ks", isFirst := true
      long := [("signal", 's'), ("kill-after", 'k'), ("preserve-status", 'p'), ("foreground", 'f'), ("verbose", 'v')] }
  let misuse (text : String) : World × Ending := ending c (misused c w 125 text)
  if args = ["--help"] ∨ args = ["--version"] then (w, .exited 0)
  else
    match options.read args with
    | .error fault => misuse fault.message
    | .ok a =>
      let signal := (a.value? 's').map fun s => (s, Signal.ofWord? s)
      let interval (text : String) : Except String Nat := match Utility.duration? text with
        | some time => .ok time
        | none => .error ("invalid time interval " ++ named text)
      let after : Except String (Option Nat) := match a.value? 'k' with
        | some text => (interval text).map some
        | none => .ok none
      match signal, after, a.operands with
      | some (name, none), _, _ => misuse (named name ++ ": invalid signal")
      | _, .error reason, _ => misuse reason
      | _, _, [] | _, _, [_] =>
        ending c { world := w, status := 125
                   complaints := [{ text := "Try '" ++ c.name ++ " --help' for more information.\n" }] }
      | signal, _, duration :: command =>
        match interval duration with
        | .error reason => misuse reason
        | .ok time =>
          let own := if time = 0 then none else some (w.time + time)
          let limit := match w.limit, own with
            | some a, some b => some (min a b)
            | a, b => a.or b
          let (after, ended) := inPlace launch c c { w with limit } unrun command
          let isLate := own.any (· ≤ after.time)
          let (name, signal, _) := (signal.bind (·.2)).getD ("TERM", 15, true)
          let status := if isLate then (if signal = 9 then 137 else if a.has 'p' then 128 + signal else 124)
            else ended.status
          let after := if isLate ∧ a.has 'v' then
              Utility.Call.complain c after ("sending signal " ++ name ++ " to command " ++ named (command.headD ""))
            else after
          ({ after with limit := w.limit }, .exited status)

/-- A program that runs a command which is not kept from anything here: its options, the status for arguments that it
cannot use, what it tells of a missing command and of one that it cannot run, and what it writes without arguments. -/
structure Wrapper where
  options : Options
  misuse : Nat := 125
  missing : String := "missing operand"
  reason : String → Fault → String := unrun
  alone : Option String := none
  /-- Why options cannot be used, and whether that is a mistake of the arguments as such. -/
  fault? : Arguments → Option EnvFault := fun _ => none

/-- Runs a command that is not kept from anything here. -/
def Wrapper.run (p : Wrapper) (launch : Launching) (c : Call) (w : World) (args : List String) : World × Ending :=
  let misuse (text : String) : World × Ending := ending c (misused c w p.misuse text)
  if args = ["--help"] ∨ args = ["--version"] then (w, .exited 0)
  else
    match p.options.read args with
    | .error fault => misuse fault.message
    | .ok a =>
      match p.fault? a, a.operands, p.alone with
      | some fault, _, _ => if fault.isMisuse then misuse fault.text else ending c (refused c w p.misuse fault.text)
      | none, [], some text =>
        if a.options ≠ [] then misuse p.missing else (w.emit (Utf8.encode text) ((c.sink? 1).getD .lost), .exited 0)
      | none, [], none => misuse p.missing
      | none, words, _ => inPlace launch c c w p.reason words

/-- The programs that run a command which is not kept from anything here. -/
def wrappers : List (String × Wrapper) :=
  [("nohup", { options := { letters := "", isFirst := true } }),
    ("nice",
      { options :=
          { letters := "", valued := "n", isFirst := true, digits := some 'n', long := [("adjustment", 'n')] }
        missing := "a command must be given with an adjustment", reason := unfound, alone := some "0\n"
        fault? := fun a => match a.value? 'n' with
          | some text =>
            let digits := if ['-', '+'].contains (text.toList.headD ' ') then text.toList.tail else text.toList
            if (Utility.natural? digits).isSome then none else some ⟨"invalid adjustment " ++ named text, false⟩
          | none => none }),
    ("stdbuf",
      { options :=
          { letters := "", valued := "eio", isFirst := true
            long := [("input", 'i'), ("output", 'o'), ("error", 'e')] }
        fault? := fun a =>
          match a.options.find? fun o => o.2 ≠ "L" && (Utility.size? o.2).isNone with
          | some o => some ⟨"invalid mode " ++ named o.2, false⟩
          | none =>
            if a.options = [] ∧ a.operands ≠ [] then some ⟨"you must specify a buffering mode option", true⟩
            else none }),
    ("setsid",
      { options := { letters := "cfw", isFirst := true, long := [("ctty", 'c'), ("fork", 'f'), ("wait", 'w')] }
        misuse := 1, missing := "no command specified"
        reason := fun name fault => "failed to execute " ++ name ++ ": " ++ fault.wording })]

end SbtWorkspace.Simulation
