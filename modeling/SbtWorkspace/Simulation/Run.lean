import SbtWorkspace.Action
import SbtWorkspace.Simulation.Launch
import SbtWorkspace.Simulation.Shell.Evaluation
import SbtWorkspace.Simulation.Utility.Run

/-! A host whose programs are simulated. A file that may be run is one of the programs that come with the
machine, or a script that names its interpreter. It is one value of what the operations take as given
(`Host.execute`): it serves to run them where there is no machine, and nothing that is proved of them rests on
it. -/

namespace SbtWorkspace.Simulation

def shells : List String := ["sh", "dash", "bash"]

/-- The programs that come with a machine, the shells apart, that are not modelled but for their status. -/
def others : List String :=
  ["tar", "gzip", "gunzip", "zcat", "hostname", "df", "du", "mount", "ps", "su", "login", "more", "perl", "fmt", "shuf",
    "logname", "mkfifo", "nproc", "pathchk", "pr", "ptx", "shred", "stty", "tsort", "users", "who", "getconf",
    "getent", "iconv", "ldd", "locale", "clear", "tput", "tset", "reset", "numfmt", "csplit", "b2sum", "hostid",
    "pinky", "chroot", "chcon", "runcon", "basenc", "dircolors", "gpgv", "savelog", "tempfile", "run-parts", "mountpoint"]

def systemPrograms : List String :=
  shells ++ ["env", "timeout"] ++ wrappers.map (·.1) ++
    (Utility.running (fun _ w _ => .ok (w, .exited 0)) fun _ w _ => (w, [])).map (·.1) ++
    Utility.alone.map (·.1) ++ others

def devices : List (String × Device) :=
  [("null", .null), ("zero", .zero), ("stdin", .standard 0), ("stdout", .standard 1),
    ("stderr", .standard 2)]

/-- The file system of a machine: its programs, its devices, and an empty directory for temporary files. -/
def freshFiles : FileSystem :=
  let base := [("usr", []), ("bin", ["usr"]), ("bin", []), ("tmp", []), ("dev", [])].foldl
    (fun (fs : FileSystem) (d : String × Location) => fs.place d.2 d.1 .directory) FileSystem.empty
  let withDevices := devices.foldl (fun fs d => fs.place ["dev"] d.1 (.device d.2)) base
  systemPrograms.foldl
    (fun fs name => (fs.place ["bin"] name (.file [] true)).place ["bin", "usr"] name (.file [] true))
    withDevices

def systemProgram? : Location → Option String
  | [name, "bin"] | [name, "bin", "usr"] => if systemPrograms.contains name then some name else none
  | _ => none

/-- What a shell is told to run: its script and its state before it, or nothing, with what is told of it and a
status. -/
inductive ShellTask where
  | script (s : Shell) (text : List Char)
  | nothing (told : String) (code : Nat)

def richUsage : String :=
  let long := ["debug", "debugger", "dump-po-strings", "dump-strings", "help", "init-file", "login", "noediting",
    "noprofile", "norc", "posix", "pretty-print", "rcfile", "restricted", "verbose", "version"]
  "Usage:\tbash [GNU long option] [option] ...\n\tbash [GNU long option] [option] script-file ...\n" ++
    "GNU long options:\n" ++
    String.join (long.map fun n => "\t--" ++ n ++ "\n") ++
    "Shell options:\n\t-ilrsD or -c command or -O shopt_option\t\t(invocation only)\n" ++
    "\t-abefhkmnptuvxBCEHPT or -o option"

/-- The arguments of a rich shell without those that have no effect on a script, and the options that they name. -/
def withoutLong : List String → List String
  | "--norc" :: rest | "--noprofile" :: rest | "--posix" :: rest | "--login" :: rest | "--noediting" :: rest =>
    withoutLong rest
  | "--rcfile" :: _ :: rest | "--init-file" :: _ :: rest => withoutLong rest
  | "--verbose" :: rest => "-v" :: withoutLong rest
  | args => args

/-- The habits that a rich shell is given by arguments, and the arguments after them. -/
def givenHabits : List String → (Shell → Shell) × List String
  | "-O" :: name :: rest => let (change, rest) := givenHabits rest; (change ∘ Shell.switchNamed true name, rest)
  | "+O" :: name :: rest => let (change, rest) := givenHabits rest; (change ∘ Shell.switchNamed false name, rest)
  | args => (id, args)

def shellTask (c : Call) (w : World) (rich : Bool) (args : List String) : ShellTask :=
  let name := c.name
  let args := if rich then withoutLong args else args
  let refused (code : Nat) (plain richText : String) : ShellTask :=
    .nothing (name ++ (if rich then ": " ++ richText else ": 0: " ++ plain) ++ "\n") code
  if rich ∧ (args.head? = some "--version" ∨ args.head? = some "--help") then .nothing "" 0
  else
    let (habit, args) := if rich then givenHabits args else (id, args)
    let letters := Shell.optionLetters rich ++ (if rich then "cilrsD" else "cils").toList
    match Shell.switches rich letters args with
    | .error (.letter letter) =>
      let option := if letter = '-' then args.headD "" else String.ofList ['-', letter]
      refused Shell.misuse ("Illegal option " ++ option) (option ++ ": invalid option\n" ++ richUsage)
    | .error (.name text) =>
      refused Shell.misuse ("Illegal option -o " ++ text)
        ("line 0: " ++ name ++ ": " ++ text ++ ": invalid option name")
    | .ok (change, operands) =>
      let isString := (change (Shell.start rich false c w name [])).options.contains 'c'
      let s := change (habit (Shell.start rich isString c w name []))
      let ofBytes (bytes : Bytes) : List Char := match Utf8.decode bytes with
        | .ok cs => cs
        | .error _ => bytes.map fun b => Char.ofNat b.toNat
      let begun (s : Shell) : Shell :=
        let dropped := if rich then ['l', 'r', 'D'] else ['c', 'l']
        { s with
          options := s.options.filter fun o => !dropped.contains o
          named := s.named ++ if rich then Shell.standing else [] }
      let s := if rich then { s with options := s.options ++ ['h', 'B'] } else s
      let s := begun s
      let ofInput (s : Shell) : ShellTask := .script { s with world := { w with input := [] } } (ofBytes w.input)
      match operands.getD [] with
      | text :: rest =>
        if isString then
          .script { s with name := rest.headD name, parameters := rest.tail } text.toList
        else if s.options.contains 's' then ofInput { s with parameters := text :: rest }
        else
          let paths := if rich ∧ !Program.isPath text then text :: Shell.Engine.paths s text else [text]
          let s := { s with name := text, parameters := rest }
          match paths.findSome? fun path => (w.readFile c path).toOption with
          | some (_, bytes) => .script s (ofBytes bytes)
          | none =>
            match w.files.status c.cwd (.ofString text) with
            | .ok _ =>
              if rich then .nothing (text ++ ": " ++ text ++ ": Is a directory\n") 126 else .script s []
            | .error fault =>
              let code := if !rich then Shell.misuse else if fault = .noEntry then 127 else 126
              refused code ("cannot open " ++ text ++ ": No such file") (text ++ ": " ++ fault.wording)
      | [] =>
        if isString then refused Shell.misuse "-c requires an argument" "-c: option requires an argument"
        else ofInput s

def runShell (launcher : Launcher) (c : Call) (w : World) (name : String) (args : List String) :
    World × Ending :=
  match shellTask c w (name = "bash") args with
  | .script s text => Shell.runScript launcher s text
  | .nothing told code => (w.emit (Utf8.encode told) ((c.sink? 2).getD .lost), .exited code)

/-- What a shell writes that runs a script. -/
def capture (launcher : Launcher) (c : Call) (w : World) (script : List Char) : World × Bytes :=
  let (w, sink) := w.openPipe
  let sinks := (1, sink) :: c.sinks.filter fun s => s.1 ≠ 1
  (runShell launcher { c with name := "sh", sinks } w "sh" ["-c", Octets.toString script]).1.closePipe

def runSystemProgram (launcher : Launcher) (c : Call) (w : World) (name : String) (args : List String) :
    World × Ending :=
  let launch := launching launcher
  if shells.contains name then runShell launcher c w name args
  else
    match name, wrappers.find? fun p => p.1 = name with
    | "env", _ => runEnv launch c w args
    | "timeout", _ => runTimeout launch c w args
    | _, some (_, wrapper) => wrapper.run launch c w args
    | _, none =>
      match (Utility.running launch (capture launcher) ++ Utility.alone).find? fun u => u.1 = name with
      | some (_, utility) => ending c (utility c w args)
      | none => (w, .exited 0)

/-- The interpreter that the first line of a script names, and the argument for it. -/
def interpreter? (bytes : Bytes) : Option (List String) :=
  match bytes with
  | 0x23 :: 0x21 :: rest =>
    let line := (rest.takeWhile (· ≠ 0x0a)).map fun b => Char.ofNat b.toNat
    let isGap (c : Char) : Bool := c = ' ' || c = '\t'
    let line := trimWhile isGap line
    let path := line.takeWhile (!isGap ·)
    let argument := (line.drop path.length).dropWhile isGap
    some (String.ofList path :: if argument = [] then [] else [String.ofList argument])
  | _ => none

def maxInterpreters : Nat := 5

/-- Runs the program at a path with the arguments after its name, where interpreters may be scripts as
deep as the fuel says. -/
def interpret (system : Call → World → String → List String → World × Ending) (c : Call) (w : World) :
    (depth : Nat) → String → List String → Except Fault (World × Ending)
  | 0, _, _ => .error .linkLoop
  | depth + 1, path, args =>
    match w.files.status c.cwd (.ofString path) with
    | .error fault => .error fault
    | .ok (loc, .file bytes true) =>
      match systemProgram? loc with
      | some name => .ok (system c w name args)
      | none =>
        match interpreter? bytes with
        | some (interpreter :: arguments) =>
          interpret system { c with name := interpreter } w depth interpreter (arguments ++ path :: args)
        | _ => .error .execFormat
    | .ok _ => .error .accessDenied

def maxProcesses : Nat := 100

/-- Runs the program at a path, which may run programs as deep as the fuel says. -/
def launcher : (processes : Nat) → Launcher
  | 0 => fun _ _ _ _ => .error .busy
  | processes + 1 => fun c w path args =>
    interpret (runSystemProgram (launcher processes)) c w maxInterpreters path args

/-- The number that the end of a program is reported as. -/
def Ending.code : Ending → Int
  | exited code => code
  | killed signal => -signal

/-- Runs a command line: the first program of its name on the search path. -/
def execute (fs : FileSystem) (cwd : Location) (env : Environment) (args : List String) :
    Except Fault (FileSystem × Int) :=
  match args with
  | [] => .error .noEntry
  | name :: rest =>
    let call : Call := { name, cwd, env, sinks := allLost }
    (search (launcher maxProcesses) call { files := fs } rest none (candidates env name)).map fun (w, ending) =>
      (w.files, ending.code)

/-- A host with the programs of the machine, whose output is kept as text. -/
def host : Host where
  execute
  scratch := .first
  levels := 985
  encodes := false

end SbtWorkspace.Simulation
