import SbtWorkspace.CommandLine.Arguments
import SbtWorkspace.CommandLine.Commands
import SbtWorkspace.FileSystem.Canonical

/-! The command line as a whole: options for all commands, then a command with its own. A usage error
ends it with exit code 2 before anything is changed. -/

namespace SbtWorkspace.CommandLine

def programVersion : String := "0.3.0"

def width : Nat := 1000

def helpOption : OptionSpec := { long := "--help", letter := some 'h' }

def globalOptions : List OptionSpec :=
  [{ long := "--version", letter := some 'V' }, { long := "--verbose", letter := some 'v' },
    { long := "--config", letter := some 'c', takesValue := true }, helpOption]

def jsonOption : OptionSpec := { long := "--json" }

def runOption : OptionSpec := { long := "--run", letter := some 'r' }

def forceOption : OptionSpec := { long := "--force", letter := some 'f' }

def usageError : Action α := throw (.exit 2)

/-- The arguments, where a usage error ends the command and a call for help is answered. -/
def readArguments (specs : List OptionSpec) (interspersed : Bool) (args : List String) :
    Action Parsed := do
  match Arguments.parse specs interspersed args with
  | none => usageError
  | some parsed => if parsed.has helpOption.long then throw (.exit 0) else pure parsed

/-- What stands at a path that is given as an argument. A path that leads nowhere is no failure, but
one with a null byte is. -/
def argumentStatus (path : String) : Action (Option (Location × Node)) := do
  let c ← Action.context
  match (← Action.files).status c.cwd (.ofString path) with
  | .ok found => pure (some found)
  | .error .nullByte => throw (.system ⟨.nullByte, path, none⟩)
  | .error _ => pure none

def argumentPath (path : String) : String := if path = "" then "." else path

/-- The configuration file that is given, which must not be a directory, and must be one that can be read. -/
def configArgument (path : Option String) : Action (Option Path) := do
  match path with
  | none => pure none
  | some path =>
    match ← argumentStatus (argumentPath path) with
    | some (_, .directory) | some (_, .sealed) => usageError
    | _ => pure (some (.parse (argumentPath path)))

/-- The workspace that is given, as the path from the root to it with its links followed. Something has
to stand there that is no regular file. -/
def workspaceArgument (rest : List String) : Action Path := do
  match rest with
  | _ :: _ :: _ => usageError
  | _ =>
    let given := argumentPath (rest.headD ".")
    if given.toList.contains '\x00' then throw (.system ⟨.nullByte, given, none⟩)
    let c ← Action.context
    let path := ((← Action.files).canonical c.cwd (.ofString given)).render
    match ← argumentStatus path with
    | some (_, .directory) | some (_, .device _) => pure (.parse path)
    | _ => usageError

def noArguments (parsed : Parsed) : Action Unit := if parsed.rest = [] then pure () else usageError

def runConfigCommand (setup : Setup) (args : List String) : Action Unit := do
  let parsed ← readArguments [helpOption] false args
  match parsed.rest with
  | "show" :: args =>
    let parsed ← readArguments [helpOption] true args
    noArguments parsed
    showConfig setup
  | "init" :: args =>
    let parsed ← readArguments [forceOption, helpOption] true args
    noArguments parsed
    initConfig setup (parsed.has forceOption.long)
  | args => do
    discard (readArguments [helpOption] false args)
    usageError

def commandNames : List String := ["info", "install", "bsp", "config"]

def runCommand (setup : Setup) (name : String) (args : List String) : Action Unit := do
  match name with
  | "info" =>
    let parsed ← readArguments [jsonOption, helpOption] true args
    info setup (← workspaceArgument parsed.rest) (parsed.has jsonOption.long)
  | "install" =>
    let parsed ← readArguments [runOption, jsonOption, helpOption] true args
    install setup (← workspaceArgument parsed.rest) (parsed.has runOption.long)
      (parsed.has jsonOption.long)
  | "bsp" =>
    let parsed ← readArguments [runOption, jsonOption, helpOption] true args
    bsp setup (← workspaceArgument parsed.rest) (parsed.has runOption.long)
      (parsed.has jsonOption.long)
  | "config" => runConfigCommand setup args
  | _ => usageError

/-- Runs an operation of which only reports of a level and above are kept. -/
def reportingFrom (least : Level) (x : Action α) : Action α := fun c m =>
  let (result, after) := x.run c { m with events := [] }
  let kept := after.events.filter fun e => least.rank ≤ e.level.rank
  (result, { after with events := m.events ++ kept })

/-- The arguments, where the options for all commands are read; the version is told at once. -/
def readGlobalArguments (args : List String) : Action (Parsed × Option Path) := do
  match Arguments.parse globalOptions false args with
  | none => usageError
  | some parsed =>
    match parsed.options.find? fun g => g.1 = "--version" || g.1 = helpOption.long with
    | some (name, _) =>
      if name = "--version" then printLine ("sbtctl version " ++ programVersion)
      throw (.exit 0)
    | none => pure (parsed, ← configArgument (parsed.value? "--config"))

/-- Runs the program with its arguments. Where no command has the name, the arguments from it on may be
options that stand after two dashes, and are read once more. -/
def main (args : List String) : Action Unit := do
  let (parsed, configPath) ← readGlobalArguments args
  match parsed.rest with
  | [] => usageError
  | name :: args =>
    if commandNames.contains name then
      reportingFrom (if parsed.has "--verbose" then .debug else .warning)
        (runCommand { width, configPath } name args)
    else
      discard (readGlobalArguments (name :: args))
      usageError

end SbtWorkspace.CommandLine
