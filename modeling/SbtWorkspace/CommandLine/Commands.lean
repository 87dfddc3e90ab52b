import SbtWorkspace.CommandLine.Console
import SbtWorkspace.Config.Store
import SbtWorkspace.Invocation.Tool
import SbtWorkspace.Program
import SbtWorkspace.Text.Json
import SbtWorkspace.Text.ShellWord

/-! The commands. A failure that the user can mend is printed and ends the command with exit code 1. -/

namespace SbtWorkspace.CommandLine

/-- What all commands take: the width of the terminal, and the configuration file. -/
structure Setup where
  width : Nat
  configPath : Option Path

def isConfigFailure : Failure → Bool
  | .config _ => true
  | _ => false

/-- Runs an operation; failures of the given kind are printed as errors and end the command. -/
def reporting (setup : Setup) (kind : Failure → Bool) (before : String) (x : Action α) : Action α :=
  tryCatch x fun e => do
    if kind e then
      printFailure setup.width (Text.ofString before ++ e.message)
      throw (.exit 1)
    else throw e

def loadConfig (setup : Setup) : Action Config :=
  reporting setup isConfigFailure "" (Config.loadOrDefault setup.configPath)

def loadTool (setup : Setup) (workspace : Path) : Action Tool := do
  let config ← loadConfig setup
  reporting setup Failure.isSystem "" (Tool.ofWorkspace workspace config)

/-- Prints a command line, for a shell or as a JSON array. -/
def emit (args : List String) (asJson : Bool) : Action Unit :=
  printLine (if asJson then Json.renderArray args else ShellWord.join args)

def jarArgument (args : List String) : Action (Option String) :=
  match args.dropWhile (· ≠ "-jar") with
  | [] => pure none
  | [_] => throw .missingArgument
  | _ :: jar :: _ => pure (some jar)

/-- Prints what is missing, and ends the command. -/
def refuse (setup : Setup) (message : String) : Action Unit := do
  printFailure setup.width (Text.ofString message)
  throw (.exit 1)

def checkProgram (setup : Setup) (program : String) : Action Unit := do
  let c ← Action.context
  if Program.commandExists (← Action.files) c.cwd c.env program then pure ()
  else refuse setup ("Command not found: " ++ program)

def checkJar (setup : Setup) (args : List String) : Action Unit := do
  match ← jarArgument args with
  | none => pure ()
  | some text => do
    let jar := Path.parse text
    if ← Action.isFile jar then pure ()
    else refuse setup ("sbt launcher not found: " ++ jar.render)

/-- Looks for what a command line names: first its program, then its jar. -/
def checkInvocation (setup : Setup) (args : List String) : Action Unit :=
  match args with
  | [] => throw .missingArgument
  | program :: _ => do
    checkProgram setup program
    checkJar setup args

/-- Runs a command line in a workspace, if what it names is there, and ends with its exit code. -/
def launch (setup : Setup) (args : List String) (workspace : Path) : Action Unit := do
  checkInvocation setup args
  throw (.exit (← Program.run args (some workspace.render) []))

/-- What is known about a workspace. -/
structure Report where
  workspace : Path
  tool : Tool
  supportsBsp : Bool

namespace Report

/-- The report as JSON. -/
def toJson (r : Report) : String :=
  Json.renderObject
    [("workspace", .string (Text.ofString r.workspace.render)),
      ("workspace_version", match r.tool.pinned with
        | some version => .string version
        | none => .null),
      ("effective_version", .string r.tool.version),
      ("minimum_version", .string (Text.ofString Tool.minimumVersion)),
      ("minimum_version_supported", .boolean r.tool.isSupported),
      ("supports_bsp", .boolean r.supportsBsp)]

def rows (r : Report) : List (String × Text) :=
  [("Workspace", Text.ofString r.workspace.render),
    ("Pinned version", (r.tool.pinned.filter (· ≠ [])).getD (Text.ofString "-")),
    ("Effective version", r.tool.version),
    ("BSP", Text.ofString (if r.supportsBsp then "[success]supported[/]" else "[muted]no[/]"))]

end Report

/-- Reports on a workspace, and installs the BSP bridge in it if it can serve BSP. -/
def info (setup : Setup) (workspace : Path) (asJson : Bool) : Action Unit := do
  let tool ← loadTool setup workspace
  let supportsBsp ← reporting setup Failure.isSystem "" (Tool.supportsBsp workspace)
  let report : Report := { workspace, tool, supportsBsp }
  if asJson then printLine report.toJson
  else
    printTable setup.width "sbt Workspace" report.rows
    if !tool.isSupported then
      printWarning setup.width
        (Text.ofString "sbt " ++ tool.version ++ Text.ofString (" is older than " ++
          Tool.minimumVersion ++ "; build import is not supported."))

/-- Prepares a workspace and prints the command line that exports its build, or runs it. -/
def install (setup : Setup) (workspace : Path) (runs asJson : Bool) : Action Unit := do
  let tool ← loadTool setup workspace
  let args ← reporting setup Failure.isSystem "Failed to prepare workspace: "
    (tool.exportPrepared workspace)
  if runs then launch setup args workspace
  emit args asJson

/-- Prints the command line that describes the BSP server of a workspace, or runs it. -/
def bsp (setup : Setup) (workspace : Path) (runs asJson : Bool) : Action Unit := do
  let tool ← loadTool setup workspace
  let args ← tool.serverCommand workspace
  if runs then launch setup args workspace
  emit args asJson

def settingText : Toml.Scalar → Text
  | .string s => Text.ofString s
  | .boolean true => Text.ofString "True"
  | .boolean false => Text.ofString "False"

def showConfig (setup : Setup) : Action Unit := do
  let config ← loadConfig setup
  let launcher ← Action.known config.launcherIn?
  printTable setup.width "sbtctl Configuration"
    (config.entries.map (fun e => (e.1, settingText e.2)) ++
      [("launcher (effective)", Text.ofString launcher.render)])

/-- Writes a configuration file with the default settings, over an existing one only if forced. -/
def initConfig (setup : Setup) (force : Bool) : Action Unit := do
  let path ← Config.pathOrDefault setup.configPath
  if (← Action.pathExists path) && !force then
    printInfo setup.width
      ("Config already exists: " ++ path.render ++ " (use --force to overwrite)")
  else
    let saved ← reporting setup isConfigFailure "" (Config.default.save (some path))
    printSuccess setup.width ("Config written to " ++ saved.render)

end SbtWorkspace.CommandLine
