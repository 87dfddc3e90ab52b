import SbtWorkspace.Action
import SbtWorkspace.FileSystem.Scratch
import SbtWorkspace.Toml.Document

/-! The configuration file. It is written to a scratch file that then takes its place, so that a reader
finds either the former content or the whole new one. -/

namespace SbtWorkspace.Config

/-- The settings in a TOML text whose values take no more than a number of levels. -/
def ofToml (levels : Nat) (text : List Char) : Except Failure Config :=
  match Toml.parse levels text with
  | .error .malformed => .error (.config .malformed)
  | .error (.tooManyDigits count) => .error (.tooManyDigits count)
  | .error .tooDeep => .error .tooDeep
  | .ok table =>
    match validate (table.map fun e => (e.1, Setting.ofToml e.2)) with
    | .ok config => .ok config
    | .error found => .error (.config (.invalid found))

def ofBytes (levels : Nat) (bytes : Bytes) : Except Failure Config :=
  match Utf8.decode bytes with
  | .ok text => ofToml levels text
  | .error e => .error (.notText e)

/-- The failure of an operation with a cause of its own for a refused call. -/
def blame (cause : SystemError → Error) : Failure → Failure
  | .system e => if e.fault = .nullByte then .system e else .config (cause e)
  | e => e

def pathOrDefault (path : Option Path) : Action Path := Action.known fun env => path.or env.configPath?

/-- The settings in a file, by default in the one of the user. -/
def load (path : Option Path) : Action Config := do
  let path ← pathOrDefault path
  if ← Action.pathExists path then
    let bytes ← tryCatch (Action.readFile path) fun e => throw (blame .unreadable e)
    Action.ofExcept id (ofBytes (← Action.context).host.levels bytes)
  else throw (.config (.notFound path))

/-- The settings in a file, or the default ones if there is no file. -/
def loadOrDefault (path : Option Path) : Action Config :=
  tryCatch (load path) fun
    | .config (.notFound _) => do
      Action.report .configDefaulted
      pure default
    | e => throw e

def scratchFile (directory : Path) : Action Path := do
  let c ← Action.context
  let directory := directory.absolute (.parse (Location.render c.cwd))
  let fs ← Action.files
  let taken := match fs.status c.cwd directory.route with
    | .ok (loc, _) => fs.names loc
    | .error _ => []
  match c.host.scratch.name? taken with
  | some name => pure (directory / name)
  | none => throw (.config .noScratchName)

def moveFile (source destination : Path) : Action Unit := do
  let c ← Action.context
  match (← Action.files).rename c.cwd source.route destination.route with
  | .ok fs => Action.setFiles fs
  | .error fault => throw (.system ⟨fault, source.render, some destination.render⟩)

/-- Writes the settings to a scratch file, which then takes the place of a path. -/
def writeThrough (config : Config) (scratch path : Path) : Action Unit := do
  Action.writeFile scratch (Utf8.encode config.serialize)
  moveFile scratch path

def clearScratch (scratch : Path) : Action Unit := do
  if ← Action.pathExists scratch then Action.unlink scratch

/-- Gives a scratch file up after a refused call, and ends with the failure in any case. -/
def giveUp (scratch : Path) (e : Failure) : Action Unit :=
  if e.isSystem then do
    clearScratch scratch
    throw (blame .notWritten e)
  else throw e

/-- Saves the settings in a file, by default in the one of the user; gives its path. -/
def save (config : Config) (path : Option Path) : Action Path := do
  let path ← pathOrDefault path
  tryCatch (Action.ensurePath path.parent) fun e => throw (blame (.noDirectory path.parent) e)
  let scratch ← scratchFile path.parent
  tryCatch (Action.change (·.create · scratch.route (.file [] false)) scratch.render)
    fun e => throw (blame .notWritten e)
  tryCatch (writeThrough config scratch path) (giveUp scratch)
  pure path

end SbtWorkspace.Config
