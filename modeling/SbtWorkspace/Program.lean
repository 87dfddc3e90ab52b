import SbtWorkspace.Action

/-! Programs. A name with a slash is a path of its own; any other is looked for in the directories of the search
path, where an empty entry is the working directory. What a call cannot take is refused before a program is looked
for, and the directory of the program is entered first. The run itself is the host's, and what is said of
operations here holds whatever programs do. -/

namespace SbtWorkspace.Program

def inDirectory (directory name : String) : String :=
  if directory = "" then name
  else if directory.toList.getLast? = some '/' then directory ++ name
  else directory ++ "/" ++ name

/-- The directories between the colons of a search path. -/
def directories (searchPath : String) : List String :=
  (List.splitOn ':' searchPath.toList).map String.ofList

/-- Whether a name is a path of its own. -/
def isPath (name : String) : Bool := name.toList.contains '/'

def standardPath : String := "/bin:/usr/bin"

def isRunnable (fs : FileSystem) (cwd : Location) (path : String) : Bool :=
  match fs.status cwd (.ofString path) with
  | .ok (_, .file _ executable) => executable
  | _ => false

/-- Whether a command can be found. An empty search path finds nothing. -/
def commandExists (fs : FileSystem) (cwd : Location) (env : Environment) (name : String) : Bool :=
  if isPath name then isRunnable fs cwd name
  else
    let searchPath := (env.get? "PATH").getD standardPath
    searchPath ≠ "" && (directories searchPath).any fun d => isRunnable fs cwd (inDirectory d name)

/-- The directory that a program is run in. -/
def enter (directory : Option String) : Action Location := do
  let c ← Action.context
  match directory with
  | none => pure c.cwd
  | some path =>
    match (← Action.files).status c.cwd (.ofString path) with
    | .ok (loc, .directory) => pure loc
    | .ok _ => throw (.system ⟨.notDirectory, path, none⟩)
    | .error fault => throw (.system ⟨fault, path, none⟩)

/-- Runs a command in a directory, with variables added to the environment; gives its exit code, or
the negative number of the signal that killed it. -/
def run (args : List String) (directory : Option String) (added : List (String × String)) :
    Action Int := do
  match args with
  | [] => throw .missingArgument
  | name :: _ => do
    let c ← Action.context
    let env := added.foldl (fun env v => env.set v.1 v.2) c.env
    if env.bindings.any fun v => v.1.toList.contains '=' then throw .variableName
    let texts := args ++ directory.toList ++ added.flatMap fun v => [v.1, v.2]
    if texts.any fun s => s.toList.contains '\x00' then throw (.system ⟨.nullByte, name, none⟩)
    let cwd ← enter directory
    match c.host.execute (← Action.files) cwd env args with
    | .ok (fs, code) => do
      Action.setFiles fs
      pure code
    | .error fault => throw (.system ⟨fault, name, none⟩)

end SbtWorkspace.Program
