import SbtWorkspace.Environment
import SbtWorkspace.FileSystem.Calls

/-! What a running program shares with others: the files, the rest of its input, and what was written to
the pipes that are open. Output that goes nowhere is lost. Main statement: what is written to a pipe is
added to what was written to it before, and nothing else changes (`emit_pipe`). -/

namespace SbtWorkspace.Simulation

inductive Ending where
  | exited (code : Nat)
  | killed (signal : Nat)
  deriving DecidableEq, Repr

/-- The status by which a shell knows how a program ended. -/
def Ending.status : Ending → Nat
  | exited code => code
  | killed signal => 128 + signal

/-- Where output goes. Pipes are numbered from the outermost one. -/
inductive Sink where
  | lost
  | file (loc : Location)
  | pipe (number : Nat)
  deriving DecidableEq, Repr

inductive Origin where
  | stream
  | file
  | directory
  deriving DecidableEq, Repr

/-- What running programs share. Time is counted in thousandths of a second. -/
structure World where
  files : FileSystem
  input : Bytes := []
  origin : Origin := .stream
  pipes : List Bytes := []
  time : Nat := 0
  /-- The permissions that are not the usual ones. -/
  modes : List (Location × Nat) := []
  /-- When files were changed, in billionths of a second, where it is not now. -/
  stamps : List (Location × Int) := []
  /-- When the programs that run are killed that still run then. -/
  limit : Option Nat := none

/-- What a program is given: the name that it is run by, the directory it starts in, its environment, and where the
output that it writes to its descriptors goes. -/
structure Call where
  name : String := ""
  cwd : Location
  env : Environment
  sinks : List (Nat × Sink)

/-- Where the output that is written to a descriptor goes, unless it is closed. -/
def Call.sink? (c : Call) (descriptor : Nat) : Option Sink :=
  (c.sinks.find? fun s => s.1 = descriptor).map (·.2)

def allLost : List (Nat × Sink) := [(1, .lost), (2, .lost)]

/-- Runs the program at a path with the arguments after its name, unless the system refuses it. -/
abbrev Launcher := Call → World → (path : String) → List String → Except Fault (World × Ending)

/-- Runs a program by its name with its arguments, unless the system refuses it. -/
abbrev Launching := Call → World → List String → Except Fault (World × Ending)

namespace World

/-- Adds output to a sink. -/
def emit (w : World) (bytes : Bytes) : Sink → World
  | .lost => w
  | .pipe number => { w with pipes := w.pipes.modify number (· ++ bytes) }
  | .file [] => w
  | .file (name :: parent) =>
    match w.files.lookup (name :: parent) with
    | some (.file old executable) =>
      { w with files := w.files.place parent name (.file (old ++ bytes) executable) }
    | _ => w

theorem emit_pipe (w : World) (bytes : Bytes) (number : Nat) :
    w.emit bytes (.pipe number) = { w with pipes := w.pipes.modify number (· ++ bytes) } := rfl

/-- Opens a file for output and makes it if it is missing; `empties` says that its content goes. -/
def openFile (w : World) (c : Call) (path : String) (empties : Bool) : Except Fault (World × Sink) :=
  let route := Route.ofString path
  let written : Except Fault FileSystem :=
    match w.files.status c.cwd route with
    | .ok (_, .file _ _) => if empties then w.files.write c.cwd route [] else .ok w.files
    | _ => w.files.write c.cwd route []
  match written with
  | .ok files =>
    match files.status c.cwd route with
    | .ok (_, .device (.standard descriptor)) =>
      match c.sink? descriptor with
      | some sink => .ok (w, sink)
      | none => .error .noEntry
    | .ok (_, .device _) => .ok (w, .lost)
    | .ok (loc, _) => .ok ({ w with files }, .file loc)
    | .error fault => .error fault
  | .error fault => .error fault

def readInput (w : World) : Except Fault (World × Bytes) :=
  if w.origin = .directory then .error .isDirectory else .ok ({ w with input := [] }, w.input)

def readFile (w : World) (c : Call) (path : String) : Except Fault (World × Bytes) :=
  match w.files.status c.cwd (.ofString path) with
  | .ok (_, .file bytes _) => .ok (w, bytes)
  | .ok (_, .device (.standard 0)) => w.readInput
  | .ok (_, .device kind) => .ok (w, kind.bytes)
  | .ok _ => .error .isDirectory
  | .error fault => .error fault

/-- Lets time pass; says whether the limit is reached, at which time stops. -/
def wait (w : World) (time : Nat) : World × Bool :=
  match w.limit with
  | some limit =>
    if limit ≤ w.time + time then ({ w with time := limit }, true) else ({ w with time := w.time + time }, false)
  | none => ({ w with time := w.time + time }, false)

def isLate (w : World) : Bool := w.limit.any (· ≤ w.time)

def openPipe (w : World) : World × Sink :=
  ({ w with pipes := w.pipes ++ [[]] }, .pipe w.pipes.length)

/-- Closes the pipe that was opened last, and gives what was written to it. -/
def closePipe (w : World) : World × Bytes :=
  ({ w with pipes := w.pipes.dropLast }, w.pipes.getLastD [])

theorem closePipe_openPipe (w : World) : w.openPipe.1.closePipe = (w, []) := by
  simp [openPipe, closePipe]

end World

end SbtWorkspace.Simulation
