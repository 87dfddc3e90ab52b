import SbtWorkspace.Event
import SbtWorkspace.Failure
import SbtWorkspace.FileSystem.Calls
import SbtWorkspace.FileSystem.Scratch

/-! Operations on a machine: its file system, and what was reported and printed on it. An operation
gives a result or a failure, and in both cases the machine as it left it, so that what was done before
a failure stays done. The file systems that a run went through are kept: between two changes another
reader sees one of them. What the machine does in a way of its own is left open: how programs run, which names
scratch files get, how far its readers go, and whether what is printed is encoded, in UTF-8. Main statements:
`run_bind`, `run_tryCatch`, and the laws of a monad. -/

namespace SbtWorkspace

/-- What an operation depends on and does not do itself. -/
structure Host where
  /-- The run of a command line in a directory and an environment: the file system after it, and the exit code or
  the negative number of the signal that killed it; or why no program was run. -/
  execute : FileSystem → Location → Environment → List String → Except Fault (FileSystem × Int)
  scratch : Scratch.Draw
  /-- How many levels the values of a TOML text may take. -/
  levels : Nat
  /-- Whether standard output takes octets, so that text has to be encoded for it. -/
  encodes : Bool

def Host.unencodable? (h : Host) (t : Text) : Option Utf8.Unencodable :=
  if h.encodes then Utf8.unencodable? 0 t else none

/-- A host without programs. -/
def Host.bare : Host where
  execute _ _ _ _ := .error .noEntry
  scratch := .first
  levels := 1000
  encodes := true

/-- What an operation finds and cannot change: the working directory, the environment, and the host. -/
structure Context where
  cwd : Location
  env : Environment
  host : Host

/-- The root of a bare host, where no variable is set. -/
abbrev Context.bare : Context := ⟨[], ⟨[], some "/"⟩, .bare⟩

/-- The root of a bare host, where only the home directory is set. -/
abbrev Context.ofHome (home : String) : Context := ⟨[], ⟨[("HOME", home)], none⟩, .bare⟩

/-- What an operation can change. -/
structure Machine where
  files : FileSystem
  /-- The file systems before the present one, the last one first. -/
  past : List FileSystem := []
  events : List Event := []
  out : Text := []
  err : Text := []

/-- An operation with a result. -/
def Action (α : Type) := Context → Machine → Except Failure α × Machine

namespace Action

/-- Runs an operation. -/
def run (x : Action α) (c : Context) (m : Machine) : Except Failure α × Machine := x c m

instance : Monad Action where
  pure a := fun _ m => (.ok a, m)
  bind x f := fun c m =>
    match x c m with
    | (.ok a, m) => f a c m
    | (.error e, m) => (.error e, m)

instance : MonadExceptOf Failure Action where
  throw e := fun _ m => (.error e, m)
  tryCatch x handle := fun c m =>
    match x c m with
    | (.ok a, m) => (.ok a, m)
    | (.error e, m) => handle e c m

@[simp] theorem run_pure (a : α) (c : Context) (m : Machine) :
    (pure a : Action α).run c m = (.ok a, m) := rfl

@[simp] theorem run_throw (e : Failure) (c : Context) (m : Machine) :
    (throw e : Action α).run c m = (.error e, m) := rfl

theorem run_bind (x : Action α) (f : α → Action β) (c : Context) (m : Machine) :
    (x >>= f).run c m =
      match x.run c m with
      | (.ok a, m) => (f a).run c m
      | (.error e, m) => (.error e, m) := rfl

theorem run_tryCatch (x : Action α) (handle : Failure → Action α) (c : Context) (m : Machine) :
    (tryCatch x handle).run c m =
      match x.run c m with
      | (.ok a, m) => (.ok a, m)
      | (.error e, m) => (handle e).run c m := rfl

theorem ext {x y : Action α} (h : ∀ c m, x.run c m = y.run c m) : x = y :=
  funext fun c => funext fun m => h c m

theorem bind_pure_self (x : Action α) : x >>= pure = x := by
  refine ext fun c m => ?_
  rw [run_bind]
  rcases x.run c m with ⟨_ | _, _⟩ <;> rfl

theorem bind_bind (x : Action α) (f : α → Action β) (g : β → Action γ) :
    x >>= f >>= g = x >>= fun a => f a >>= g := by
  refine ext fun c m => ?_
  rw [run_bind, run_bind, run_bind]
  rcases x.run c m with ⟨_ | _, _⟩ <;> rfl

instance : LawfulMonad Action :=
  LawfulMonad.mk' Action (fun x => bind_pure_self x) (fun _ _ => rfl) (fun x f g => bind_bind x f g)

def context : Action Context := fun c m => (.ok c, m)

/-- The file system as it is. -/
def files : Action FileSystem := fun _ m => (.ok m.files, m)

def setFiles (fs : FileSystem) : Action Unit := fun _ m =>
  (.ok (), { m with files := fs, past := m.files :: m.past })

/-- Reports something. -/
def report (e : Event) : Action Unit := fun _ m => (.ok (), { m with events := m.events ++ [e] })

/-- Prints to standard output, all of a text or, if it has to be encoded and cannot be, none of it. -/
def print (t : Text) : Action Unit := fun c m =>
  match c.host.unencodable? t with
  | none => (.ok (), { m with out := m.out ++ t })
  | some e => (.error (.unencodable e), m)

/-- Prints to standard error, which takes every text and shows a surrogate by its number. -/
def printError (t : Text) : Action Unit := fun _ m => (.ok (), { m with err := m.err ++ t })

def ofExcept (failure : ε → Failure) : Except ε α → Action α
  | .ok a => pure a
  | .error e => throw (failure e)

/-- What depends on the environment, if it can be known; otherwise the home directory is not known. -/
def known (find : Environment → Option α) : Action α := do
  match find (← context).env with
  | some a => pure a
  | none => throw .unknownHome

/-- Looks at the file system; a refusal is reported with the path as given. -/
def look (call : FileSystem → Location → Except Fault α) (path : String) : Action α := do
  let c ← context
  ofExcept (fun fault => .system ⟨fault, path, none⟩) (call (← files) c.cwd)

/-- Changes the file system; a refusal is reported with the path as given. -/
def change (call : FileSystem → Location → Except Fault FileSystem) (path : String) : Action Unit := do
  setFiles (← look call path)

def pathExists (p : Path) : Action Bool := look (·.pathExists · p.route) p.render

/-- Whether a path leads to a regular file. -/
def isFile (p : Path) : Action Bool := look (·.isFile · p.route) p.render

/-- Whether a path leads to a directory. -/
def isDirectory (p : Path) : Action Bool := look (·.isDirectory · p.route) p.render

def readFile (p : Path) : Action Bytes := look (·.read · p.route) p.render

def writeFile (p : Path) (bytes : Bytes) : Action Unit := change (·.write · p.route bytes) p.render

def unlink (p : Path) : Action Unit := change (·.unlink · p.route) p.render

def makeDirectory (p : Path) : Action Unit := change (·.makeDirectory · p.route) p.render

def ensureDirectory (p : Path) : Action Unit :=
  tryCatch (makeDirectory p) fun
    | .system e => do
      if e.fault = .nullByte then throw (.system e)
      else if ← isDirectory p then pure ()
      else throw (.system e)
    | e => throw e

/-- Makes a directory and those above it that are missing. A directory may stand there already. -/
def ensureDirectories (root : Path.Root) : (outermostLast : List Path.Part) → Action Unit
  | [] => ensureDirectory ⟨root, []⟩
  | part :: above =>
    let p : Path := ⟨root, (part :: above).reverse⟩
    tryCatch (makeDirectory p) fun
      | .system e => do
        if e.fault = .nullByte then throw (.system e)
        else if e.fault = .noEntry then
          ensureDirectories root above
          ensureDirectory p
        else if ← isDirectory p then pure ()
        else throw (.system e)
      | e => throw e

def ensurePath (p : Path) : Action Unit := ensureDirectories p.root p.parts.reverse

end Action

end SbtWorkspace
