import SbtWorkspace.FileSystem.Resolve

/-! The calls that read and change a file system. Each resolves its route once and then reads or
changes what stands there, so a refused call changes nothing. A write leaves the whole content behind or fails
before it has changed anything: a disk does not fill up, and no write is interrupted. -/

namespace SbtWorkspace

/-- Whether a fault only says that nothing usable stands at a path. -/
def Fault.isAbsence : Fault → Bool
  | .noEntry | .notDirectory | .linkLoop | .nullByte => true
  | _ => false

def Route.endsInName (route : Route) : Bool :=
  match route.steps.getLast? with
  | some step => step != "" && step != "." && step != ".."
  | none => false

namespace FileSystem

/-- What a route leads to, links followed. -/
def status (fs : FileSystem) (cwd : Location) (route : Route) : Except Fault (Location × Node) :=
  match fs.resolve cwd .followed route with
  | .ok (.found loc node) => .ok (loc, node)
  | .ok (.missing _ _) => .error .noEntry
  | .error fault => .error fault

theorem lookup_of_status {fs : FileSystem} {cwd : Location} {route : Route} {loc : Location}
    {node : Node} (h : fs.status cwd route = .ok (loc, node)) : fs.lookup loc = some node := by
  simp only [status] at h
  split at h
  · rename_i hr
    injection h with h
    injection h with h₁ h₂
    subst h₁ h₂
    exact lookup_of_found hr
  · exact nomatch h
  · exact nomatch h

/-- What a route leads to, if anything. Only a fault that is no absence is an error. -/
def probe (fs : FileSystem) (cwd : Location) (route : Route) :
    Except Fault (Option (Location × Node)) :=
  match fs.status cwd route with
  | .ok found => .ok (some found)
  | .error fault => if fault.isAbsence then .ok none else .error fault

theorem status_of_probe {fs : FileSystem} {cwd : Location} {route : Route} {found : Location × Node}
    (h : fs.probe cwd route = .ok (some found)) : fs.status cwd route = .ok found := by
  simp only [probe] at h
  split at h
  · rename_i hs
    injection h with h
    injection h with h
    rw [hs, h]
  · split at h
    · injection h with h
      exact nomatch h
    · exact nomatch h

def pathExists (fs : FileSystem) (cwd : Location) (route : Route) : Except Fault Bool :=
  (fs.probe cwd route).map (·.isSome)

/-- Whether a route leads to a regular file. -/
def isFile (fs : FileSystem) (cwd : Location) (route : Route) : Except Fault Bool :=
  (fs.probe cwd route).map fun
    | some (_, node) => node.isRegular
    | none => false

/-- Whether a route leads to a directory. -/
def isDirectory (fs : FileSystem) (cwd : Location) (route : Route) : Except Fault Bool :=
  (fs.probe cwd route).map fun
    | some (_, .directory) => true
    | _ => false

/-- The content of the file that a route leads to. -/
def read (fs : FileSystem) (cwd : Location) (route : Route) : Except Fault Bytes :=
  match fs.status cwd route with
  | .ok (_, .file bytes _) => .ok bytes
  | .ok (_, .device kind) => .ok kind.bytes
  | .ok (_, .sealed) => .error .accessDenied
  | .ok _ => .error .isDirectory
  | .error fault => .error fault

/-- Writes the content of a file, which is made if only it is missing. A file keeps its mode, and a device
loses what is written. -/
def write (fs : FileSystem) (cwd : Location) (route : Route) (bytes : Bytes) :
    Except Fault FileSystem :=
  match fs.resolve cwd .written route with
  | .ok (.found (name :: parent) (.file _ executable)) =>
    .ok (fs.place parent name (.file bytes executable))
  | .ok (.found _ (.device _)) => .ok fs
  | .ok (.found _ .sealed) => .error .accessDenied
  | .ok (.found _ _) => .error .isDirectory
  | .ok (.missing parent name) => .ok (fs.place parent name (.file bytes false))
  | .error fault => .error fault

/-- Makes a file where nothing stands, not even a link. -/
def create (fs : FileSystem) (cwd : Location) (route : Route) (node : Node) :
    Except Fault FileSystem :=
  match fs.resolve cwd .kept route with
  | .ok (.found _ _) => .error .alreadyExists
  | .ok (.missing parent name) => .ok (fs.place parent name node)
  | .error fault => .error fault

def makeDirectory (fs : FileSystem) (cwd : Location) (route : Route) : Except Fault FileSystem :=
  fs.create cwd route .directory

/-- Makes a link where nothing stands. Its target need not lead anywhere, but it has to be a path. -/
def link (fs : FileSystem) (cwd : Location) (route : Route) (target : String) :
    Except Fault FileSystem :=
  if '\x00' ∈ target.toList then .error .nullByte
  else if target = "" then .error .noEntry
  else if maxPathLength < target.utf8ByteSize then .error .nameTooLong
  else fs.create cwd route (.link target)

def unlink (fs : FileSystem) (cwd : Location) (route : Route) : Except Fault FileSystem :=
  match fs.resolve cwd .kept route with
  | .ok (.found _ .directory) => .error .isDirectory
  | .ok (.found loc _) => .ok (fs.remove loc)
  | .ok (.missing _ _) => .error .noEntry
  | .error fault => .error fault

/-- Removes whatever stands at the end of a route, with all that stands below it. The root stays. -/
def removeTree (fs : FileSystem) (cwd : Location) (route : Route) : Except Fault FileSystem :=
  match fs.resolve cwd .kept route with
  | .ok (.found [] _) => .error .busy
  | .ok (.found loc _) => .ok (fs.remove loc)
  | .ok (.missing _ _) => .error .noEntry
  | .error fault => .error fault

def setExecutable (fs : FileSystem) (cwd : Location) (route : Route) (executable : Bool) :
    Except Fault FileSystem :=
  match fs.status cwd route with
  | .ok (name :: parent, .file bytes _) => .ok (fs.place parent name (.file bytes executable))
  | .ok _ => .error .accessDenied
  | .error fault => .error fault

/-- Moves a file or a link, in place of a file or a link that stands at the destination. The
destination has to be a name: the root, a directory itself and its parent are in use. -/
def rename (fs : FileSystem) (cwd : Location) (source destination : Route) :
    Except Fault FileSystem := do
  let moved ← fs.resolve cwd .kept source
  let goal ← fs.resolve cwd .kept destination
  if destination.endsInName then
    match moved, goal with
    | .found _ .directory, _ => .error .isDirectory
    | .found _ _, .found _ .directory => .error .isDirectory
    | .found loc node, .found (name :: parent) _ => .ok ((fs.remove loc).place parent name node)
    | .found loc node, .missing parent name => .ok ((fs.remove loc).place parent name node)
    | _, _ => .error .noEntry
  else .error .busy

theorem lookup_of_create {fs fs' : FileSystem} {cwd : Location} {route : Route} {node : Node}
    (h : fs.create cwd route node = .ok fs') :
    ∃ parent name, fs.resolve cwd .kept route = .ok (.missing parent name) ∧
      ∀ q, fs'.lookup q = if q = name :: parent then some node else fs.lookup q := by
  simp only [create] at h
  split at h
  · exact nomatch h
  · rename_i parent name hr
    injection h with h
    subst h
    obtain ⟨hp, hn, hname⟩ := lookup_of_missing hr
    exact ⟨parent, name, hr, fun q => lookup_place hname hp (by simp [hn]) q⟩
  · exact nomatch h

theorem lookup_of_makeDirectory {fs fs' : FileSystem} {cwd : Location} {route : Route}
    (h : fs.makeDirectory cwd route = .ok fs') :
    ∃ parent name, fs.resolve cwd .kept route = .ok (.missing parent name) ∧
      ∀ q, fs'.lookup q = if q = name :: parent then some .directory else fs.lookup q :=
  lookup_of_create h

/-- What stands below a location that is no directory: nothing but itself. -/
theorem eq_of_suffix {fs : FileSystem} {loc q : Location} {node : Node}
    (hl : fs.lookup loc = some node) (hd : node ≠ .directory) (hq : (fs.lookup q).isSome)
    (hs : loc <:+ q) : q = loc := by
  induction q with
  | nil => exact (List.suffix_nil.1 hs).symm
  | cons n p ih =>
    rcases List.suffix_cons_iff.1 hs with rfl | hs
    · rfl
    · have hp := lookup_parent hq
      have := ih (by simp [hp]) hs
      subst this
      rw [hp] at hl
      injection hl with hl
      exact absurd hl.symm hd

theorem lookup_remove_of_not_directory {fs : FileSystem} {loc : Location} {node : Node}
    (hl : fs.lookup loc = some node) (hd : node ≠ .directory) (q : Location) :
    (fs.remove loc).lookup q = if q = loc then none else fs.lookup q := by
  have hne : loc ≠ [] := by
    intro e
    subst e
    simp only [lookup_root] at hl
    injection hl with hl
    exact hd hl.symm
  rw [lookup_remove]
  by_cases hq : q = loc
  · subst hq
    simp [hne]
  · simp only [hq, if_false]
    split
    · rename_i hs
      cases hn : fs.lookup q with
      | none => rfl
      | some n => exact absurd (eq_of_suffix hl hd (by simp [hn]) hs.2) hq
    · rfl

theorem lookup_move {fs : FileSystem} {loc parent : Location} {name : String} {node : Node}
    (hl : fs.lookup loc = some node) (hd : node ≠ .directory) (hname : IsEntryName name)
    (hp : fs.lookup parent = some .directory) (hn : fs.lookup (name :: parent) ≠ some .directory)
    (q : Location) :
    ((fs.remove loc).place parent name node).lookup q =
      if q = name :: parent then some node else if q = loc then none else fs.lookup q := by
  have hr := lookup_remove_of_not_directory hl hd
  have hne : parent ≠ loc := by
    intro e
    subst e
    rw [hl] at hp
    injection hp with hp
    exact hd hp
  rw [lookup_place hname]
  · rw [hr]
  · rw [hr, if_neg hne]
    exact hp
  · rw [hr]
    split
    · simp
    · exact hn

end FileSystem

end SbtWorkspace
