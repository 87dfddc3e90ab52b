import SbtWorkspace.FileSystem.Calls

/-! Changes of the files that programs are asked for: to make, copy, move and remove files and
directories. A change is refused as a whole. -/

namespace SbtWorkspace.Simulation

abbrev FileChange := FileSystem → Option FileSystem

namespace FileChange

def withoutSlashes (path : String) : String :=
  let kept := (path.toList.reverse.dropWhile (· = '/')).reverse
  if kept = [] ∧ path ≠ "" then "/" else String.ofList kept

def baseName (path : String) : String :=
  let cs := (withoutSlashes path).toList
  if cs = ['/'] then "/" else String.ofList (cs.reverse.takeWhile (· ≠ '/')).reverse

def directoryName (path : String) : String :=
  let cs := (withoutSlashes path).toList
  let above := cs.reverse.dropWhile (· ≠ '/')
  if cs = ['/'] then "/"
  else if above = [] then "."
  else withoutSlashes (String.ofList above.reverse)

/-- A name in a directory that is given as a path. -/
def inside (directory name : String) : String :=
  if directory.toList.getLast? = some '/' then directory ++ name else directory ++ "/" ++ name

def makeDirectory (cwd : Location) (parents : Bool) (path : String) : FileChange := fun fs =>
  let path := withoutSlashes path
  if parents then
    let route := Route.ofString path
    let paths := (List.range route.steps.length).map fun i =>
      (if route.isAbsolute then "/" else "") ++ "/".intercalate (route.steps.take (i + 1))
    if path = "" then none
    else paths.foldlM
      (fun fs path =>
        match fs.status cwd (.ofString path) with
        | .ok (_, .directory) => some fs
        | .ok _ => none
        | .error _ => (fs.makeDirectory cwd (.ofString path)).toOption) fs
  else (fs.makeDirectory cwd (.ofString path)).toOption

def touch (cwd : Location) (creates : Bool) (path : String) : FileChange := fun fs =>
  match fs.status cwd (.ofString path) with
  | .ok _ => some fs
  | .error _ => if creates then (fs.write cwd (.ofString path) []).toOption else some fs

/-- Removes a file, or a directory with all that stands below it. -/
def remove (cwd : Location) (recursive force empty : Bool) (path : String) : FileChange := fun fs =>
  let last := baseName path
  match fs.resolve cwd .kept (.ofString (withoutSlashes path)) with
  | .ok (.found loc node) =>
    if node = .directory then
      if last = "." ∨ last = ".." ∨ loc = [] then none
      else if recursive ∨ (empty ∧ fs.names loc = []) then some (fs.remove loc)
      else none
    else if path.toList.getLast? = some '/' then none
    else some (fs.remove loc)
  | .ok (.missing _ _) => if force then some fs else none
  | .error fault => if force && fault.isAbsence then some fs else none

def removeDirectory (cwd : Location) (path : String) : FileChange := fun fs =>
  match fs.resolve cwd .kept (.ofString (withoutSlashes path)) with
  | .ok (.found loc .directory) =>
    if loc = [] ∨ fs.names loc ≠ [] ∨ baseName path = "." ∨ baseName path = ".." then none
    else some (fs.remove loc)
  | _ => none

/-- The file system with what stands at a location, and all below it, also at another one. -/
def graft (fs : FileSystem) (source goal : Location) : FileSystem :=
  let below := fs.entries.filter fun e => source.isSuffixOf e.1
  (below.mergeSort fun a b => a.1.length ≤ b.1.length).foldl
    (fun fs e =>
      match e.1.take (e.1.length - source.length) ++ goal with
      | name :: parent => fs.place parent name e.2
      | [] => fs) fs

/-- Where something is put that is copied or moved to a path: in the directory that stands there, or at
the path itself. -/
def destination (fs : FileSystem) (cwd : Location) (source path : String) : String :=
  match fs.status cwd (.ofString path) with
  | .ok (_, .directory) => inside path (baseName source)
  | _ => path

structure Copying where
  recursive : Bool := false
  keepsLinks : Bool := false
  keepsModes : Bool := false

/-- Copies a directory with all that stands below it to a path. The copy may stand below the directory, and is then
no part of what is copied, but the change counts as refused. -/
def copyDirectory (cwd : Location) (loc : Location) (path : String) (fs : FileSystem) : Option FileSystem × Bool :=
  match fs.resolve cwd .kept (.ofString (withoutSlashes path)) with
  | .ok (.found goal .directory) =>
    if loc.isSuffixOf goal then (none, false) else (some (graft fs loc goal), true)
  | .ok (.missing parent name) =>
    let goal := name :: parent
    if loc.isSuffixOf goal then (some (graft fs loc goal), false)
    else (some (graft (fs.place parent name .directory) loc goal), true)
  | _ => (none, false)

def copyLink (cwd : Location) (target path : String) : FileChange := fun fs =>
  let route := Route.ofString path
  match fs.resolve cwd .kept route with
  | .ok (.found _ .directory) => none
  | .ok (.found loc _) => ((fs.remove loc).link cwd route target).toOption
  | _ => (fs.link cwd route target).toOption

/-- Copies a file, or with the style for it a directory, to a path; says whether nothing was refused. -/
def copyTo (cwd : Location) (style : Copying) (source path : String) (fs : FileSystem) :
    Option FileSystem × Bool :=
  let whole (fs : Option FileSystem) : Option FileSystem × Bool := (fs, fs.isSome)
  match fs.resolve cwd .kept (.ofString source), style.keepsLinks with
  | .ok (.found _ (.link target)), true => whole (copyLink cwd target path fs)
  | _, _ =>
    match fs.status cwd (.ofString source) with
    | .error _ => (none, false)
    | .ok (loc, .file bytes executable) =>
      match fs.resolve cwd .written (.ofString path), fs.resolve cwd .kept (.ofString path) with
      | .ok (.found (name :: parent) (.file _ old)), _ =>
        if name :: parent = loc then (none, false)
        else whole (some (fs.place parent name (.file bytes (if style.keepsModes then executable else old))))
      | .ok (.found _ (.device _)), _ => (some fs, true)
      | .ok (.missing _ _), .ok (.found _ _) => (none, false)
      | .ok (.missing parent name), _ => whole (some (fs.place parent name (.file bytes executable)))
      | _, _ => (none, false)
    | .ok (_, .device kind) => whole (fs.write cwd (.ofString path) kind.bytes).toOption
    | .ok (loc, _) => if style.recursive then copyDirectory cwd loc path fs else (none, false)

/-- Moves what stands at a path to another one. -/
def move (cwd : Location) (source path : String) : FileChange := fun fs =>
  match fs.resolve cwd .kept (.ofString (withoutSlashes source)) with
  | .ok (.found (old :: above) node) =>
    let loc := old :: above
    let goal : Option Location := match fs.resolve cwd .kept (.ofString (withoutSlashes path)) with
      | .ok (.found goal other) =>
        if goal = loc then none
        else if other = .directory ∧ (node ≠ .directory ∨ fs.names goal ≠ []) then none
        else if other ≠ .directory ∧ node = .directory then none
        else some goal
      | .ok (.missing parent name) =>
        if node ≠ .directory ∧ path.toList.getLast? = some '/' then none else some (name :: parent)
      | .error _ => none
    match goal with
    | some goal =>
      if loc.isSuffixOf goal then none else some ((graft (fs.remove goal) loc goal).remove loc)
    | none => none
  | _ => none

/-- Makes a link at a path: one that names its target, or a second name of a file. -/
def link (cwd : Location) (symbolic force : Bool) (target path : String) : FileChange := fun fs =>
  let route := Route.ofString path
  let isSame : Bool :=
    match fs.resolve cwd (if symbolic then .followed else .kept) (.ofString target), fs.resolve cwd .kept route with
    | .ok (.found a _), .ok (.found b _) => a = b
    | _, _ => false
  let fs := if force ∧ !isSame then ((fs.unlink cwd route).toOption).getD fs else fs
  if symbolic then (fs.link cwd route target).toOption
  else
    match fs.resolve cwd .kept (.ofString target) with
    | .ok (.found _ .directory) => none
    | .ok (.found _ node) => (fs.create cwd route node).toOption
    | _ => none

def rename (cwd : Location) (path other : String) : FileChange := fun fs =>
  match fs.resolve cwd .kept (.ofString path) with
  | .ok (.found _ .directory) => some fs
  | .ok (.found _ _) => move cwd path other fs
  | _ => some fs

end FileChange

end SbtWorkspace.Simulation
