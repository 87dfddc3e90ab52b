import SbtWorkspace.FileSystem.Basic
import SbtWorkspace.Text.Line

/-! From a written path to a location. Names are looked up one after the other; a symbolic link
on the way stands for its target, read from the directory that holds the link, and at most forty
links are followed, so that the walk ends on every file system. Main statements: what is found
stands where it was found (`lookup_of_found`), and what is missing could be placed there
(`lookup_of_missing`). -/

namespace SbtWorkspace

/-- Why a file system or the system around it refuses a call. -/
inductive Fault where
  | noEntry
  | execFormat
  | accessDenied
  | busy
  | alreadyExists
  | notDirectory
  | isDirectory
  | nameTooLong
  | linkLoop
  | nullByte
  deriving DecidableEq, Repr

/-- A path as a call gets it: its text, and the steps that the walk takes. -/
structure Route where
  text : String
  isAbsolute : Bool
  steps : List String
  slash_notMem : ∀ step ∈ steps, '/' ∉ step.toList
  deriving DecidableEq

namespace Route

/-- The route of a text of any form. A trailing slash is one more step, without a name, to the directory
itself. -/
def ofString (s : String) : Route where
  text := s
  isAbsolute := s.toList.head? = some '/'
  steps :=
    let names := ((List.splitOn '/' s.toList).map String.ofList).filter (· ≠ "")
    if s.toList.getLast? = some '/' ∧ names ≠ [] then names ++ [""] else names
  slash_notMem := by
    have hn : ∀ step ∈ ((List.splitOn '/' s.toList).map String.ofList).filter (· ≠ ""),
        '/' ∉ step.toList := by
      intro step hs
      obtain ⟨piece, hp, rfl⟩ := List.mem_map.1 (List.mem_filter.1 hs).1
      simpa using Line.notMem_of_mem_splitOn hp
    intro step hs
    dsimp only at hs
    split at hs
    · rcases List.mem_append.1 hs with hs | hs
      · exact hn step hs
      · simp [List.mem_singleton.1 hs]
    · exact hn step hs

end Route

/-- The route of a path. -/
def Path.route (p : Path) : Route where
  text := p.render
  isAbsolute := p.isAbsolute
  steps := p.parts.map (·.name)
  slash_notMem := by
    intro step hs
    obtain ⟨part, _, rfl⟩ := List.mem_map.1 hs
    exact part.isPart.2.2

/-- How the last name of a path is taken: a link there stands for its target or for itself, or the name
is to be written to, when a link stands for its target and no slash may follow. -/
inductive LastName where
  | followed
  | kept
  | written
  deriving DecidableEq

/-- Where a walk ends: at a node, or at a name that is free in an existing directory. -/
inductive Target where
  | found (loc : Location) (node : Node)
  | missing (parent : Location) (name : String)
  deriving DecidableEq

namespace FileSystem

def maxNameLength : Nat := 255

def maxPathLength : Nat := 4095

def maxLinks : Nat := 40

/-- The walk up to the first link that it follows, from where `follow` takes over. -/
def walk (fs : FileSystem) (last : LastName) (follow : Location → List String → Except Fault Target) :
    Location → List String → Except Fault Target
  | loc, [] =>
    match fs.lookup loc with
    | some node => .ok (.found loc node)
    | none => .error .noEntry
  | loc, step :: rest =>
    if fs.lookup loc = none then .error .noEntry
    else if fs.lookup loc ≠ some .directory then .error .notDirectory
    else if step = "" ∨ step = "." then walk fs last follow loc rest
    else if step = ".." then walk fs last follow loc.tail rest
    else if last = .written ∧ rest = [""] then .error .isDirectory
    else if maxNameLength < step.utf8ByteSize then .error .nameTooLong
    else match fs.lookup (step :: loc) with
      | none => if rest = [] then .ok (.missing loc step) else .error .noEntry
      | some (.link target) =>
        if rest = [] ∧ last = .kept then .ok (.found (step :: loc) (.link target))
        else
          let route := Route.ofString target
          follow (if route.isAbsolute then [] else loc) (route.steps ++ rest)
      | some _ => walk fs last follow (step :: loc) rest

def walkLinks (fs : FileSystem) (last : LastName) :
    (links : Nat) → Location → List String → Except Fault Target
  | 0 => fs.walk last fun _ _ => .error .linkLoop
  | links + 1 => fs.walk last (fs.walkLinks last links)

/-- Where a route leads from a working directory. `last` says how its last name is taken. -/
def resolve (fs : FileSystem) (cwd : Location) (last : LastName) (route : Route) :
    Except Fault Target :=
  if '\x00' ∈ route.text.toList then .error .nullByte
  else if route.text = "" then .error .noEntry
  else if maxPathLength < route.text.utf8ByteSize then .error .nameTooLong
  else fs.walkLinks last maxLinks (if route.isAbsolute then [] else cwd) route.steps

def Holds (fs : FileSystem) : Target → Prop
  | .found loc node => fs.lookup loc = some node
  | .missing parent name =>
    fs.lookup parent = some .directory ∧ fs.lookup (name :: parent) = none ∧ IsEntryName name

theorem holds_walk {fs : FileSystem} {last : LastName}
    {follow : Location → List String → Except Fault Target}
    (hf : ∀ loc steps t, (∀ step ∈ steps, '/' ∉ step.toList) → follow loc steps = .ok t → fs.Holds t)
    (steps : List String) (loc : Location) (hs : ∀ step ∈ steps, '/' ∉ step.toList) {t : Target}
    (h : fs.walk last follow loc steps = .ok t) : fs.Holds t := by
  induction steps generalizing loc with
  | nil =>
    simp only [walk] at h
    split at h
    · rename_i hn
      injection h with h
      subst h
      exact hn
    · exact nomatch h
  | cons step rest ih =>
    have hr : ∀ step ∈ rest, '/' ∉ step.toList := fun s hm => hs s (List.mem_cons_of_mem _ hm)
    simp only [walk] at h
    split at h
    · exact nomatch h
    split at h
    · exact nomatch h
    rename_i hd
    simp only [ne_eq, Classical.not_not] at hd
    split at h
    · exact ih _ hr h
    rename_i hpoint
    split at h
    · exact ih _ hr h
    rename_i hup
    split at h
    · exact nomatch h
    split at h
    · exact nomatch h
    split at h
    · rename_i hn
      split at h
      · injection h with h
        subst h
        simp only [not_or] at hpoint
        exact ⟨hd, hn, ⟨hpoint.1, hpoint.2, hs step (List.mem_cons_self ..)⟩, hup⟩
      · exact nomatch h
    · rename_i hn
      split at h
      · injection h with h
        subst h
        exact hn
      · refine hf _ _ _ ?_ h
        intro s hm
        rcases List.mem_append.1 hm with hm | hm
        · exact (Route.ofString _).slash_notMem s hm
        · exact hr s hm
    · exact ih _ hr h

theorem holds_walkLinks {fs : FileSystem} {last : LastName} (links : Nat) (steps : List String)
    (loc : Location) (hs : ∀ step ∈ steps, '/' ∉ step.toList) {t : Target}
    (h : fs.walkLinks last links loc steps = .ok t) : fs.Holds t := by
  induction links generalizing loc steps t with
  | zero => exact holds_walk (by intro _ _ _ _ h; simp at h) _ _ hs h
  | succ links ih => exact holds_walk (fun loc steps t hs h => ih steps loc hs h) _ _ hs h

theorem holds_resolve {fs : FileSystem} {cwd : Location} {last : LastName} {route : Route}
    {t : Target} (h : fs.resolve cwd last route = .ok t) : fs.Holds t := by
  simp only [resolve] at h
  split at h
  · exact nomatch h
  split at h
  · exact nomatch h
  split at h
  · exact nomatch h
  exact holds_walkLinks _ _ _ route.slash_notMem h

theorem lookup_of_found {fs : FileSystem} {cwd : Location} {last : LastName} {route : Route}
    {loc : Location} {node : Node} (h : fs.resolve cwd last route = .ok (.found loc node)) :
    fs.lookup loc = some node :=
  holds_resolve h

theorem lookup_of_missing {fs : FileSystem} {cwd : Location} {last : LastName} {route : Route}
    {parent : Location} {name : String}
    (h : fs.resolve cwd last route = .ok (.missing parent name)) :
    fs.lookup parent = some .directory ∧ fs.lookup (name :: parent) = none ∧ IsEntryName name :=
  holds_resolve h

end FileSystem

end SbtWorkspace
