import SbtWorkspace.Simulation.Utility.Outcome

/-! Why changes of the files are refused, in words. A change is refused as a whole; the reason is found by a look at
what stands at its paths. -/

namespace SbtWorkspace.Simulation.Utility

def faultOf (x : Except Fault α) : Fault :=
  match x with
  | .ok _ => .noEntry
  | .error fault => fault

def nodeKind : Node → String
  | .directory => "directory"
  | .file [] _ => "regular empty file"
  | .file _ _ | .sealed => "regular file"
  | .link _ => "symbolic link"
  | .device _ => "character special file"

/-- The kinds of nodes that matter for a refusal. -/
inductive Standing where
  | directory
  | other
  | nothing (fault : Fault)

/-- What stands at a path; `follows` says whether a last link is followed. -/
def standingAt (fs : FileSystem) (cwd : Location) (follows : Bool) (path : String) : Standing :=
  match fs.resolve cwd (if follows then .followed else .kept) (.ofString path) with
  | .ok (.found _ .directory) => .directory
  | .ok (.found _ _) => .other
  | .ok (.missing _ _) => .nothing .noEntry
  | .error fault => .nothing fault

def placeOf? (fs : FileSystem) (cwd : Location) (follows : Bool) (path : String) : Option Location :=
  match fs.resolve cwd (if follows then .followed else .kept) (.ofString path) with
  | .ok (.found loc _) => some loc
  | _ => none

def pathsDownTo (path : String) : List String :=
  let route := Route.ofString path
  (List.range route.steps.length).map fun i =>
    (if route.isAbsolute then "/" else "") ++ "/".intercalate (route.steps.take (i + 1))

def whyNotMade (cwd : Location) (parents : Bool) (path : String) (fs : FileSystem) : String :=
  let start := "cannot create directory "
  let blocked? (p : String) : Option String := match standingAt fs cwd true p with
    | .other => some p
    | _ => none
  match if parents then (pathsDownTo path).findSome? blocked? else none with
  | some p =>
    let isLast := FileChange.withoutSlashes path = p
    start ++ named p ++ ": " ++ (if isLast then Fault.alreadyExists else Fault.notDirectory).wording
  | none =>
    start ++ named path ++ ": " ++
      (faultOf (fs.makeDirectory cwd (.ofString (FileChange.withoutSlashes path)))).wording

/-- Why a file cannot be made whose times are to be set. -/
def whyNotTouched (cwd : Location) (path : String) (fs : FileSystem) : String :=
  let fault := faultOf (fs.write cwd (.ofString path) [])
  if path.toList.getLast? = some '/' ∨ fault = .isDirectory then
    "setting times of " ++ named path ++ ": " ++ (faultOf (fs.status cwd (.ofString path))).wording
  else "cannot touch " ++ named path ++ ": " ++ fault.wording

def whyNotRemoved (cwd : Location) (recursive empty : Bool) (path : String) (fs : FileSystem) : String :=
  let last := FileChange.baseName path
  let start := "cannot remove " ++ named path ++ ": "
  match standingAt fs cwd false (FileChange.withoutSlashes path) with
  | .directory =>
    if !recursive ∧ !empty then start ++ "Is a directory"
    else if last = "/" then
      "it is dangerous to operate recursively on '/'\nrm: use --no-preserve-root to override this failsafe"
    else if last = "." ∨ last = ".." then
      "refusing to remove '.' or '..' directory: skipping " ++ named (FileChange.withoutSlashes path)
    else start ++ "Directory not empty"
  | .other => start ++ "Not a directory"
  | .nothing fault => start ++ fault.wording

def whyDirectoryStays (cwd : Location) (path : String) (fs : FileSystem) : String :=
  let last := FileChange.baseName path
  "failed to remove " ++ named path ++ ": " ++
    match standingAt fs cwd false (FileChange.withoutSlashes path) with
    | .directory => if last = "." then "Invalid argument" else "Directory not empty"
    | .other => "Not a directory"
    | .nothing fault => fault.wording

def whyNotCopied (cwd : Location) (recursive keepsLinks : Bool) (omits : String) (source goal : String)
    (fs : FileSystem) : String :=
  let link := match fs.resolve cwd .kept (.ofString source) with
    | .ok (.found _ (.link _)) => keepsLinks
    | _ => false
  let isSame : Bool := match placeOf? fs cwd true source, placeOf? fs cwd true goal with
    | some a, some b => a = b
    | _, _ => false
  match standingAt fs cwd (!link) source, standingAt fs cwd true goal with
  | .nothing fault, _ => "cannot stat " ++ named source ++ ": " ++ fault.wording
  | .directory, goalNode =>
    if !recursive then omits ++ named source
    else match goalNode with
      | .other => "cannot overwrite non-directory " ++ named goal ++ " with directory " ++ named source
      | .directory => "cannot copy a directory, " ++ named source ++ ", into itself, " ++ named goal
      | .nothing fault =>
        if fault = .noEntry ∧ (placeOf? fs cwd true (FileChange.directoryName goal)).isSome then
          "cannot copy a directory, " ++ named source ++ ", into itself, " ++ named goal
        else "cannot create directory " ++ named goal ++ ": " ++ fault.wording
  | .other, .directory => "cannot overwrite directory " ++ named goal ++ " with non-directory"
  | .other, .other => named source ++ " and " ++ named goal ++ " are the same file"
  | .other, .nothing .notDirectory => "cannot stat " ++ named goal ++ ": Not a directory"
  | .other, .nothing fault =>
    if isSame then named source ++ " and " ++ named goal ++ " are the same file"
    else if (placeOf? fs cwd false goal).isSome then "not writing through dangling symlink " ++ named goal
    else
      let kind := if link then "symbolic link " else "regular file "
      let fault := if goal.toList.getLast? = some '/' then Fault.notDirectory else fault
      "cannot create " ++ kind ++ named goal ++ ": " ++ fault.wording

def whyNotMoved (cwd : Location) (source goal : String) (fs : FileSystem) : String :=
  let start := "cannot move " ++ named source ++ " to " ++ named goal ++ ": "
  let places := (placeOf? fs cwd false (FileChange.withoutSlashes source),
    placeOf? fs cwd false (FileChange.withoutSlashes goal))
  let isBelow : Bool := match places.1, placeOf? fs cwd true (FileChange.directoryName goal) with
    | some a, some b => a.isSuffixOf b
    | _, _ => false
  let isSame : Bool := places.1.isSome && places.1 = places.2
  match standingAt fs cwd false source, standingAt fs cwd false goal with
  | .nothing fault, _ => "cannot stat " ++ named source ++ ": " ++ fault.wording
  | node, goalNode =>
    if isSame then named source ++ " and " ++ named goal ++ " are the same file"
    else match node, goalNode with
      | .directory, .other => "cannot overwrite non-directory " ++ named goal ++ " with directory " ++ named source
      | .directory, .directory =>
        if isBelow then "cannot move " ++ named source ++ " to a subdirectory of itself, " ++ named goal
        else start ++ "Directory not empty"
      | .directory, .nothing fault =>
        if isBelow then "cannot move " ++ named source ++ " to a subdirectory of itself, " ++ named goal
        else start ++ fault.wording
      | _, .directory => "cannot overwrite directory " ++ named goal ++ " with non-directory"
      | _, .nothing .notDirectory => "cannot stat " ++ named goal ++ ": Not a directory"
      | _, .nothing fault =>
        start ++ (if goal.toList.getLast? = some '/' then Fault.notDirectory else fault).wording
      | _, .other => start ++ "Not a directory"

def whyNotLinked (cwd : Location) (symbolic force : Bool) (target goal : String) (fs : FileSystem) : String :=
  let isSame : Bool :=
    match placeOf? fs cwd symbolic target, placeOf? fs cwd false goal with
    | some a, some b => a = b
    | _, _ => false
  let kind := if symbolic then "symbolic link " else "hard link "
  let start := "failed to create " ++ kind ++ named goal
  let between := if symbolic then (if target = "" then " -> " ++ named target else "") else " => " ++ named target
  match if symbolic then .other else standingAt fs cwd false target, standingAt fs cwd false goal with
  | .nothing fault, _ => "failed to access " ++ named target ++ ": " ++ fault.wording
  | .directory, _ => shownName target ++ ": hard link not allowed for directory"
  | .other, .nothing fault => start ++ between ++ ": " ++ fault.wording
  | .other, _ =>
    if isSame ∧ force then named target ++ " and " ++ named goal ++ " are the same file"
    else start ++ ": File exists"

def whyNotWritten (cwd : Location) (path : String) (fs : FileSystem) : Fault :=
  faultOf (fs.write cwd (.ofString path) [])

end SbtWorkspace.Simulation.Utility
