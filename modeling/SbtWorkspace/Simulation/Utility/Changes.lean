import SbtWorkspace.FileSystem.Canonical
import SbtWorkspace.Simulation.Utility.Clock
import SbtWorkspace.Simulation.Utility.Reason

/-! Programs that change the files: that make, copy, move, link and remove what stands at paths. -/

namespace SbtWorkspace.Simulation.Utility

/-- Whether a directory stands at a path; `follows` says whether a last link is followed. -/
def isDirectory (fs : FileSystem) (cwd : Location) (follows : Bool) (path : String) : Bool :=
  match fs.resolve cwd (if follows then .followed else .kept) (.ofString path) with
  | .ok (.found _ .directory) => true
  | _ => false

/-- Whether something stands at a path. -/
def stands (fs : FileSystem) (cwd : Location) (path : String) : Bool :=
  match fs.resolve cwd .kept (.ofString path) with
  | .ok (.found _ _) => true
  | _ => false

def agrees (w : World) : World × Bool :=
  let line := (w.input.takeWhile (· ≠ 0x0a))
  ({ w with input := w.input.drop (line.length + 1) }, line.head? = some 0x79 || line.head? = some 0x59)

def question (c : Call) (text : String) : Complaint := { text := c.name ++ ": " ++ text ++ "? " }

/-- The outcome of an answer to a question. -/
def asked (c : Call) (text : String) (w : World) (step : World → Outcome) : Outcome :=
  let (w, agreed) := agrees w
  let begun : Outcome := { world := w, complaints := [question c text] }
  if agreed then begun.andThen step else begun

def mkdir : Work :=
  reading
    { letters := "pvZ", valued := "m", long := [("parents", 'p'), ("verbose", 'v'), ("mode", 'm')] } 1 fun c w a =>
    let bits := (a.value? 'm').map fun m => Permission.change? m true 0o777
    if a.operands = [] then misused c w 1 "missing operand"
    else if bits = some none then refused c w 1 ("invalid mode " ++ named ((a.value? 'm').getD ""))
    else inTurn w (a.operands.map fun path => fun w =>
      let route := Route.ofString path
      let above := if a.has 'p' then pathsDownTo path else [path]
      let made := above.filter fun p => !(w.files.status c.cwd (.ofString p)).toOption.isSome
      let told := made.map fun p => "mkdir: created directory " ++ named p ++ "\n"
      let o := changed c (if a.has 'v' then String.join told else "") (whyNotMade c.cwd (a.has 'p') path)
        (FileChange.makeDirectory c.cwd (a.has 'p') path) w
      match bits.join, o.world.files.status c.cwd route with
      | some bits, .ok (loc, _) =>
        if o.status = 0 ∧ made.contains path then { o with world := o.world.withPermissions loc bits } else o
      | _, _ => o)

/-- Makes a device; of the numbers that devices have, those of two are known. -/
def mknod : Work := fun c w args =>
  let made (path : String) (kind : Device) : Outcome :=
    match w.files.create c.cwd (.ofString path) (.device kind) with
    | .ok files => { world := { w with files } }
    | .error fault => refused c w 1 (shownName path ++ ": " ++ fault.wording)
  match args with
  | [path, "c", "1", "3"] => made path .null
  | [path, "c", "1", "5"] => made path .zero
  | _ => { world := w }

/-- Makes files that are missing, and says when files were changed. -/
def touch : Work :=
  reading
    { letters := "acfhm", valued := "drt", optional := ""
      long := [("no-create", 'c'), ("date", 'd'), ("reference", 'r'), ("no-dereference", 'h'), ("time", 't')] } 1
    fun c w a =>
    let now := w.clock
    let reference : Option (Option Clock.Time) := (a.value? 'r').map fun path =>
      (w.files.status c.cwd (.ofString path)).toOption.map fun found => (w.stamp? found.1).getD now
    let time : Option (Option Clock.Time) :=
      match a.value? 't', a.value? 'd', reference with
      | some text, none, none => some (writtenTime? now text)
      | none, some text, base => some (Clock.read? (base.join.getD now) text)
      | none, none, some base => some base
      | none, none, none => none
      | _, _, _ => some none
    if reference = some none then
      let path := (a.value? 'r').getD ""
      refused c w 1 ("failed to get attributes of " ++ named path ++ ": " ++
        (faultOf (w.files.status c.cwd (.ofString path))).wording)
    else if time = some none then
      match a.value? 't', a.value? 'd', reference with
      | some text, none, none | none, some text, _ => refused c w 1 ("invalid date format " ++ named text)
      | _, _, _ => misused c w 1 "cannot specify times from more than one source"
    else if a.operands = [] then misused c w 1 "missing file operand"
    else inTurn w (a.operands.map fun path => fun w =>
      if path = "-" then { world := w }
      else if a.has 'h' ∧ !a.has 'c' ∧ !stands w.files c.cwd path then
        refused c w 1 ("setting times of " ++ named path ++ ": No such file or directory")
      else
        let o := changed c "" (whyNotTouched c.cwd path) (FileChange.touch c.cwd (!a.has 'c') path) w
        match o.world.files.status c.cwd (.ofString path) with
        | .ok (loc, _) =>
          if a.has 'a' ∧ !a.has 'm' then o else { o with world := o.world.withStamp loc time.join }
        | .error _ => o)

/-- What is told of the removal of a location: what stands below it comes first. -/
def removals (fs : FileSystem) : (depth : Nat) → String → Location → List String
  | 0, _, _ => []
  | depth + 1, path, loc =>
    match fs.lookup loc with
    | some .directory =>
      ((fs.names loc).flatMap fun name => removals fs depth (FileChange.inside path name) (name :: loc)) ++
        ["removed directory " ++ named path ++ "\n"]
    | _ => ["removed " ++ named path ++ "\n"]

/-- Removes files, and directories with the option for it. -/
def rm : Work :=
  reading
    { letters := "dfiIrRv", optional := "\x01"
      long := [("recursive", 'r'), ("force", 'f'), ("dir", 'd'), ("verbose", 'v'), ("interactive", '\x01'),
        ("one-file-system", '\x01'), ("preserve-root", '\x01'), ("no-preserve-root", '\x01')] } 1 fun c w a =>
    let recursive := a.has 'r' || a.has 'R'
    let force := a.last? "fi" = some 'f'
    let asks := a.last? "fi" = some 'i'
    if a.operands = [] then (if a.has 'f' then { world := w } else misused c w 1 "missing operand")
    else inTurn w (a.operands.map fun path => fun w =>
      let told := match a.has 'v', w.files.resolve c.cwd .kept (.ofString (FileChange.withoutSlashes path)) with
        | true, .ok (.found loc _) => String.join (removals w.files 100 (FileChange.withoutSlashes path) loc)
        | _, _ => ""
      let remove (w : World) : Outcome :=
        let o := changed c told (whyNotRemoved c.cwd recursive (a.has 'd') path)
          (FileChange.remove c.cwd recursive force (a.has 'd') path) w
        { o with world := o.world.settled }
      match if asks then (w.files.resolve c.cwd .kept (.ofString path)).toOption else none with
      | some (.found _ node) => asked c ("remove " ++ nodeKind node ++ " " ++ named path) w remove
      | _ => remove w)

def rmdir : Work :=
  reading
    { letters := "pv"
      long := [("parents", 'p'), ("verbose", 'v'), ("ignore-fail-on-non-empty", '\x01')] } 1 fun c w a =>
    let remove (path : String) (w : World) : Outcome :=
      let told := if a.has 'v' then "rmdir: removing directory, " ++ named path ++ "\n" else ""
      match FileChange.removeDirectory c.cwd path w.files with
      | some files => { world := ({ w with files } : World).settled, output := octets told }
      | none =>
        let isFilled : Bool := a.has '\x01' && isDirectory w.files c.cwd false path
        let complaint := { Call.complaint c (whyDirectoryStays c.cwd path w.files) with place := (octets told).length }
        { world := w, output := octets told, complaints := if isFilled then [] else [complaint]
          status := if isFilled then 0 else 1 }
    let rec go (w : World) : List String → Outcome
      | [] => { world := w }
      | path :: rest =>
        let o := remove path w
        if o.status = 0 then o.andThen fun w => go w rest else o
    if a.operands = [] then misused c w 1 "missing operand"
    else inTurn w (a.operands.map fun path => fun w =>
      if a.has 'p' then
        go w (pathsDownTo (FileChange.withoutSlashes path)).reverse
      else remove path w)

def unlink : Work :=
  reading { letters := "" } 1 fun c w a =>
    match a.operands with
    | [path] =>
      let reason (fs : FileSystem) : String :=
        "cannot unlink " ++ named path ++ ": " ++ (faultOf (fs.unlink c.cwd (.ofString path))).wording
      changed c "" reason (fun fs => (fs.unlink c.cwd (.ofString path)).toOption) w
    | [] => misused c w 1 "missing operand"
    | _ :: extra :: _ => misused c w 1 ("extra operand " ++ named extra)

/-- The pairs of a source and what it becomes, or the outcome where there are none. -/
def transfers (c : Call) (w : World) (a : Arguments) : Except Outcome (List (String × String)) :=
  let into (kind directory : String) (sources : List String) : Except Outcome (List (String × String)) :=
    match standingAt w.files c.cwd true directory with
    | .directory => .ok (sources.map fun s => (s, FileChange.inside directory (FileChange.baseName s)))
    | .other => .error (refused c w 1 (kind ++ named directory ++ ": Not a directory"))
    | .nothing fault => .error (refused c w 1 (kind ++ named directory ++ ": " ++ fault.wording))
  let missing : Except Outcome (List (String × String)) := .error (misused c w 1 "missing file operand")
  match a.value? 't', a.operands.reverse with
  | _, [] => missing
  | some directory, _ => into "target directory " directory a.operands
  | none, [one] => .error (misused c w 1 ("missing destination file operand after " ++ named one))
  | none, [goal, source] =>
    if a.has 'T' ∨ !isDirectory w.files c.cwd (!a.has 'n' || !a.has 's') goal then .ok [(source, goal)]
    else into "target " goal [source]
  | none, goal :: sources =>
    if a.has 'T' then .error (misused c w 1 ("extra operand " ++ named ((a.operands[2]?).getD "")))
    else into "target " goal sources.reverse

/-- The name by which something is kept that another thing takes the place of: with a suffix, or with the next number
where numbers are asked for or there are some. -/
def backupName? (fs : FileSystem) (cwd : Location) (a : Arguments) (goal : String) : Option String :=
  let base := FileChange.withoutSlashes goal
  let numbers : List Nat :=
    match fs.resolve cwd .followed (.ofString (FileChange.directoryName goal)) with
    | .ok (.found loc _) =>
      (fs.names loc).filterMap fun name =>
        let start := FileChange.baseName goal ++ ".~"
        if start.isPrefixOf name ∧ name.toList.getLast? = some '~' then
          natural? ((name.toList.drop start.length).dropLast)
        else none
    | _ => []
  let next := base ++ ".~" ++ toString (numbers.foldl max 0 + 1) ++ "~"
  let simple := base ++ (a.value? 'S').getD "~"
  match (a.value? '\x02').getD "" with
  | "none" | "off" => none
  | "numbered" | "t" => some next
  | "simple" | "never" => some simple
  | _ => some (if numbers = [] then simple else next)

/-- How often a source may be named: not at all a second time, or with no more than a warning. -/
inductive Repetition where
  | refused
  | warned

/-- Makes transfers one after the other. What one of them has just made is not made again, and what stands there
is kept or backed up where the options say so. -/
def transferring (c : Call) (a : Arguments) (repetition : Repetition) (told : String → String → String)
    (transfer : String → String → World → Outcome) (w : World) (pairs : List (String × String)) : Outcome :=
  inTurn w ((List.range pairs.length).map fun i => fun w =>
    match pairs[i]? with
    | none => { world := w }
    | some (source, goal) =>
      let isThere := stands w.files c.cwd goal
      let before := pairs.take i
      let isAgain : Bool := match repetition with
        | .warned => (before.map (·.1)).contains source && stands w.files c.cwd source
        | .refused => false
      let isRepeated : Bool := (before.map (·.2)).contains goal && !isDirectory w.files c.cwd false goal &&
        stands w.files c.cwd source
      let backup :=
        if isThere ∧ (a.has 'b' || a.has 'S' || a.has '\x02') then backupName? w.files c.cwd a goal else none
      let isOlder : Bool := a.has 'u' && isThere &&
        match w.files.status c.cwd (.ofString source), w.files.status c.cwd (.ofString goal) with
        | .ok (x, .file _ _), .ok (y, .file _ _) =>
          decide ((w.stamp? x).getD w.clock ≤ (w.stamp? y).getD w.clock)
        | _, _ => false
      let act (w : World) : Outcome :=
        let w := match backup with
          | some name =>
            match FileChange.rename c.cwd goal name w.files with
            | some files => { w with files }
            | none => w
          | none => w
        let o := transfer source goal w
        let note := match backup with
          | some name => " (backup: " ++ named name ++ ")"
          | none => ""
        if a.has 'v' ∧ o.status = 0 then { o with output := octets (told source goal ++ note ++ "\n") } else o
      if isAgain then
        let kind := if isDirectory w.files c.cwd true source then "directory " else "file "
        { world := w
          complaints := [Call.complaint c ("warning: source " ++ kind ++ named source ++ " specified more than once")] }
      else if isRepeated then
        refused c w 1 ("will not overwrite just-created " ++ named goal ++ " with " ++ named source)
      else if isOlder then { world := w }
      else if isThere ∧ a.last? "fin" = some 'i' then asked c ("overwrite " ++ named goal) w act
      else if isThere ∧ a.last? "fin" = some 'n' then { world := w }
      else act w)

/-- What is told of a transfer. -/
def arrow (start source goal : String) : String := start ++ named source ++ " -> " ++ named goal

def cp : Work :=
  reading
    { letters := "abdfHilLnpPrRsTuvxZ", valued := "tS", optional := "\x01\x02"
      long := [("recursive", 'r'), ("archive", 'a'), ("force", 'f'), ("interactive", 'i'), ("link", 'l'),
        ("dereference", 'L'), ("no-clobber", 'n'), ("no-dereference", 'P'), ("preserve", 'p'), ("symbolic-link", 's'),
        ("suffix", 'S'), ("target-directory", 't'), ("no-target-directory", 'T'), ("update", 'u'),
        ("verbose", 'v'), ("one-file-system", 'x'), ("parents", '\x03'), ("backup", '\x02'), ("reflink", '\x01'),
        ("sparse", '\x01'), ("no-preserve", '\x01'), ("attributes-only", '\x04'), ("remove-destination", '\x05')] } 1
    fun c w a =>
    let recursive := a.has 'r' || a.has 'R' || a.has 'a'
    let keepsLinks := match a.last? "LPdaH" with
      | some letter => letter = 'P' || letter = 'd' || letter = 'a'
      | none => recursive
    let keeps := a.has 'p' || a.has 'a'
    let style : FileChange.Copying := { recursive, keepsLinks, keepsModes := keeps }
    /- The world in which a copy has the permissions of its source, if it is new or they are kept. -/
    let marked (source goal : String) (isNew : Bool) (w : World) : World :=
      match w.files.status c.cwd (.ofString source), w.files.status c.cwd (.ofString goal) with
      | .ok (loc, _), .ok (copy, _) => if loc ≠ copy ∧ (isNew ∨ keeps) then w.carry keeps loc copy else w
      | _, _ => w
    let copy (source goal : String) (w : World) : Outcome :=
      if a.has 's' ∧ source.toList.head? ≠ some '/' ∧ goal.toList.contains '/' then
        refused c w 1 (shownName goal ++ ": can make relative symbolic links only in current directory")
      else if a.has 's' ∨ a.has 'l' then
        let reason (fs : FileSystem) : String :=
          let fault := faultOf (fs.link c.cwd (.ofString goal) source)
          if a.has 's' then
            "cannot create symbolic link " ++ named goal ++ " to " ++ named source ++ ": " ++ fault.wording
          else match standingAt fs c.cwd true source with
            | .nothing fault => "cannot stat " ++ named source ++ ": " ++ fault.wording
            | .directory => "-r not specified; omitting directory " ++ named source
            | .other => "cannot create hard link " ++ named goal ++ " to " ++ named source ++ ": " ++ fault.wording
        changed c "" reason (FileChange.link c.cwd (a.has 's') (a.has 'f') source goal) w
      else
        let w := if a.has '\x05' ∧ stands w.files c.cwd goal then
          (changed c "" (fun _ => "") (FileChange.remove c.cwd false true false goal) w).world else w
        let isNew := !stands w.files c.cwd goal
        let omits := "-r not specified; omitting directory "
        let reason := whyNotCopied c.cwd recursive keepsLinks omits source goal w.files
        match FileChange.copyTo c.cwd style source goal w.files with
        | (some files, true) => { world := marked source goal isNew { w with files } }
        | (some files, false) => refused c (marked source goal isNew { w with files }) 1 reason
        | (none, _) => refused c w 1 reason
    match transfers c w { a with options := a.options.filter fun o => o.1 ≠ 'n' } with
    | .error o => o
    | .ok pairs =>
      if a.has '\x03' then
        let directory := ((a.value? 't').or a.operands.getLast?).getD ""
        let sources := if a.has 't' then a.operands else a.operands.dropLast
        if !isDirectory w.files c.cwd true directory then
          misused c w 1 "with --parents, the destination must be a directory"
        else inTurn w (sources.map fun source => fun w =>
          let goal := FileChange.inside directory source
          let above := FileChange.directoryName goal
          let begun := changed c "" (whyNotMade c.cwd true above) (FileChange.makeDirectory c.cwd true above) w
          begun.andThen (copy source goal))
      else transferring c a .warned (arrow "") copy w pairs

def mv : Work :=
  reading
    { letters := "bfinTuvZ", valued := "tS", optional := "\x02"
      long := [("force", 'f'), ("interactive", 'i'), ("no-clobber", 'n'), ("suffix", 'S'), ("target-directory", 't'),
        ("no-target-directory", 'T'), ("update", 'u'), ("verbose", 'v'), ("backup", '\x02'),
        ("strip-trailing-slashes", '\x03')] } 1 fun c w a =>
    match transfers c w { a with options := a.options.filter fun o => o.1 ≠ 'n' } with
    | .error o => o
    | .ok pairs =>
      let move (source goal : String) (w : World) : Outcome :=
        let place? (w : World) (path : String) : Option Location :=
          match w.files.resolve c.cwd .kept (.ofString (FileChange.withoutSlashes path)) with
          | .ok (.found loc _) => some loc
          | _ => none
        let o := changed c "" (whyNotMoved c.cwd source goal) (FileChange.move c.cwd source goal) w
        match place? w source, place? o.world goal with
        | some old, some new =>
          if o.status = 0 then { o with world := (o.world.carry true old new).settled } else o
        | _, _ => o
      transferring c a .refused (arrow "renamed ") move w pairs

def ln : Work :=
  reading
    { letters := "bdfFinrsTvLP", valued := "tS", optional := "\x02"
      long := [("symbolic", 's'), ("force", 'f'), ("interactive", 'i'), ("no-dereference", 'n'), ("relative", 'r'),
        ("suffix", 'S'), ("target-directory", 't'), ("no-target-directory", 'T'), ("verbose", 'v'),
        ("backup", '\x02'), ("logical", 'L'), ("physical", 'P'), ("directory", 'd')] } 1 fun c w a =>
    let single := a.operands.length = 1 ∧ !a.has 't'
    let forTransfers : Arguments :=
      { options := (a.options.filter fun o => o.1 ≠ 's') ++ (if a.has 'n' then [('s', "")] else [])
        operands := if single then a.operands ++ ["."] else a.operands }
    let force := a.has 'f' || a.has 'i' || a.has 'b' || a.has 'S' || a.has '\x02'
    match transfers c w forTransfers with
    | .error o => o
    | .ok pairs =>
      let make (source goal : String) (w : World) : Outcome :=
        let place (path : String) : Location := w.files.canonical c.cwd (.ofString path)
        let target := if a.has 'r' ∧ a.has 's' then
          Location.pathTo (place (FileChange.directoryName goal)) (place source) else source
        changed c "" (whyNotLinked c.cwd (a.has 's') force target goal)
          (FileChange.link c.cwd (a.has 's') force target goal) w
      let told (source goal : String) : String :=
        named goal ++ (if a.has 's' then " -> " else " => ") ++ named source
      transferring c { a with options := a.options.filter fun o => o.1 ≠ 'n' } .refused told make w pairs

/-- Gives a file a second name. -/
def link : Work :=
  reading { letters := "" } 1 fun c w a =>
    match a.operands with
    | [source, goal] =>
      let reason (fs : FileSystem) : String :=
        let wording := match standingAt fs c.cwd false source, standingAt fs c.cwd false goal with
          | .directory, _ => "Operation not permitted"
          | .nothing fault, _ | _, .nothing fault => fault.wording
          | _, _ => Fault.alreadyExists.wording
        "cannot create link " ++ named goal ++ " to " ++ named source ++ ": " ++ wording
      changed c "" reason (FileChange.link c.cwd false false source goal) w
    | [] => misused c w 1 "missing operand"
    | [one] => misused c w 1 ("missing operand after " ++ named one)
    | _ :: _ :: extra :: _ => misused c w 1 ("extra operand " ++ named extra)

/-- The mode among the arguments of `chmod`, what else they ask for, and the paths. A mode may look like options. -/
def modeArguments : List String → Option String × List Char × List String
  | [] => (none, [], [])
  | "--" :: rest => (none, [], rest)
  | arg :: rest =>
    let (mode, letters, paths) := modeArguments rest
    match arg.toList with
    | '-' :: '-' :: name =>
      if "reference=".toList.isPrefixOf name then (some (String.ofList name), 'r' :: letters, paths)
      else if name = "recursive".toList then (mode, 'R' :: letters, paths)
      else if name = "verbose".toList then (mode, 'v' :: letters, paths)
      else if name = "changes".toList then (mode, 'c' :: letters, paths)
      else if ["silent", "quiet", "no-preserve-root", "preserve-root"].contains (String.ofList name) then
        (mode, letters, paths)
      else (mode, '?' :: letters, paths)
    | '-' :: cs =>
      if cs ≠ [] ∧ cs.all "rwxXstugoa,+=01234567".toList.contains then (some arg, letters, paths)
      else if cs ≠ [] ∧ cs.all "Rcfv".toList.contains then (mode, cs ++ letters, paths)
      else (mode, '?' :: letters, paths)
    | _ => (mode, letters, arg :: paths)

def allBelow (fs : FileSystem) (loc : Location) : List Location :=
  (fs.entries.filter fun e => loc.isSuffixOf e.1).map (·.1)

def changePermissions (c : Call) (mode : String) (told : Char → Bool) (path : String) (w : World) : Outcome :=
  match w.files.status c.cwd (.ofString path) with
  | .error fault =>
    let isDangling := stands w.files c.cwd path
    let reason := if isDangling then "cannot operate on dangling symlink " ++ named path
      else "cannot access " ++ named path ++ ": " ++ fault.wording
    let line := if told 'v' then named path ++ " could not be accessed\n" else ""
    { refused c w 1 reason with
      output := octets line, complaints := if told 'f' then [] else [Call.complaint c reason] }
  | .ok (loc, node) =>
    let old := w.permissions loc node
    match Permission.change? mode (node = .directory) old with
    | none => { world := w, status := 1 }
    | some new =>
      let files := match node with
        | .file _ _ => (w.files.setExecutable c.cwd (.ofString path) (Permission.runs new)).toOption
        | _ => some w.files
      match files with
      | none => { world := w, status := 1 }
      | some files =>
        let shown (bits : Nat) : String := Permission.digits 4 bits ++ " (" ++ Permission.letters bits ++ ")"
        let line := if new = old then "mode of " ++ named path ++ " retained as " ++ shown new ++ "\n"
          else "mode of " ++ named path ++ " changed from " ++ shown old ++ " to " ++ shown new ++ "\n"
        let isTold := told 'v' || (told 'c' && new ≠ old)
        { world := ({ w with files } : World).withPermissions loc new, output := if isTold then octets line else [] }

def chmod : Work := fun c w args =>
  let (mode, letters, paths) := modeArguments args
  let reference := if letters.contains 'r' then mode.map fun m => String.ofList (m.toList.drop 10) else none
  let given : Except Fault (Option (String × List String)) := match reference, mode, paths with
    | some path, _, paths =>
      (w.files.status c.cwd (.ofString path)).map fun (loc, node) =>
        some (Permission.digits 3 (w.permissions loc node), paths)
    | none, some mode, paths => .ok (some (mode, paths))
    | none, none, mode :: paths => .ok (some (mode, paths))
    | none, none, [] => .ok none
  let unknown := args.find? fun a => a.toList.head? = some '-' && (modeArguments [a]).2.1.contains '?'
  match unknown, given with
  | some arg, _ =>
    match Options.read { letters := "Rcfv" } [arg] with
    | .error fault => misused c w 1 fault.message
    | .ok _ => { world := w, status := 1 }
  | none, .error fault =>
    refused c w 1 ("failed to get attributes of " ++ named (reference.getD "") ++ ": " ++ fault.wording)
  | none, .ok (some (mode, path :: more)) =>
    if (Permission.change? mode true 0).isNone then misused c w 1 ("invalid mode: " ++ named mode)
    else
      inTurn w ((path :: more).flatMap fun path =>
        let deep := match letters.contains 'R', w.files.status c.cwd (.ofString path) with
          | true, .ok (loc, .directory) =>
            ((allBelow w.files loc).filter (· ≠ loc)).map fun below =>
              FileChange.inside path ("/".intercalate (below.take (below.length - loc.length)).reverse)
          | _, _ => []
        (path :: deep).map (changePermissions c mode letters.contains))
  | none, .ok (some (mode, [])) => misused c w 1 ("missing operand after " ++ named mode)
  | none, .ok none => misused c w 1 "missing operand"

/-- Copies files, with a mode that makes them programs if no other one is given, or makes directories. -/
def install : Work :=
  reading
    { letters := "bcCdDpsTvZ", valued := "gmotS", optional := "\x02"
      long := [("directory", 'd'), ("mode", 'm'), ("group", 'g'), ("owner", 'o'), ("target-directory", 't'),
        ("no-target-directory", 'T'), ("verbose", 'v'), ("compare", 'C'), ("preserve-timestamps", 'p'),
        ("backup", '\x02'), ("suffix", 'S'), ("strip", 's')] } 1 fun c w a =>
    match Permission.change? ((a.value? 'm').getD "755") false 0 with
    | none => refused c w 1 ("invalid mode " ++ named ((a.value? 'm').getD ""))
    | some bits =>
      let executable := Permission.runs bits
      let marked (path : String) (o : Outcome) : Outcome :=
        match o.world.files.status c.cwd (.ofString path) with
        | .ok (loc, _) => if o.status = 0 then { o with world := o.world.withPermissions loc bits } else o
        | .error _ => o
      if a.has 'd' then
        if a.operands = [] then misused c w 1 "missing file operand"
        else inTurn w (a.operands.map fun path => fun w =>
          let o := changed c "" (whyNotMade c.cwd true path) (FileChange.makeDirectory c.cwd true path) w
          marked path o)
      else
        let above := match a.value? 't', a.operands with
          | some directory, _ => [directory]
          | none, [_, goal] => if isDirectory w.files c.cwd true goal then [] else [FileChange.directoryName goal]
          | none, _ => []
        let made (w : World) (path : String) : World :=
          (changed c "" (whyNotMade c.cwd true path) (FileChange.makeDirectory c.cwd true path) w).world
        let w := if a.has 'D' then above.foldl made w else w
        let put (source goal : String) (w : World) : Outcome :=
          let reason := whyNotCopied c.cwd false false "omitting directory " source goal
          let content : Option (Location × Bytes) := match w.files.status c.cwd (.ofString source) with
            | .ok (loc, .file bytes _) => some (loc, bytes)
            | .ok (loc, .device kind) => some (loc, kind.bytes)
            | _ => none
          let isSame : Bool := match content, w.files.resolve c.cwd .kept (.ofString goal) with
            | some (loc, _), .ok (.found other _) => other = loc
            | _, _ => false
          match content, isSame with
          | some (_, bytes), false =>
            marked goal <| changed c "" reason (fun fs =>
              match fs.resolve c.cwd .kept (.ofString goal) with
              | .ok (.found (name :: parent) node) =>
                if node = .directory then none
                else some ((fs.remove (name :: parent)).place parent name (.file bytes executable))
              | .ok (.missing parent name) =>
                if goal.toList.getLast? = some '/' then none else some (fs.place parent name (.file bytes executable))
              | _ => none) w
          | _, _ => refused c w 1 (reason w.files)
        match transfers c w a with
        | .ok pairs => transferring c a .refused (arrow "") put w pairs
        | .error o => o

def users : List String :=
  ["root", "daemon", "bin", "sys", "games", "man", "mail", "nobody", "nogroup", "www-data", "backup", "staff", "users",
    "adm", "tty", "disk", "sudo"]

def isKnownOwner (cs : List Char) : Bool := cs = [] || cs.all Char.isDigit || users.contains (String.ofList cs)

/-- What is wrong with the text of a user and a group, of which one may be missing. -/
def ownerFault? (isGroup : Bool) (text : String) : Option String :=
  let cs := text.toList
  let user := cs.takeWhile (· ≠ ':')
  if isGroup then (if isKnownOwner cs then none else some ("invalid group: " ++ named text))
  else if !isKnownOwner user then some ("invalid user: " ++ named text)
  else if !isKnownOwner (cs.drop (user.length + 1)) then some ("invalid group: " ++ named text)
  else none

def chown (isGroup : Bool) : Work :=
  reading
    { letters := "cfhvRHLP", long := [("recursive", 'R'), ("no-dereference", 'h'), ("verbose", 'v')] } 1 fun c w a =>
    match a.operands with
    | owner :: path :: more =>
      let one (p : String) (w : World) : Outcome :=
        match standingAt w.files c.cwd (!a.has 'h') p with
        | .nothing fault =>
          if a.has 'f' then { world := w, status := 1 }
          else refused c w 1 ("cannot access " ++ named p ++ ": " ++ fault.wording)
        | _ => { world := w }
      match ownerFault? isGroup owner with
      | some text => refused c w 1 text
      | none => inTurn w ((path :: more).map one)
    | [] => misused c w 1 "missing operand"
    | [owner] => misused c w 1 ("missing operand after " ++ named owner)

/-- The change of a size that a text with a sign before a number asks for. -/
def newSize? (text : String) (old : Nat) : Option Nat :=
  let cs := text.toList.dropWhile (· = ' ')
  let apply (sign : Char) (n : Nat) : Option Nat :=
    match sign with
    | '+' => some (old + n)
    | '-' => some (old - n)
    | '<' => some (min old n)
    | '>' => some (max old n)
    | '/' => if n = 0 then none else some (old / n * n)
    | '%' => if n = 0 then none else some ((old + n - 1) / n * n)
    | _ => some n
  match cs with
  | sign :: rest => do
    let signed := "+-<>/%".toList.contains sign
    apply (if signed then sign else '=') (← size? (String.ofList (if signed then rest else cs)))
  | [] => none

/-- Bytes with a new size: cut, or with zeros at the end. -/
def resized (bytes : Bytes) (size : Nat) : Bytes := bytes.take size ++ List.replicate (size - bytes.length) 0

theorem length_resized (bytes : Bytes) (size : Nat) : (resized bytes size).length = size := by
  simp only [resized, List.length_append, List.length_take, List.length_replicate]
  omega

/-- How many octets a file is made long at most. -/
def maxSize : Nat := Nat.pow 2 22

def truncate : Work :=
  reading
    { letters := "co", valued := "rs"
      long := [("no-create", 'c'), ("io-blocks", 'o'), ("reference", 'r'), ("size", 's')] } 1 fun c w a =>
    let reference : Option (Option Nat) := (a.value? 'r').map fun path =>
      match w.files.status c.cwd (.ofString path) with
      | .ok (_, .file bytes _) => some bytes.length
      | .ok _ => some 0
      | .error _ => none
    let size (old : Nat) : Option Nat :=
      match reference, a.value? 's' with
      | none, none | some none, _ => none
      | some (some base), none => some base
      | some (some base), some text =>
        if (text.toList.head?).any "+-<>/%".toList.contains then newSize? text base else none
      | none, some text => newSize? text old
    let text := (a.value? 's').getD ""
    if !a.has 's' ∧ !a.has 'r' then misused c w 1 "you must specify either '--size' or '--reference'"
    else if reference = some none then
      refused c w 1 ("cannot stat " ++ named ((a.value? 'r').getD "") ++ ": No such file or directory")
    else if (size 0).isNone then
      let isZero := text = "/0" ∨ text = "%0"
      refused c w 1 (if isZero then "division by zero" else "Invalid number: " ++ named text)
    else if a.operands = [] then misused c w 1 "missing file operand"
    else inTurn w (a.operands.map fun path => fun w =>
      let old := match w.files.status c.cwd (.ofString path) with
        | .ok (_, .file bytes _) => some bytes
        | _ => none
      let reason (fs : FileSystem) : String :=
        "cannot open " ++ named path ++ " for writing: " ++ (whyNotWritten c.cwd path fs).wording
      match old, size (old.getD []).length with
      | none, some n =>
        if a.has 'c' ∧ !stands w.files c.cwd path then { world := w }
        else changed c "" reason (fun fs => (fs.write c.cwd (.ofString path) (resized [] (min n maxSize))).toOption) w
      | some bytes, some n =>
        changed c "" reason (fun fs => (fs.write c.cwd (.ofString path) (resized bytes (min n maxSize))).toOption) w
      | _, none => { world := w, status := 1 })

/-- A template with the run of letters `X` that comes last in it replaced by a number. -/
def filledIn (template : List Char) (n : Nat) : Option (List Char) :=
  let after := template.reverse.takeWhile (· ≠ 'X')
  let rest := template.reverse.drop after.length
  let marks := rest.takeWhile (· = 'X')
  let ds := Nat.toDigits 10 n
  if marks.length < 3 then none
  else
    some ((rest.drop marks.length).reverse ++ List.replicate (marks.length - ds.length) '0' ++
      ds.drop (ds.length - marks.length) ++ after.reverse)

def mktemp : Work :=
  reading
    { letters := "dqtu", valued := "p\x01", optional := "\x02"
      long := [("directory", 'd'), ("quiet", 'q'), ("dry-run", 'u'), ("suffix", '\x01'), ("tmpdir", '\x02')] } 1
    fun c w a =>
    let suffix := (a.value? '\x01').getD ""
    let environment := (c.env.get? "TMPDIR").filter (· ≠ "")
    let isPlaced := a.operands = [] || a.has 't' || a.has 'p' || a.has '\x02'
    let directory := ((a.value? 'p').or ((a.value? '\x02').filter (· ≠ ""))).or environment
    let template := (a.operands.head?).getD "tmp.XXXXXXXXXX" ++ suffix
    let path (n : Nat) : Option String := (filledIn template.toList n).map fun cs =>
      if isPlaced then FileChange.inside (directory.getD "/tmp") (String.ofList cs) else String.ofList cs
    let free := (List.range (w.files.entries.length + 1)).find? fun n =>
      (path n).all fun p => !stands w.files c.cwd p
    match free.bind path with
    | some p =>
      let make (w : World) : Outcome :=
        let given := if isPlaced then FileChange.inside (directory.getD "/tmp") template else template
        let reason (kind : String) (fault : Fault) : String :=
          "failed to create " ++ kind ++ " via template " ++ named given ++ ": " ++ fault.wording
        if a.has 'u' then { world := w }
        else if a.has 'd' then
          let fault (fs : FileSystem) : Fault := faultOf (fs.makeDirectory c.cwd (.ofString p))
          changed c "" (fun fs => reason "directory" (fault fs)) (FileChange.makeDirectory c.cwd false p) w
        else changed c "" (fun fs => reason "file" (whyNotWritten c.cwd p fs))
          (fun fs => (fs.write c.cwd (.ofString p) []).toOption) w
      let o := make w
      if 1 < a.operands.length then misused c w 1 "too many templates"
      else if a.has 'q' then
        { o with output := if o.status = 0 then octets (p ++ "\n") else [], complaints := [] }
      else { o with output := if o.status = 0 then octets (p ++ "\n") else [] }
    | none => refused c w 1 ("too few X's in template " ++ named template)

end SbtWorkspace.Simulation.Utility
