import SbtWorkspace.FileSystem.Canonical
import SbtWorkspace.Simulation.Utility.Clock
import SbtWorkspace.Simulation.Utility.Reason

/-! Programs that tell about paths: their parts, where they lead, and what stands there. -/

namespace SbtWorkspace.Simulation.Utility

def ofTexts (isZero : Bool) (texts : List String) : Bytes :=
  texts.flatMap fun t => octets t ++ [if isZero then 0 else 0x0a]

def withoutSuffix (suffix name : String) : String :=
  let (s, n) := (suffix.toList, name.toList)
  if s.isSuffixOf n ∧ s ≠ n then String.ofList (n.take (n.length - s.length)) else name

def basename : Work :=
  reading { letters := "az", valued := "s", isFirst := true
            long := [("multiple", 'a'), ("suffix", 's'), ("zero", 'z')] } 1 fun c w a =>
    let name (path : String) : String := FileChange.baseName path
    if a.operands = [] then misused c w 1 "missing operand"
    else if a.has 'a' ∨ a.has 's' then
        let suffix := (a.value? 's').getD ""
        { world := w, output := ofTexts (a.has 'z') (a.operands.map fun p => withoutSuffix suffix (name p)) }
    else
      match a.operands with
      | [path] => { world := w, output := ofTexts (a.has 'z') [name path] }
      | [path, suffix] => { world := w, output := ofTexts (a.has 'z') [withoutSuffix suffix (name path)] }
      | operands => misused c w 1 ("extra operand " ++ named ((operands[2]?).getD ""))

/-- Writes paths without their last names. -/
def dirname : Work :=
  reading { letters := "z", long := [("zero", 'z')] } 1 fun c w a =>
    if a.operands = [] then misused c w 1 "missing operand"
    else { world := w, output := ofTexts (a.has 'z') (a.operands.map FileChange.directoryName) }

/-- What has to stand on the way of a path. -/
inductive Presence where
  | all
  | allButLast
  | nothing

def location? (fs : FileSystem) (cwd : Location) (needed : Presence) (path : String) : Option Location :=
  let route := Route.ofString path
  if path = "" then none
  else
    match needed with
    | .nothing => some (fs.canonical cwd route)
    | .all => (fs.status cwd route).toOption.map (·.1)
    | .allButLast =>
      match fs.resolve cwd .followed route with
      | .ok (.found loc _) => some loc
      | .ok (.missing parent name) => some (name :: parent)
      | .error _ => none

def realpath : Work :=
  reading
    { letters := "eELmPqsz", valued := "\x01\x02"
      long := [("canonicalize-existing", 'e'), ("canonicalize-missing", 'm'), ("relative-to", '\x01'),
        ("relative-base", '\x02'), ("strip", 's'), ("no-symlinks", 's'), ("quiet", 'q'), ("zero", 'z'),
        ("logical", 'L'), ("physical", 'P')] } 1 fun c w a =>
    let needed : Presence := match a.last? "emE" with
      | some 'e' => .all
      | some 'm' => .nothing
      | _ => .allButLast
    let find (path : String) : Option Location :=
      if a.has 's' then
        let route := Route.ofString path
        let loc := FileSystem.lexical (if route.isAbsolute then [] else c.cwd) route.steps
        (location? w.files c.cwd needed path).map fun _ => loc
      else location? w.files c.cwd needed path
    let goal := (a.value? '\x01').map find
    let base := (a.value? '\x02').map find
    let fault (path : String) : Fault := match standingAt w.files c.cwd true path with
      | .nothing fault => fault
      | _ => .notDirectory
    if a.operands = [] then misused c w 1 "missing operand"
    else if goal = some none ∨ base = some none then
      let path := ((if goal = some none then a.value? '\x01' else a.value? '\x02')).getD ""
      refused c w 1 (unreadable path (fault path))
    else
      let start := goal.join.or base.join
      let shown (loc : Location) : String :=
        let isInside := base.join.all fun b => b.isSuffixOf loc
        match start, isInside with
        | some start, true => Location.pathTo start loc
        | _, _ => loc.render
      inTurn w (a.operands.map fun path => fun w =>
        match find path with
        | some loc => { world := w, output := ofTexts (a.has 'z') [shown loc] }
        | none =>
          if a.has 'q' then { world := w, status := 1 } else refused c w 1 (unreadable path (fault path)))

def readlink : Work :=
  reading
    { letters := "efmnqsvz"
      long := [("canonicalize", 'f'), ("canonicalize-existing", 'e'), ("canonicalize-missing", 'm'),
        ("no-newline", 'n'), ("quiet", 'q'), ("silent", 's'), ("verbose", 'v'), ("zero", 'z')] } 1 fun c w a =>
    let find (path : String) : Option String :=
      match a.last? "efm" with
      | some 'e' => (location? w.files c.cwd .all path).map Location.render
      | some 'f' => (location? w.files c.cwd .allButLast path).map Location.render
      | some _ => (location? w.files c.cwd .nothing path).map Location.render
      | none =>
        match w.files.resolve c.cwd .kept (.ofString path) with
        | .ok (.found _ (.link target)) => some target
        | _ => none
    let isLast := a.has 'n' && a.operands.length = 1
    if a.operands = [] then misused c w 1 "missing operand"
    else inTurn w (a.operands.map fun path => fun w =>
      match find path with
      | some text => { world := w, output := if isLast then octets text else ofTexts (a.has 'z') [text] }
      | none =>
        let wording := match standingAt w.files c.cwd false path with
          | .nothing fault => fault.wording
          | _ => "Invalid argument"
        if a.last? "vqs" = some 'v' then refused c w 1 (shownName path ++ ": " ++ wording)
        else { world := w, status := 1 })

/-- What stands at a path, without a last link being followed. -/
def standing? (fs : FileSystem) (cwd : Location) (path : String) : Option (Location × Node) :=
  match fs.resolve cwd .kept (.ofString path) with
  | .ok (.found loc node) => some (loc, node)
  | _ => none

def nodeMark (onlyDirectories : Bool) : Node → String
  | .directory => "/"
  | .link _ => if onlyDirectories then "" else "@"
  | .file _ true => if onlyDirectories then "" else "*"
  | _ => ""

def nodeSize : Node → Nat
  | .file bytes _ => bytes.length
  | .link target => target.utf8ByteSize
  | .directory => 4096
  | .sealed | .device _ => 0

def kindLetter : Node → Char
  | .directory => 'd'
  | .file _ _ | .sealed => '-'
  | .link _ => 'l'
  | .device _ => 'c'

def kindBits : Node → Nat
  | .directory => 0o040000
  | .file _ _ | .sealed => 0o100000
  | .link _ => 0o120000
  | .device _ => 0o020000

def nodeBlocks : Node → Nat
  | .file bytes _ => (bytes.length + 4095) / 4096 * 4
  | .directory => 4
  | _ => 0

/-- How many names what stands at a location has: a directory has one in each directory in it. -/
def nodeLinks (fs : FileSystem) (loc : Location) (node : Node) : Nat :=
  match node with
  | .directory => 2 + ((fs.names loc).filter fun n => fs.lookup (n :: loc) = some .directory).length
  | _ => 1

def nodeNumber (fs : FileSystem) (loc : Location) : Nat :=
  1000 + ((fs.entries.findIdx? fun e => e.1 = loc).getD 0)

def nodeLetters (w : World) (loc : Location) (node : Node) : String :=
  String.ofList [kindLetter node] ++ Permission.letters (w.permissions loc node)

def unescaped : (fuel : Nat) → List Char → List Char
  | 0, cs => cs
  | _, [] => []
  | fuel + 1, '\\' :: c :: rest =>
    if c = 'x' then
      match Printing.hexadecimalDigits? 2 rest with
      | some (n, rest) => Char.ofNat n :: unescaped fuel rest
      | none => '\\' :: 'x' :: unescaped fuel rest
    else if Printing.isOctal c then
      let (ds, rest) := Printing.octalDigits (c :: rest)
      Char.ofNat (Printing.octal ds) :: unescaped fuel rest
    else (if c = '"' then '"' else (Printing.escaped? c).getD c) :: unescaped fuel rest
  | fuel + 1, c :: rest => c :: unescaped fuel rest

def fact (w : World) (path : String) (loc : Location) (node : Node) (letter : Char) : String :=
  let bits := w.permissions loc node
  let time := (w.stamp? loc).getD w.clock
  let seconds := toString (time / Clock.second)
  let shown := String.ofList (Clock.render time 200 "%Y-%m-%d %H:%M:%S.%N %z".toList)
  match letter with
  | 'n' => path
  | 's' => toString (nodeSize node)
  | 'a' => Permission.digits 1 bits
  | 'A' => nodeLetters w loc node
  | 'b' => toString (nodeBlocks node * 2)
  | 'B' => "512"
  | 'd' => "2049"
  | 'D' => "801"
  | 'f' => String.ofList (Nat.toDigits 16 (kindBits node + bits))
  | 'F' => nodeKind node
  | 'h' => toString (nodeLinks w.files loc node)
  | 'i' => toString (nodeNumber w.files loc)
  | 'm' => "/"
  | 'o' => "4096"
  | 'N' =>
    match node with
    | .link target => "'" ++ path ++ "' -> '" ++ target ++ "'"
    | _ => "'" ++ path ++ "'"
  | 't' | 'T' => "0"
  | 'u' | 'g' => "0"
  | 'U' | 'G' => "root"
  | 'x' | 'y' | 'z' => shown
  | 'X' | 'Y' | 'Z' => seconds
  | 'w' => "-"
  | 'W' => "0"
  | '%' => "%"
  | _ => "?"

/-- A format with the facts about what stands at a location put in. -/
def statText (w : World) (path : String) (loc : Location) (node : Node) : (fuel : Nat) → List Char → String
  | 0, _ | _, [] => ""
  | fuel + 1, '%' :: rest =>
    let flags := rest.takeWhile "-0#+ ".toList.contains
    let after := rest.drop flags.length
    let digits := after.takeWhile Char.isDigit
    let after := after.drop digits.length
    let (precision, after) : Option Nat × List Char := match after with
      | '.' :: more =>
        let ds := more.takeWhile Char.isDigit
        (some ((natural? ds).getD 0), more.drop ds.length)
      | _ => (none, after)
    match after with
    | [] => "%"
    | c :: rest =>
      let text := fact w path loc node c
      let text := match precision with
        | some n => if "sUGnNF".toList.contains c then String.ofList (text.toList.take n) else text
        | none => text
      let text := if flags.contains '#' ∧ c = 'a' then "0" ++ text else text
      let gap := List.replicate ((natural? digits).getD 0 - text.length) (if flags.contains '0' then '0' else ' ')
      (if flags.contains '-' then text ++ String.ofList gap else String.ofList gap ++ text) ++
        statText w path loc node fuel rest
  | fuel + 1, c :: rest => c.toString ++ statText w path loc node fuel rest

def fullFacts (node : Node) : String :=
  let name := match node with
    | .link target => "%n -> " ++ target
    | _ => "%n"
  "  File: " ++ name ++ "\n  Size: %-10s\tBlocks: %-10b IO Block: %-6o %F\nDevice: 8,1\tInode: %-11i Links: %h\n" ++
    "Access: (%04a/%10.10A)  Uid: (%5u/%8U)   Gid: (%5g/%8G)\nAccess: %x\nModify: %y\nChange: %z\n Birth: %w\n"

/-- Tells what stands at paths. -/
def stat : Work :=
  reading
    { letters := "fLt", valued := "c\x01"
      long := [("format", 'c'), ("printf", '\x01'), ("dereference", 'L'), ("terse", 't'), ("file-system", 'f')] } 1
    fun c w a =>
    let find (path : String) : Option (String × Location × Node) :=
      if a.has 'L' then (w.files.status c.cwd (.ofString path)).toOption.map fun f => (path, f.1, f.2)
      else (standing? w.files c.cwd path).map fun f => (path, f.1, f.2)
    let shown (e : String × Location × Node) : Bytes :=
      let (path, loc, node) := e
      let filled (form : List Char) : Bytes := octets (statText w path loc node (form.length + 1) form)
      match a.value? 'c', a.value? '\x01' with
      | some form, _ => filled form.toList ++ [0x0a]
      | none, some form => filled (unescaped (form.length + 1) form.toList)
      | none, none =>
        filled (if a.has 't' then "%n %s %b %f %u %g %D %i %h %t %T %X %Y %Z %W %o\n" else fullFacts node).toList
    if a.operands = [] then misused c w 1 "missing operand"
    else inTurn w (a.operands.map fun path => fun w =>
      match find path with
      | some found => { world := w, output := shown found }
      | none =>
        let fault := match standingAt w.files c.cwd (a.has 'L') path with
          | .nothing fault => fault
          | _ => .noEntry
        refused c w 1 ("cannot statx " ++ named path ++ ": " ++ fault.wording))

end SbtWorkspace.Simulation.Utility
