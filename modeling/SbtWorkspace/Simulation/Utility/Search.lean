import SbtWorkspace.Simulation.Pattern
import SbtWorkspace.Simulation.Regex.Reader
import SbtWorkspace.Simulation.Utility.Lines

/-! The search for lines that an expression fits. Lines are chosen first; what is shown of them, and of those around
them, comes after. -/

namespace SbtWorkspace.Simulation.Utility

structure Search where
  expression : Regex
  folds : Bool
  wholeLine : Bool
  wholeWord : Bool
  negated : Bool

/-- Where the expression fits in a line. -/
def Search.places (s : Search) (line : List Char) : List (Nat × Nat) :=
  let subject : Regex.Subject := { text := line.toArray, folds := s.folds }
  let isWanted (first last : Nat) : Bool :=
    if s.wholeLine then first = 0 && last = line.length
    else !s.wholeWord || (!subject.isWordBefore first && !subject.isWordAt last)
  ((s.expression.searchAll subject isWanted (line.length + 2) 0).map fun f => (f.1, f.2.1))

def Search.chooses (s : Search) (line : List Char) : Bool :=
  let subject : Regex.Subject := { text := line.toArray, folds := s.folds }
  let isWanted (first last : Nat) : Bool :=
    if s.wholeLine then first = 0 && last = line.length
    else !s.wholeWord || (!subject.isWordBefore first && !subject.isWordAt last)
  (s.expression.searchFor subject isWanted 0).isSome != s.negated

/-- Whether an expression is the name of a class without the brackets of a list around it. -/
def isBareClass (cs : List Char) : Bool :=
  cs.head? = some '[' && cs[1]? = some ':' && cs.getLast? = some ']' && cs.dropLast.getLast? = some ':'

def searchFault (form : Option Regex.Form) (texts : List (List Char)) : String :=
  let f := form.getD .basic
  match (texts.flatMap (List.splitOn '\n')).find? fun cs => isBareClass cs || (Regex.read? f cs).isNone with
  | some cs => Regex.fault f cs
  | none => ""

/-- The expression that texts are written for, each of which may hold several ones on lines of their own. -/
def searched? (form : Option Regex.Form) (texts : List (List Char)) : Option Regex := do
  let each ← (texts.flatMap (List.splitOn '\n')).mapM fun cs =>
    match form with
    | some f =>
      if isBareClass cs then none else Regex.read? f cs
    | none => some (Regex.literal cs)
  match each.reverse with
  | [] => none
  | last :: before => pure (before.foldl (fun r s => .either s r) last)

/-- A line of a file: its number, the place of its first octet, whether it is chosen, and what it holds. -/
structure FoundLine where
  number : Nat
  offset : Nat
  isChosen : Bool
  text : List Char

/-- The lines of a text by a mark at their ends, of which so many are chosen at most. -/
def Search.linesOf (s : Search) (mark : UInt8) (most : Option Nat) (text : Bytes) : List FoundLine :=
  let step (done : List FoundLine × Nat × Nat × Nat) (line : Bytes) : List FoundLine × Nat × Nat × Nat :=
    let (found, number, offset, count) := done
    let cs := Octets.toChars (if line.getLast? = some mark then line.dropLast else line)
    let isChosen := most.all (count < ·) && s.chooses cs
    (⟨number, offset, isChosen, cs⟩ :: found, number + 1, offset + line.length, if isChosen then count + 1 else count)
  ((linesBy mark text).foldl step ([], 1, 0, 0)).1.reverse

structure Shown where
  named : Bool
  numbered : Bool
  placed : Bool
  partsOnly : Bool
  before : Nat
  after : Nat

def Shown.label (f : Shown) (path : List Char) (l : FoundLine) (offset : Nat) (mark : Char) : List Char :=
  (if f.named then path ++ [mark] else []) ++
    (if f.numbered then Nat.toDigits 10 l.number ++ [mark] else []) ++
    (if f.placed then Nat.toDigits 10 offset ++ [mark] else [])

def Shown.rows (f : Shown) (s : Search) (path : List Char) (found : List FoundLine) : List (List Char) :=
  if f.partsOnly then
    (found.filter (·.isChosen)).flatMap fun l =>
      if s.negated then []
      else ((s.places l.text).filter fun p => p.1 < p.2).map fun (first, last) =>
        f.label path l (l.offset + first) ':' ++ (l.text.take last).drop first
  else
    let chosen := (found.filter (·.isChosen)).map (·.number)
    let isNear (n : Nat) : Bool := chosen.any fun m => m ≤ n + f.before && n ≤ m + f.after
    let near := found.filter fun l => isNear l.number
    let step (done : List (List Char) × Option Nat) (l : FoundLine) : List (List Char) × Option Nat :=
      let gap : List (List Char) := match done.2 with
        | some n => if n + 1 < l.number ∧ 0 < f.before + f.after then [['-', '-']] else []
        | none => []
      (done.1 ++ gap ++ [f.label path l l.offset (if l.isChosen then ':' else '-') ++ l.text], some l.number)
    (near.foldl step ([], none)).1

/-- Which files are searched of those that are found. -/
structure Selection where
  included : List String := []
  excluded : List String := []
  excludedDirectories : List String := []

def fitsName (name pattern : String) : Bool :=
  (Pattern.ofOctets (pattern.toList.map (·, false))).isMatch (Octets.ofString name)

/-- Whether a file of a name is searched. -/
def Selection.takes (s : Selection) (name : String) : Bool :=
  (s.included = [] || s.included.any (fitsName name)) && !s.excluded.any (fitsName name)

def filesBelow (s : Selection) (fs : FileSystem) : (depth : Nat) → Location → (path : String) → List String
  | 0, _, _ => []
  | depth + 1, loc, path =>
    (fs.names loc).flatMap fun name =>
      let shown := if path = "" then name else FileChange.inside path name
      match fs.lookup (name :: loc) with
      | some .directory =>
        if s.excludedDirectories.any (fitsName name) then [] else filesBelow s fs depth (name :: loc) shown
      | some (.file _ _) => if s.takes name then [shown] else []
      | _ => []

def maxDirectories : Nat := 100

def searchOptions : Options :=
  { letters := "EFGPHLZabchilnoqrRsUvwxyz", valued := "efmABCdD\x02\x03\x04\x06", optional := "\x01", digits := some 'C'
    long := [("extended-regexp", 'E'), ("fixed-strings", 'F'), ("basic-regexp", 'G'), ("perl-regexp", 'P'),
      ("regexp", 'e'), ("file", 'f'), ("ignore-case", 'i'), ("invert-match", 'v'), ("word-regexp", 'w'),
      ("line-regexp", 'x'), ("count", 'c'), ("files-without-match", 'L'), ("files-with-matches", 'l'),
      ("max-count", 'm'), ("only-matching", 'o'), ("quiet", 'q'), ("silent", 'q'), ("no-messages", 's'),
      ("byte-offset", 'b'), ("with-filename", 'H'), ("no-filename", 'h'), ("line-number", 'n'), ("null", 'Z'),
      ("after-context", 'A'), ("before-context", 'B'), ("context", 'C'), ("text", 'a'), ("recursive", 'r'),
      ("dereference-recursive", 'R'), ("null-data", 'z'), ("color", '\x01'), ("colour", '\x01'),
      ("include", '\x02'), ("exclude", '\x03'), ("exclude-dir", '\x04'), ("directories", 'd'),
      ("no-ignore-case", '\x05'), ("line-buffered", '\x05'), ("initial-tab", '\x05'), ("binary-files", '\x06'),
      ("label", '\x06')] }

/-- What is found in the files that are searched, and how it is told. -/
structure Searching where
  search : Search
  shown : Shown
  arguments : Arguments
  most : Option Nat

/-- What is told of a text by its name, and whether something counts as found in it. -/
def Searching.text (s : Searching) (path : String) (text : Bytes) : Bytes × Bool :=
  let a := s.arguments
  let mark : UInt8 := if a.has 'z' then 0 else 0x0a
  let name := Octets.ofString (if path = "-" then (a.value? '\x06').getD "(standard input)" else path)
  let found := s.search.linesOf mark s.most text
  let isFound := found.any (·.isChosen)
  let line (cs : List Char) : Bytes := Octets.ofChars cs ++ [mark]
  let nameLine : Bytes := Octets.ofChars name ++ [if a.has 'Z' then 0 else 0x0a]
  if a.has 'q' then ([], isFound)
  else if a.has 'l' then (if isFound then nameLine else [], isFound)
  else if a.has 'L' then (if isFound then [] else nameLine, !isFound)
  else if a.has 'c' then
    let count := Nat.toDigits 10 (found.countP (·.isChosen))
    (Octets.ofChars ((if s.shown.named then name ++ [if a.has 'Z' then '\x00' else ':'] else []) ++ count ++ ['\n']),
      isFound)
  else if text.contains 0 ∧ !a.has 'a' ∧ !a.has 'z' then ([], isFound)
  else ((s.shown.rows s.search name found).flatMap line, isFound)

def Searching.isBinary (s : Searching) (text : Bytes) : Bool :=
  let a := s.arguments
  text.contains 0 && !"aqlLcz".toList.any a.has

def grep (form : Option Regex.Form) : Work :=
  fun c w args =>
  let hint (text : String) : Outcome :=
    { world := w, status := 2
      complaints := [{ text := text ++ "Usage: " ++ c.name ++ " [OPTION]... PATTERNS [FILE]...\nTry '" ++ c.name ++
        " --help' for more information.\n" }] }
  match searchOptions.read args with
  | .error fault => hint (c.name ++ ": " ++ fault.message ++ "\n")
  | .ok a =>
    let form := match a.last? "EFGP" with
      | some 'E' => some .lenient
      | some 'P' => some .digits
      | some 'F' => none
      | some _ => some .basic
      | none => form
    let listed := (a.values 'f').map fun path => (path, (w.readFile c (if path = "-" then "/dev/stdin" else path)))
    let missing : Option (String × Fault) := listed.findSome? fun (path, text) => match text with
      | .ok _ => none
      | .error fault => some (path, fault)
    let listed := listed.flatMap fun (_, text) => (text.map fun t => rows t.2).toOption.getD []
    let given := (a.values 'e').map Octets.ofString
    let isGiven := a.has 'e' || a.has 'f'
    let (texts, paths) := match isGiven, a.operands with
      | true, paths => (some (given ++ listed), paths)
      | false, pattern :: paths => (some [Octets.ofString pattern], paths)
      | false, [] => (none, [])
    let count (letter : Char) : Option (Option Nat) :=
      match a.value? letter with
      | some text => (natural? text.toList).map some
      | none => some none
    let context (letter : Char) : Outcome :=
      refused c w 2 ((a.value? letter).getD "" ++ ": invalid context length argument")
    match texts, count 'm', count 'A', count 'B', count 'C' with
    | some texts, some most, some after, some before, some around =>
      let expression := if texts = [] then some (Regex.one false []) else searched? form texts
      match missing, expression with
      | some (path, fault), _ => refused c w 2 (path ++ ": " ++ fault.wording)
      | none, none => refused c w 2 (searchFault form texts)
      | none, some expression =>
        let search : Search :=
          { expression, folds := a.has 'i' || a.has 'y', wholeLine := a.has 'x', wholeWord := a.has 'w'
            negated := a.has 'v' }
        let isDeep := a.has 'r' || a.has 'R' || a.value? 'd' = some "recurse"
        let start := if paths = [] ∧ isDeep then ["."] else paths
        let selection : Selection :=
          { included := a.values '\x02', excluded := a.values '\x03', excludedDirectories := a.values '\x04' }
        let expanded := start.flatMap fun path =>
          match w.files.status c.cwd (.ofString path) with
          | .ok (loc, .directory) =>
            if isDeep then filesBelow selection w.files maxDirectories loc (if paths = [] then "" else path)
            else if a.value? 'd' = some "skip" then [] else [path]
          | .ok _ => if selection.takes (FileChange.baseName path) then [path] else []
          | .error _ => [path]
        let isNamed : Bool := match a.last? "hH" with
          | some letter => letter = 'H'
          | none => 1 < paths.length || isDeep
        let shown : Shown :=
          { named := isNamed, numbered := a.has 'n', placed := a.has 'b', partsOnly := a.has 'o'
            before := (before.or around).getD 0, after := (after.or around).getD 0 }
        let s : Searching := { search, shown, arguments := a, most }
        let names := if start = [] then ["-"] else expanded
        let (world, found) := if names = [] then (w, []) else contents c w names
        let isOutput (path : String) : Bool := match w.files.status c.cwd (.ofString path), c.sink? 1 with
          | .ok (loc, _), some (.file out) => loc = out && path ≠ "-" && !"qlLc".toList.any a.has && most ≠ some 1
          | _, _ => false
        let complaint (path text : String) : List Complaint :=
          if a.has 's' then [] else [Call.complaint c (path ++ ": " ++ text)]
        let (o, any) := (names.zip found).foldl
          (fun (done : Outcome × Bool) (path, text) =>
            if a.has 'q' ∧ done.2 then done
            else
              match text with
              | .error fault =>
                (done.1.andThen fun w =>
                  { world := w, complaints := complaint path fault.wording, status := 2 }, done.2)
              | .ok t =>
                let (told, isFound) := s.text path t
                if isOutput path then
                  (done.1.andThen fun w =>
                    { world := w, complaints := complaint path "input file is also the output", status := 2 }, done.2)
                else
                  (done.1.andThen fun w =>
                    let odd :=
                      if s.isBinary t ∧ isFound then [Call.complaint c (path ++ ": binary file matches")] else []
                    { world := w, output := told, complaints := odd },
                    done.2 || isFound)) ({ world }, false)
        { o with status := if any ∧ (a.has 'q' ∨ o.status = 0) then 0 else if o.status = 0 then 1 else 2 }
    | none, _, _, _, _ => hint ""
    | _, none, _, _, _ => refused c w 2 "invalid max count"
    | _, _, none, _, _ => context 'A'
    | _, _, _, none, _ => context 'B'
    | _, _, _, _, none => context 'C'

end SbtWorkspace.Simulation.Utility
