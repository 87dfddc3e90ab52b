import SbtWorkspace.Simulation.Edits
import SbtWorkspace.Simulation.Pattern
import SbtWorkspace.Simulation.Utility.Changes

/-! Programs that compare files: octet by octet, or line by line. The status 0 stands for files that are the same, 1
for files that differ, and 2 for what cannot be compared. -/

namespace SbtWorkspace.Simulation.Utility

/-- The number of octets that are read before a comparison begins, and how many are compared. -/
def skips? (text : String) : Option (Nat × Nat) :=
  match (List.splitOn ':' text.toList).map fun p => size? (String.ofList p) with
  | [some n] => some (n, n)
  | [some m, some n] => some (m, n)
  | _ => none

def octalField (b : UInt8) : List Char :=
  let ds := Nat.toDigits 8 b.toNat
  List.replicate (3 - ds.length) ' ' ++ ds

/-- The outcome of a comparison whose arguments cannot be used. -/
def uncompared (c : Call) (w : World) (text : String) : Outcome :=
  { world := w, status := 2
    complaints := [Call.complaint c text, Call.complaint c ("Try '" ++ c.name ++ " --help' for more information.")] }

def comparing (o : Options) (f : Call → World → Arguments → Outcome) : Work := fun c w args =>
  if args = ["--help"] ∨ args = ["--version"] then { world := w }
  else
    match o.read args with
    | .ok a => f c w a
    | .error fault => uncompared c w fault.message

/-- Where the shorter one of two texts ends that are the same up to there. -/
def endText (path : String) (isPlaced : Bool) (text : Bytes) : String :=
  if text = [] then "EOF on " ++ path ++ " which is empty"
  else
    let count := text.count 0x0a
    "EOF on " ++ path ++ " after byte " ++ toString text.length ++
      (if !isPlaced then "" else if text.getLast? = some 0x0a then ", line " ++ toString count
      else ", in line " ++ toString (count + 1))

def cmp : Work := fun c w args =>
  comparing
    { letters := "bcls", valued := "in"
      long := [("print-bytes", 'b'), ("ignore-initial", 'i'), ("verbose", 'l'), ("bytes", 'n'), ("quiet", 's'),
        ("silent", 's')] }
    (fun c w a =>
      let skip (text : String) : Except String Nat := match size? text with
        | some n => .ok n
        | none => .error ("invalid --ignore-initial value " ++ named text)
      let skips : Except String (Nat × Nat) := match a.value? 'i', a.operands.drop 2 with
        | some text, _ =>
          match skips? text with
          | some both => .ok both
          | none => .error ("invalid --ignore-initial value " ++ named text)
        | none, [] => .ok (0, 0)
        | none, [m] => do pure (← skip m, 0)
        | none, m :: n :: _ => do pure (← skip m, ← skip n)
      let most : Except String (Option Nat) := match a.value? 'n' with
        | some text =>
          match size? text with
          | some n => .ok (some n)
          | none => .error ("invalid --bytes value " ++ named text)
        | none => .ok none
      let settings : Except String ((Nat × Nat) × Option Nat) := do
        let most ← most
        if a.has 's' ∧ a.has 'l' then throw "options -l and -s are incompatible"
        if a.operands = [] then throw ("missing operand after " ++ named ((c.name :: args).getLastD ""))
        let skips ← skips
        match a.operands[4]? with
        | some extra => throw ("extra operand " ++ named extra)
        | none => pure (skips, most)
      let (first, second) := ((a.operands.head?).getD "-", (a.operands[1]?).getD "-")
      match settings, contents c w [first, second] with
      | .error reason, _ => uncompared c w reason
      | .ok ((m, n), most), (world, [.ok x, .ok y]) =>
        let cut (bytes : Bytes) : Bytes := match most with
          | some k => bytes.take k
          | none => bytes
        let (x, y) := (cut (x.drop m), cut (y.drop n))
        let pairs := (List.range (min x.length y.length)).zip (x.zip y)
        let differing := pairs.filter fun p => p.2.1 ≠ p.2.2
        let number (n : Nat) : List Char := Nat.toDigits 10 n
        let shown (b : UInt8) : List Char := if 32 ≤ b ∧ b < 127 then [Char.ofNat b.toNat] else
          if b < 32 then ['^', Char.ofNat (b.toNat + 64)] else if b = 127 then ['^', '?']
          else
            let low := b.toNat - 128
            'M' :: '-' :: (if low < 32 then ['^', Char.ofNat (low + 64)] else if low = 127 then ['^', '?']
              else [Char.ofNat low])
        let told : List Char :=
          if a.has 's' then []
          else if a.has 'l' then
            let width := (number (max x.length y.length)).length
            differing.flatMap fun (i, b, d) =>
              let place := number (i + 1)
              List.replicate (width - place.length) ' ' ++ place ++ ' ' :: octalField b ++
                (if a.has 'b' then ' ' :: shown b ++ List.replicate (4 - (shown b).length) ' ' else []) ++
                ' ' :: octalField d ++ (if a.has 'b' then ' ' :: shown d else []) ++ ['\n']
          else
            match differing.head? with
            | some (i, b, d) =>
              let line := (x.take i).count 0x0a + 1
              (first ++ " " ++ second ++ " differ: " ++ (if a.has 'b' then "byte " else "char ")).toList ++
                number (i + 1) ++ ", line ".toList ++ number line ++
                (if a.has 'b' then " is ".toList ++ octalField b ++ ' ' :: shown b ++ ' ' :: octalField d ++
                  ' ' :: shown d else []) ++ ['\n']
            | none => []
        let isWhole := differing = [] ∨ a.has 'l'
        let early : List Complaint :=
          if a.has 's' ∨ !isWhole ∨ x.length = y.length then []
          else
            let (path, text) := if x.length < y.length then (first, x) else (second, y)
            [{ Call.complaint c (endText path (!a.has 'l') text) with place := (octets (String.ofList told)).length }]
        { world, output := octets (String.ofList told), complaints := early
          status := if differing = [] ∧ x.length = y.length then 0 else 1 }
      | .ok _, (world, found) =>
        let complaints := if a.has 's' then [] else (faultsOf c (fun p f => p ++ ": " ++ f.wording) [first, second] found)
        { world, complaints := complaints.take 1, status := 2 }) c w args

structure LineStyle where
  folds : Bool
  noSpace : Bool
  oneSpace : Bool
  noEndSpace : Bool
  noReturn : Bool

/-- A line as it is compared. -/
def LineStyle.key (s : LineStyle) (line : Bytes) : Bytes :=
  let isGap (b : UInt8) : Bool := b = 0x20 || (0x09 ≤ b && b ≤ 0x0d)
  let cut (line : Bytes) : Bytes := (line.reverse.dropWhile isGap).reverse
  let line := if s.folds then line.map fun b => if 65 ≤ b ∧ b ≤ 90 then b + 32 else b else line
  if s.noSpace then line.filter (!isGap ·)
  else if s.oneSpace then
    (cut line).foldr
      (fun b rest => if isGap b then (if (rest.head?).any isGap then rest else 0x20 :: rest) else b :: rest) []
  else if s.noEndSpace then cut line
  else if s.noReturn then
    match line.reverse with
    | 0x0a :: 0x0d :: rest => (0x0a :: rest).reverse
    | _ => line
  else line

inductive DifferenceForm where
  | normal
  | unified (context : Nat)
  | script
  deriving DecidableEq

def markedLine (mark : String) (line : Bytes) : Bytes :=
  if line.getLast? = some 0x0a then octets mark ++ line
  else octets mark ++ line ++ octets "\n\\ No newline at end of file\n"

def rangeText (first count : Nat) : String :=
  if count = 0 then toString first
  else if count = 1 then toString (first + 1)
  else toString (first + 1) ++ "," ++ toString (first + count)

def normalHunk (xs ys : List Bytes) (h : Hunk) : Bytes :=
  let letter := if h.dropped = 0 then "a" else if h.added = 0 then "d" else "c"
  octets (rangeText h.first h.dropped ++ letter ++ rangeText h.second h.added ++ "\n") ++
    ((xs.drop h.first).take h.dropped).flatMap (markedLine "< ") ++
    (if h.dropped ≠ 0 ∧ h.added ≠ 0 then octets "---\n" else []) ++
    ((ys.drop h.second).take h.added).flatMap (markedLine "> ")

def scriptHunk (ys : List Bytes) (h : Hunk) : Bytes :=
  let letter := if h.dropped = 0 then "a" else if h.added = 0 then "d" else "c"
  octets (rangeText h.first h.dropped ++ letter ++ "\n") ++
    (if h.added = 0 then [] else ((ys.drop h.second).take h.added).flatten ++ octets ".\n")

/-- Stretches of changes that stand so close that they share lines around them. -/
def grouped (context : Nat) : List Hunk → List (List Hunk)
  | [] => []
  | h :: rest =>
    match grouped context rest with
    | (k :: more) :: groups =>
      if k.first - (h.first + h.dropped) ≤ 2 * context then (h :: k :: more) :: groups
      else [h] :: (k :: more) :: groups
    | groups => [h] :: groups

def unifiedGroup (context : Nat) (xs ys : List Bytes) (group : List Hunk) : Bytes :=
  match group.head?, group.getLast? with
  | some head, some last =>
    let before := min context (min head.first head.second)
    let (xend, yend) := (last.first + last.dropped, last.second + last.added)
    let after := min context (xs.length - xend)
    let range (first last : Nat) : String :=
      let count := last - first
      if count = 0 then toString first ++ ",0"
      else if count = 1 then toString (first + 1)
      else toString (first + 1) ++ "," ++ toString count
    let body := group.foldl
      (fun (done : Bytes × Nat) h =>
        (done.1 ++ ((xs.drop done.2).take (h.first - done.2)).flatMap (markedLine " ") ++
          ((xs.drop h.first).take h.dropped).flatMap (markedLine "-") ++
          ((ys.drop h.second).take h.added).flatMap (markedLine "+"), h.first + h.dropped))
      ([], head.first - before)
    octets ("@@ -" ++ range (head.first - before) (xend + after) ++ " +" ++
      range (head.second - before) (yend + after) ++ " @@\n") ++ body.1 ++ ((xs.drop xend).take after).flatMap (markedLine " ")
  | _, _ => []

structure Comparing where
  style : LineStyle
  form : DifferenceForm
  ignoresEmpty : Bool
  brief : Bool
  tellsSame : Bool
  asText : Bool
  deep : Bool
  asEmpty : Bool
  excluded : List String
  labels : List String
  /-- The options, as they are shown before the differences of files in directories. -/
  shown : String

def lineNumbers (keys : List Bytes) : Array Nat :=
  (keys.foldl
    (fun (done : Array Nat × List (Bytes × Nat)) key =>
      match done.2.find? fun e => e.1 = key with
      | some (_, n) => (done.1.push n, done.2)
      | none => (done.1.push done.2.length, (key, done.2.length) :: done.2)) (#[], [])).1

def changesEmpty (xs ys : List Bytes) (h : Hunk) : Bool :=
  ((xs.drop h.first).take h.dropped ++ (ys.drop h.second).take h.added).all (· = [0x0a])

/-- What is told of the texts of two files, and the status. -/
def Comparing.texts (d : Comparing) (x y : String) (a b : Bytes) : Bytes × Nat :=
  let same := if d.tellsSame then octets ("Files " ++ x ++ " and " ++ y ++ " are identical\n") else []
  if a = b then (same, 0)
  else if (a.contains 0 ∨ b.contains 0) ∧ !d.asText then
    (octets ((if d.brief then "Files " else "Binary files ") ++ x ++ " and " ++ y ++ " differ\n"),
      if d.brief then 1 else 2)
  else
    let (xs, ys) := (lines a, lines b)
    let context := match d.form with
      | .unified context => context
      | _ => 0
    let numbers := (lineNumbers ((xs ++ ys).map d.style.key)).toList
    let found := (Edits.between context (numbers.take xs.length) (numbers.drop xs.length)).hunks
    let found := if d.ignoresEmpty then found.filter (!changesEmpty xs ys ·) else found
    if found = [] then (same, 0)
    else if d.brief then (octets ("Files " ++ x ++ " and " ++ y ++ " differ\n"), 1)
    else
      let label (i : Nat) (path : String) : String :=
        (d.labels[i]?).getD (path ++ "\t1970-01-01 00:00:00.000000000 +0000")
      (match d.form with
        | .normal => found.flatMap (normalHunk xs ys)
        | .script => found.reverse.flatMap (scriptHunk ys)
        | .unified context =>
          octets ("--- " ++ label 0 x ++ "\n+++ " ++ label 1 y ++ "\n") ++
            (grouped context found).flatMap (unifiedGroup context xs ys), 1)

/-- The outcome of a comparison of two paths. Directories are compared name by name. -/
def Comparing.paths (d : Comparing) (c : Call) (w : World) : (depth : Nat) → (isTop : Bool) → String → String → Outcome
  | 0, _, _, _ => { world := w, status := 2 }
  | depth + 1, isTop, x, y =>
    let told (text : String) (status : Nat) : Outcome := { world := w, output := octets text, status }
    let node (path : String) : Option (Location × Node) := (w.files.status c.cwd (.ofString path)).toOption
    let text (path : String) : Except Fault Bytes :=
      (if path = "-" then w.readInput else w.readFile c path).map (·.2)
    match if x = "-" then none else node x, if y = "-" then none else node y with
    | some (a, .directory), some (b, .directory) =>
      if !isTop ∧ !d.deep then told ("Common subdirectories: " ++ x ++ " and " ++ y ++ "\n") 0
      else
        let isExcluded (name : String) : Bool :=
          d.excluded.any fun p => (Pattern.ofOctets (p.toList.map (·, false))).isMatch (Octets.ofString name)
        let names := ((w.files.names a ++ w.files.names b).eraseDups.filter (!isExcluded ·)).mergeSort (· ≤ ·)
        names.foldl
          (fun (done : Outcome) name =>
            let (inX, inY) := ((w.files.lookup (name :: a)).isSome, (w.files.lookup (name :: b)).isSome)
            let (p, q) := (FileChange.inside x name, FileChange.inside y name)
            let isDirectory : Bool := ((node p).or (node q)).any fun n => n.2 = .directory
            done.andThen fun _ =>
              if (inX && inY) || (d.asEmpty && (!isDirectory || d.deep)) then d.paths c w depth false p q
              else told ("Only in " ++ FileChange.withoutSlashes (if inX then x else y) ++ ": " ++ name ++ "\n") 1)
          { world := w }
    | some (_, .directory), some _ =>
      if isTop then d.paths c w depth false (FileChange.inside x (FileChange.baseName y)) y
      else told ("File " ++ x ++ " is a directory while file " ++ y ++ " is a regular file\n") 1
    | some _, some (_, .directory) =>
      if isTop then d.paths c w depth false x (FileChange.inside y (FileChange.baseName x))
      else told ("File " ++ x ++ " is a regular file while file " ++ y ++ " is a directory\n") 1
    | _, _ =>
      let orEmpty (path other : String) : Except Fault Bytes :=
        match text path with
        | .ok bytes => .ok bytes
        | .error fault =>
          if d.asEmpty ∧ (!isTop ∨ ((text other).toOption.isSome ∧ (node path).isNone)) then .ok [] else .error fault
      match orEmpty x y, orEmpty y x with
      | .ok a, .ok b =>
        let (shown, status) := d.texts x y a b
        let header := if isTop ∨ shown = [] ∨ d.brief ∨ status ≠ 1 then []
          else octets ("diff" ++ d.shown ++ " " ++ x ++ " " ++ y ++ "\n")
        { world := w, output := header ++ shown, status }
      | first, second =>
        let complaints := faultsOf c (fun p f => p ++ ": " ++ f.wording) [x, y] [first, second]
        { world := w, complaints, status := 2 }

/-- Compares files line by line, and directories. -/
def diff : Work := fun c w args =>
  comparing
    { letters := "abBcdeEiNnpPqrstTuwyZ", valued := "CIFLSUWxX\x01", optional := "\x02", digits := some 'U'
      long := [("brief", 'q'), ("report-identical-files", 's'), ("unified", '\x03'), ("ed", 'e'), ("recursive", 'r'),
        ("new-file", 'N'), ("ignore-case", 'i'), ("ignore-all-space", 'w'), ("ignore-space-change", 'b'),
        ("ignore-trailing-space", 'Z'), ("ignore-blank-lines", 'B'), ("text", 'a'), ("label", 'L'), ("exclude", 'x'),
        ("strip-trailing-cr", '\x04'), ("normal", '\x05'), ("minimal", 'd'), ("color", '\x02'),
        ("no-dereference", '\x05'), ("speed-large-files", '\x05')] }
    (fun c w a =>
      let isUnified : Bool := a.has 'u' || a.has 'U' || a.has '\x03'
      let size := (a.value? 'U').getD "3"
      let styles := [isUnified, a.has 'c' || a.has 'C', a.has 'e', a.has 'y', a.has 'n']
      match natural? size.toList, a.operands with
      | none, _ => uncompared c w ("invalid context length " ++ named size)
      | some context, [x, y] =>
        if 1 < (styles.filter id).length then uncompared c w "conflicting output style options"
        else
          let form : DifferenceForm := if isUnified then .unified context else if a.has 'e' then .script else .normal
          let d : Comparing :=
            { style := ⟨a.has 'i', a.has 'w', a.has 'b', a.has 'Z' || a.has 'E', a.has '\x04'⟩, form
              ignoresEmpty := a.has 'B', brief := a.has 'q', tellsSame := a.has 's', asText := a.has 'a'
              deep := a.has 'r', asEmpty := a.has 'N', excluded := a.values 'x', labels := a.values 'L'
              shown := String.join ((args.filter fun o => o.toList.head? = some '-' ∧ 1 < o.length).map (" " ++ ·)) }
          let done := d.paths c w 100 true x y
          { done with world := if x = "-" ∨ y = "-" then { w with input := [] } else w }
      | some _, _ :: _ :: extra :: _ => uncompared c w ("extra operand " ++ named extra)
      | some _, _ => uncompared c w ("missing operand after " ++ named ((c.name :: args).getLastD ""))) c w args

end SbtWorkspace.Simulation.Utility
