import SbtWorkspace.Simulation.Utility.Changes

/-! Programs that cut files into pieces, and that copy a part of one. Main statement: the pieces of a list are the
list (`flatten_chunks`). -/

namespace SbtWorkspace.Simulation.Utility

def chunks (size : Nat) : (fuel : Nat) → List α → List (List α)
  | 0, xs => [xs]
  | fuel + 1, xs => if xs.length ≤ size then [xs] else xs.take size :: chunks size fuel (xs.drop size)

theorem flatten_chunks (size fuel : Nat) (xs : List α) : (chunks size fuel xs).flatten = xs := by
  induction fuel generalizing xs with
  | zero => simp [chunks]
  | succ fuel ih =>
    unfold chunks
    split
    · simp
    · simp [ih]

def pieces (size : Nat) (xs : List α) : List (List α) := if xs.isEmpty then [] else chunks (max size 1) xs.length xs

/-- Lines in pieces of so many octets at most. A line that is longer is cut. -/
def packed (size : Nat) (found : List Bytes) : List Bytes :=
  let add (done : List Bytes × Bytes) (line : Bytes) : List Bytes × Bytes :=
    let (finished, begun) := done
    if begun.length + line.length ≤ size then (finished, begun ++ line)
    else
      let finished := if begun = [] then finished else finished ++ [begun]
      let cut := pieces size line
      (finished ++ cut.dropLast, (cut.getLast?).getD [])
  let (finished, begun) := found.foldl add ([], [])
  if begun = [] then finished else finished ++ [begun]

/-- A number of pieces, of which perhaps one is wanted: of octets, of lines by their places, or of lines in turn. -/
structure Division where
  kind : Char
  wanted : Option Nat
  count : Nat

/-- A size that is not below 1 and not above another one, or what is told of the text. -/
def sizeWithin (what : String) (most : Option Nat) (text : String) : Except String Nat :=
  match size? text with
  | none => .error (what ++ ": " ++ named text)
  | some n =>
    if n = 0 ∨ most.any (· < n) then .error (what ++ ": " ++ named text ++ ": Numerical result out of range") else .ok n

def division (text : String) : Except String Division := do
  let parts := (List.splitOn '/' text.toList).map String.ofList
  let (kind, parts) : Char × List String := match parts with
    | "l" :: rest => ('l', rest)
    | "r" :: rest => ('r', rest)
    | _ => ('b', parts)
  match parts with
  | [k, n] => do
    let n ← sizeWithin "invalid number of chunks" none n
    pure ⟨kind, some (← sizeWithin "invalid chunk number" (some n) k), n⟩
  | _ => do pure ⟨kind, none, ← sizeWithin "invalid number of chunks" none ("/".intercalate parts)⟩

def Division.pieces (d : Division) (text : Bytes) : List Bytes :=
  let total := max text.length d.count
  let size := total / d.count
  match d.kind with
  | 'b' =>
    (List.range d.count).map fun i => if i + 1 = d.count then text.drop (i * size) else (text.drop (i * size)).take size
  | 'l' =>
    let placed := (lines text).foldl (fun (done : List (Nat × Bytes) × Nat) line =>
      (done.1 ++ [(min (done.2 / size) (d.count - 1), line)], done.2 + line.length)) ([], 0)
    (List.range d.count).map fun i => (placed.1.filter fun p => p.1 = i).flatMap (·.2)
  | _ =>
    let found := lines text
    (List.range d.count).map fun i =>
      (((List.range found.length).zip found).filter fun p => p.1 % d.count = i).flatMap (·.2)

def inAlphabet (alphabet : List Char) : (length n : Nat) → List Char
  | 0, _ => []
  | length + 1, n => inAlphabet alphabet length (n / alphabet.length) ++ (alphabet[n % alphabet.length]?).toList

/-- The suffix of a piece: the names grow longer where the last letter of the alphabet would come first, unless
their length is given. -/
def suffix? (alphabet : List Char) (fixed : Option Nat) (n : Nat) : Option (List Char) :=
  let base := alphabet.length
  match fixed with
  | some length => if n < Nat.pow base length then some (inAlphabet alphabet length n) else none
  | none =>
    let rec grow : (fuel : Nat) → (depth n : Nat) → List Char
      | 0, _, _ => []
      | fuel + 1, depth, n =>
        let count := (base - 1) * Nat.pow base (depth + 1)
        if n < count then List.replicate depth ((alphabet.getLast?).getD 'z') ++ inAlphabet alphabet (depth + 2) n
        else grow fuel (depth + 1) (n - count)
    some (grow 8 0 n)

/-- Writes the pieces of a file into files of their own. -/
def split : Work :=
  reading
    { letters := "dexu", valued := "abClnt\x01\x02", optional := "\x03\x04", digits := some 'l'
      long := [("suffix-length", 'a'), ("additional-suffix", '\x01'), ("bytes", 'b'), ("line-bytes", 'C'),
        ("numeric-suffixes", '\x03'), ("hex-suffixes", '\x04'), ("elide-empty-files", 'e'), ("filter", '\x02'),
        ("lines", 'l'), ("number", 'n'), ("separator", 't'), ("unbuffered", 'u'), ("verbose", '\x05')] } 1 fun c w a =>
    let unit := a.last? "bCln"
    let length : Except String (Option Nat) := match a.value? 'a' with
      | some text =>
        match natural? text.toList with
        | some n => .ok (some n)
        | none => .error ("invalid suffix length: " ++ named text)
      | none => .ok none
    let size : Except String Nat := match unit with
      | some 'n' => .ok 1
      | some letter =>
        sizeWithin (if letter = 'l' then "invalid number of lines" else "invalid number of bytes") none
          ((a.value? letter).getD "")
      | none => .ok 1000
    let divided : Except String Division :=
      if unit = some 'n' then division ((a.value? 'n').getD "") else .ok ⟨'b', none, 1⟩
    let mark : Except String UInt8 := match (a.value? 't').map fun t => Octets.ofString t with
      | some ['\\', '0'] => .ok 0
      | some [m] => .ok (UInt8.ofNat m.toNat)
      | some [] => .error "empty record separator"
      | some _ => .error ("multi-character separator " ++ named ((a.value? 't').getD ""))
      | none => .ok 0x0a
    let alphabet := match a.last? "dx\x03\x04" with
      | some 'd' | some '\x03' => "0123456789".toList
      | some _ => "0123456789abcdef".toList
      | none => "abcdefghijklmnopqrstuvwxyz".toList
    let first := (a.value? '\x03').or (a.value? '\x04')
    let start := first.bind fun t => natural? t.toList
    let more := (a.value? '\x01').getD ""
    let isOneWay : Bool := (a.options.filter fun o => "bCn".toList.contains o.1).length +
      (if a.has 'l' then 1 else 0) ≤ 1
    let given : Except String (Option Nat × Nat × Division × UInt8) := do
      pure (← length, ← size, ← divided, ← mark)
    let path := (a.operands.head?).getD "-"
    match given, contents c w (a.operands.take 1) with
    | .error reason, _ => refused c w 1 reason
    | .ok (length, size, divided, mark), (world, found) =>
      if !isOneWay then misused c w 1 "cannot split in more than one way"
      else if more.toList.contains '/' then
        misused c w 1 ("invalid suffix " ++ named more ++ ", contains directory separator")
      else if first.any (· ≠ "") ∧ start.isNone then
        misused c w 1 (named (first.getD "") ++ ": invalid start value for " ++
          (if (a.value? '\x03').isSome then "numerical" else "hexadecimal") ++ " suffix")
      else if 2 < a.operands.length then misused c w 1 ("extra operand " ++ named ((a.operands[2]?).getD ""))
      else match found with
      | [.ok text] =>
        let parts := match unit with
          | some 'b' => pieces size text
          | some 'C' => packed size (linesBy mark text)
          | some 'n' => divided.pieces text
          | _ => (pieces size (linesBy mark text)).map List.flatten
        let parts := if a.has 'e' then parts.filter (· ≠ []) else parts
        match unit, divided.wanted with
        | some 'n', some k => { world, output := ((divided.pieces text)[k - 1]?).getD [] }
        | _, _ =>
          let fixed : Option Nat := match length, start with
            | some 0, none => none
            | some n, _ => some n
            | none, some _ => some 2
            | none, none => if unit = some 'n' then some (max 2 (lengthFor alphabet.length divided.count)) else none
          let base := (a.operands[1]?).getD "x"
          inTurn world ((List.range parts.length).map fun i => fun w =>
            match suffix? alphabet fixed (start.getD 0 + i), parts[i]? with
            | some name, some part =>
              let goal := base ++ String.ofList name ++ more
              changed c (if a.has '\x05' then "creating file " ++ named goal ++ "\n" else "")
                (fun fs => unreadable goal (whyNotWritten c.cwd goal fs))
                (fun fs => (fs.write c.cwd (.ofString goal) part).toOption) w
            | _, _ => refused c w 1 "output file suffixes exhausted")
      | [.error .isDirectory] => refused c w 1 (unreadable path .isDirectory)
      | [.error fault] => refused c w 1 ("cannot open " ++ named path ++ " for reading: " ++ fault.wording)
      | _ => { world }
where
  /-- How many digits in a base the numbers below another one have. -/
  lengthFor (base count : Nat) : Nat := ((List.range 20).find? fun n => count ≤ Nat.pow base n).getD 20

/-- Numbers with factors between them, of which each may have its unit. -/
def product? (text : String) : Option Nat := do
  let factors ← (List.splitOn 'x' text.toList).mapM fun p =>
    match size? (String.ofList p) with
    | some n => some n
    | none => if p.getLast? = some 'B' then natural? p.dropLast else none
  pure (factors.foldl (· * ·) 1)

def conversions : List String :=
  ["ascii", "ebcdic", "ibm", "block", "unblock", "lcase", "ucase", "sparse", "swab", "sync", "excl", "nocreat",
    "notrunc", "noerror", "fdatasync", "fsync"]

def transferFlags : List String :=
  ["append", "direct", "directory", "dsync", "sync", "fullblock", "nonblock", "noatime", "nocache", "noctty",
    "nofollow", "count_bytes", "skip_bytes", "seek_bytes"]

def swapped : Bytes → Bytes
  | a :: b :: rest => b :: a :: swapped rest
  | rest => rest

/-- Why the settings of a copy of a part are of no use; the first one that is not counts. -/
def settingsFault? (settings : List (String × Option String)) : Option (Bool × String) :=
  let unknown (what : String) (known : List String) (text : String) : Option (Bool × String) :=
    (((List.splitOn ',' text.toList).map String.ofList).find? (!known.contains ·)).map fun word =>
      (true, what ++ ": " ++ named word)
  let numbers := ["bs", "ibs", "obs", "cbs", "count", "skip", "iseek", "seek", "oseek"]
  let positive := ["bs", "ibs", "obs", "cbs"]
  settings.findSome? fun (name, value) =>
    match name, value with
    | _, none => some (true, "unrecognized operand " ++ named name)
    | "if", _ | "of", _ => none
    | "conv", some text => unknown "invalid conversion" conversions text
    | "iflag", some text => unknown "invalid input flag" transferFlags text
    | "oflag", some text => unknown "invalid output flag" transferFlags text
    | "status", some text => unknown "invalid status level" ["none", "noxfer", "progress"] text
    | _, some text =>
      if !numbers.contains name then some (true, "unrecognized operand " ++ named (name ++ "=" ++ text))
      else
        match product? text with
        | none => some (false, "invalid number: " ++ named text)
        | some 0 => if positive.contains name then some (false, "invalid number: " ++ named text) else none
        | some _ => none

/-- What is told of the blocks of a copy: how many were whole, and how many were not. -/
def blockCount (size : Nat) (blocks : List Bytes) (what : String) : String :=
  let whole := (blocks.filter fun b => b.length = size).length
  toString whole ++ "+" ++ toString (blocks.length - whole) ++ " records " ++ what ++ "\n"

/-- Copies a part of a file into a part of another one. -/
def dd : Work := fun c w args =>
  let args := if args.head? = some "--" then args.tail else args
  let parts : List (String × Option String) := args.map fun arg =>
    (String.ofList (arg.toList.takeWhile (· ≠ '=')),
      if arg.toList.contains '=' then some (String.ofList ((arg.toList.dropWhile (· ≠ '=')).drop 1)) else none)
  let value? (name : String) : Option String := (parts.reverse.find? fun s => s.1 = name).bind (·.2)
  let words (name : String) : List String :=
    (parts.filter fun s => s.1 = name).flatMap fun s =>
      (List.splitOn ',' (s.2.getD "").toList).map String.ofList
  let number (names : List String) (otherwise : Nat) : Nat :=
    ((names.findSome? value?).bind product?).getD otherwise
  let isCount (name : String) (flag : String) (list : String) : Bool :=
    (words list).contains flag || ((value? name).any fun t => t.toList.getLast? = some 'B' &&
      ((t.toList.dropLast).getLast?.any Char.isDigit))
  let has (word : String) : Bool := (words "conv").contains word
  let together (a b : String) : Option String :=
    if has a ∧ has b then some ("cannot combine " ++ a ++ " and " ++ b) else none
  let level := (value? "status").getD ""
  let told (counts : String) (size : Nat) : List Complaint :=
    if level = "none" then []
    else if level = "noxfer" then [{ text := counts }]
    else
      let unit := if size = 1 then " byte" else " bytes"
      [{ text := counts ++ toString size ++ unit ++ " copied, 0.0001 s, " ++ toString (size * 10) ++ ".0 kB/s\n" }]
  match args with
  | ["--help"] | ["--version"] => { world := w }
  | _ =>
    match args.find? fun arg => arg.toList.head? = some '-', settingsFault? parts,
      ((together "lcase" "ucase").or (together "block" "unblock")).or (together "excl" "nocreat") with
    | some arg, _, _ =>
      let fault := if "--".toList.isPrefixOf arg.toList then "unrecognized option '" ++ arg ++ "'"
        else "invalid option -- '" ++ String.ofList ((arg.toList.drop 1).take 1) ++ "'"
      misused c w 1 fault
    | none, some (true, reason), _ => misused c w 1 reason
    | none, some (false, reason), _ | none, none, some reason => refused c w 1 reason
    | none, none, none =>
      let (ibs, obs) := (number ["bs", "ibs"] 512, number ["bs", "obs"] 512)
      let count := number ["count"] maxSize
      let skip := number ["skip", "iseek"] 0
      let seek := number ["seek", "oseek"] 0
      let most := if isCount "count" "count_bytes" "iflag" then count else count * ibs
      let skipped := if isCount "skip" "skip_bytes" "iflag" then skip else skip * ibs
      let place := if isCount "seek" "seek_bytes" "oflag" then seek else seek * obs
      let source : Except Fault (World × Bytes) := match value? "if" with
        | some path =>
          match w.files.status c.cwd (.ofString path) with
          | .ok (_, .device .zero) => .ok (w, List.replicate (min (skipped + most) maxSize) 0)
          | _ => w.readFile c path
        | none =>
          if w.origin = .directory then .error .isDirectory
          else .ok ({ w with input := w.input.drop (skipped + most) }, w.input)
      let old : Option Bytes := match (value? "of").map fun path => w.files.status c.cwd (.ofString path) with
        | some (.ok (_, .file bytes _)) => some bytes
        | _ => none
      let given := (value? "if").getD "standard input"
      match source, value? "of" with
      | .error .isDirectory, _ =>
        let counts := "0+0 records in\n0+0 records out\n"
        { world := w, status := 1
          complaints := Call.complaint c ("error reading " ++ named given ++ ": Is a directory") :: told counts 0 }
      | .error fault, _ => refused c w 1 ("failed to open " ++ named given ++ ": " ++ fault.wording)
      | .ok (w, bytes), goal =>
        let taken := (bytes.drop skipped).take most
        let blocks := pieces ibs taken
        let shown := blocks.map fun block =>
          let block := if has "sync" then resized block ibs else block
          let block := if has "swab" then swapped block else block
          if has "ucase" then block.map fun b => if 97 ≤ b ∧ b ≤ 122 then b - 32 else b
          else if has "lcase" then block.map fun b => if 65 ≤ b ∧ b ≤ 90 then b + 32 else b
          else block
        let made := shown.flatten
        let counts := blockCount ibs blocks "in" ++
          blockCount obs (if (value? "bs").isSome then shown else pieces obs made) "out"
        let early : List Complaint :=
          if bytes.length < skipped then
            [Call.complaint c (shownName given ++ ": cannot skip to specified offset")]
          else []
        let done (w : World) (output : Bytes) : Outcome :=
          { world := w, output
            complaints := early ++ (told counts made.length).map fun k => { k with place := output.length } }
        match goal with
        | none => done w made
        | some path =>
          let base := old.getD []
          let isAppending := (words "oflag").contains "append"
          let kept := if has "notrunc" then base else resized base (min place maxSize)
          let place := if isAppending then kept.length else place
          let content := resized kept (min place maxSize) ++ made ++ kept.drop (place + made.length)
          let fault : Option Fault :=
            if has "excl" ∧ old.isSome then some .alreadyExists
            else if has "nocreat" ∧ old.isNone then some .noEntry
            else none
          match fault, w.files.write c.cwd (.ofString path) content with
          | none, .ok files => done { w with files } []
          | some fault, _ | none, .error fault =>
            refused c w 1 ("failed to open " ++ named path ++ ": " ++ fault.wording)

end SbtWorkspace.Simulation.Utility
