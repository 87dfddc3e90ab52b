import SbtWorkspace.Simulation.Digest
import SbtWorkspace.Simulation.Utility.Outcome

/-! Programs that write texts in other signs: their digests, their octets in an alphabet, and their octets as
numbers. -/

namespace SbtWorkspace.Simulation.Utility

def hexadecimal (bytes : Bytes) : List Char :=
  bytes.flatMap fun b => [Nat.digitChar (b.toNat / 16), Nat.digitChar (b.toNat % 16)]

/-- The name of a file as it stands beside a digest, and whether it had to be changed. -/
def escapedName (path : String) : String × Bool :=
  let cs := path.toList.flatMap fun c =>
    if c = '\n' then ['\\', 'n'] else if c = '\r' then ['\\', 'r'] else if c = '\\' then ['\\', '\\'] else [c]
  (String.ofList cs, cs ≠ path.toList)

def unescapedName : List Char → List Char
  | '\\' :: 'n' :: rest => '\n' :: unescapedName rest
  | '\\' :: 'r' :: rest => '\r' :: unescapedName rest
  | '\\' :: '\\' :: rest => '\\' :: unescapedName rest
  | c :: rest => c :: unescapedName rest
  | [] => []

/-- A line that tells a digest: its digits and the name of the file; `none` if it is none. -/
def digestLine? (tag : String) (size : Nat) (line : List Char) : Option (List Char × String) :=
  let isDigest (cs : List Char) : Bool :=
    cs.length = 2 * size && cs.all fun c => c.isDigit || ('a' ≤ c.toLower && c.toLower ≤ 'f')
  let (isEscaped, line) := match line with
    | '\\' :: rest => (true, rest)
    | _ => (false, line)
  let name (cs : List Char) : String := Octets.toString (if isEscaped then unescapedName cs else cs)
  let start := (tag ++ " (").toList
  if start.isPrefixOf line then
    let digits := (line.reverse.takeWhile (· ≠ ' ')).reverse
    let rest := (line.take (line.length - digits.length)).drop start.length
    if isDigest digits ∧ (") = ".toList).isSuffixOf rest then some (digits, name (rest.take (rest.length - 4)))
    else none
  else
    let line := line.dropWhile fun c => c = ' ' || c = '\t'
    let digits := line.take (2 * size)
    match line.drop (2 * size) with
    | ' ' :: ' ' :: path | ' ' :: '*' :: path => if isDigest digits ∧ path ≠ [] then some (digits, name path) else none
    | _ => none

/-- What has been checked so far: how many digests fit, do not fit, and belong to files that cannot be read, and
how many lines are none. -/
structure DigestCount where
  fitting : Nat := 0
  differing : Nat := 0
  unread : Nat := 0
  malformed : Nat := 0

def DigestCount.warnings (n : DigestCount) : List String :=
  let told (k : Nat) (one more : String) : List String :=
    if k = 0 then [] else ["WARNING: " ++ toString k ++ (if k = 1 then one else more)]
  told n.malformed " line is improperly formatted" " lines are improperly formatted" ++
    told n.unread " listed file could not be read" " listed files could not be read" ++
    told n.differing " computed checksum did NOT match" " computed checksums did NOT match"

def digestCheck (tag : String) (size : Nat) (digest : Bytes → Bytes) (c : Call) (a : Arguments) (path : String)
    (text : Bytes) (w : World) : Outcome :=
  let isSilent := a.has '\x03'
  let ignores := a.has '\x02'
  let told (w : World) (line : String) : Outcome := { world := w, output := octets (line ++ "\n") }
  let found := (rows text).zipIdx.filter fun line => line.1.head? ≠ some '#' || (digestLine? tag size line.1).isSome
  let shown := if path = "-" then "standard input" else path
  let (done, count) := found.foldl
    (fun (state : Outcome × DigestCount) (line, place) =>
      let (done, count) := state
      match digestLine? tag size line with
      | none =>
        let reason := shownName shown ++ ": " ++ toString (place + 1) ++ ": improperly formatted " ++ tag ++
          " checksum line"
        (if a.has 'w' then done.andThen fun w => refused c w 0 reason else done,
          { count with malformed := count.malformed + 1 })
      | some (digits, name) =>
        match contents c done.world [name] with
        | (world, [.ok content]) =>
          if hexadecimal (digest content) = digits.map Char.toLower then
            (({ done with world } : Outcome).andThen fun w =>
              if a.has 'q' ∨ isSilent then { world := w } else told w (name ++ ": OK"),
              { count with fitting := count.fitting + 1 })
          else
            (({ done with world } : Outcome).andThen fun w =>
              if isSilent then { world := w } else told w (name ++ ": FAILED"),
              { count with differing := count.differing + 1 })
        | (world, [.error fault]) =>
          if ignores ∧ fault = .noEntry then (done, count)
          else
            (({ done with world } : Outcome).andThen fun w =>
              (refused c w 0 (unreadable name fault)).andThen fun w =>
                if isSilent then { world := w } else told w (name ++ ": FAILED open or read"),
              { count with unread := count.unread + 1 })
        | (world, _) => ({ done with world }, count))
    ({ world := w }, {})
  if count.malformed = found.length then
    done.andThen fun w => refused c w 1 (shownName shown ++ ": no properly formatted checksum lines found")
  else
    let warnings := if isSilent then [] else count.warnings
    let done := done.andThen fun w => { world := w, complaints := warnings.map (Call.complaint c) }
    let isUnchecked := ignores && count.fitting + count.differing = 0
    let done := if isUnchecked ∧ !isSilent then
        done.andThen fun w => refused c w 1 (shownName shown ++ ": no file was verified")
      else done
    let isOdd := a.has '\x04' && count.malformed ≠ 0
    { done with status := if isUnchecked ∨ isOdd ∨ count.differing + count.unread ≠ 0 then 1 else 0 }

def digestMisuse? (a : Arguments) : Option String :=
  let checking := [('\x02', "ignore-missing"), ('\x03', "status"), ('w', "warn"), ('q', "quiet"), ('\x04', "strict")]
  if a.has '\x01' ∧ a.last? "bt" = some 't' ∧ !a.has 'c' then none
  else if a.has 'z' ∧ a.has 'c' then some "the --zero option is not supported when verifying checksums"
  else if a.has '\x01' ∧ a.has 'c' then some "the --tag option is meaningless when verifying checksums"
  else if (a.has 'b' ∨ a.has 't') ∧ a.has 'c' then
    some "the --binary and --text options are meaningless when verifying checksums"
  else if a.has 'c' then none
  else
    (checking.find? fun o => a.has o.1).map fun o =>
      "the --" ++ o.2 ++ " option is meaningful only when verifying checksums"

def digests (tag : String) (size : Nat) (digest : Bytes → Bytes) : Work :=
  reading
    { letters := "bctwz"
      long := [("binary", 'b'), ("check", 'c'), ("tag", '\x01'), ("text", 't'), ("zero", 'z'),
        ("ignore-missing", '\x02'), ("quiet", 'q'), ("status", '\x03'), ("strict", '\x04'),
        ("warn", 'w')] } 1 fun c w a =>
    let line (path : String) (text : Bytes) : Bytes :=
      let digits := String.ofList (hexadecimal (digest text))
      let (name, isChanged) := if a.has 'z' then (path, false) else escapedName path
      let mark := if isChanged then "\\" else ""
      let line := if a.has '\x01' then mark ++ tag ++ " (" ++ name ++ ") = " ++ digits
        else mark ++ digits ++ (if a.last? "bt" = some 'b' then " *" else "  ") ++ name
      octets line ++ [if a.has 'z' then 0 else 0x0a]
    match digestMisuse? a with
    | some reason => misused c w 1 reason
    | none =>
      if a.has 'c' then
        let paths := if a.operands = [] then ["-"] else a.operands
        inTurn w (paths.map fun path => fun w =>
          match contents c w [path] with
          | (w, [.ok text]) => digestCheck tag size digest c a path text w
          | (w, [.error .isDirectory]) => refused c w 1 (shownName path ++ ": read error")
          | (w, [.error fault]) => refused c w 1 (unreadable path fault)
          | (w, _) => { world := w })
      else eachContent c w a.operands 1 unreadable line

/-- Writes the cyclic checks of files with their sizes. -/
def cksum : Work :=
  reading { letters := "z", valued := "al", long := [("algorithm", 'a'), ("untagged", '\x01')] } 1 fun c w a =>
    let name (path : String) : String := if a.operands = [] then "" else " " ++ path
    eachContent c w a.operands 1 unreadable fun path text =>
      octets (toString (Digest.cyclic text) ++ " " ++ toString text.length ++ name path ++ "\n")

/-- Writes sums of files with the number of their blocks. -/
def sum : Work :=
  reading { letters := "rs", long := [("sysv", 's')] } 1 fun c w a =>
    let plain := a.last? "rs" = some 's'
    let pad (fill : Char) (width n : Nat) : String :=
      String.ofList (List.replicate (width - (Nat.toDigits 10 n).length) fill ++ Nat.toDigits 10 n)
    let name (path : String) : String := if a.operands = [] then "" else " " ++ path
    eachContent c w a.operands 1 unreadable fun path text =>
      octets ((if plain then toString (Digest.plainSum text) ++ " " ++ toString ((text.length + 511) / 512)
        else pad '0' 5 (Digest.turnedSum text) ++ " " ++ pad ' ' 5 ((text.length + 1023) / 1024)) ++ name path ++ "\n")

/-- An alphabet in whose letters octets are written: how many bits a letter stands for, and how many letters make a
group. -/
structure Alphabet where
  letters : List Char
  bits : Nat
  group : Nat

def base64Alphabet : Alphabet :=
  ⟨"ABCDEFGHIJKLMNOPQRSTUVWXYZabcdefghijklmnopqrstuvwxyz0123456789+/".toList, 6, 4⟩

def base32Alphabet : Alphabet := ⟨"ABCDEFGHIJKLMNOPQRSTUVWXYZ234567".toList, 5, 8⟩

def bitsOf : (count n : Nat) → List Bool
  | 0, _ => []
  | count + 1, n => bitsOf count (n / 2) ++ [n % 2 == 1]

def ofBits (bits : List Bool) : Nat := bits.foldl (fun n b => 2 * n + (if b then 1 else 0)) 0

def bitGroups (size : Nat) : (fuel : Nat) → List Bool → List (List Bool)
  | 0, _ => []
  | _, [] => []
  | fuel + 1, bits => bits.take size :: bitGroups size fuel (bits.drop size)

/-- Octets in the letters of an alphabet. -/
def Alphabet.encode (a : Alphabet) (bytes : Bytes) : List Char :=
  let bits := bytes.flatMap fun b => bitsOf 8 b.toNat
  let letters := (bitGroups a.bits (bits.length + 1) bits).map fun g =>
    (a.letters[ofBits (g ++ List.replicate (a.bits - g.length) false)]?).getD '='
  letters ++ List.replicate ((a.group - letters.length % a.group) % a.group) '='

/-- The octets that letters of an alphabet are written for, as far as they can be read, and whether all can. -/
def Alphabet.decode (a : Alphabet) (cs : List Char) : Bytes × Bool :=
  let rec go : (fuel : Nat) → List Char → Bytes × Bool
    | 0, _ => ([], false)
    | _, [] => ([], true)
    | fuel + 1, cs =>
      let group := cs.take a.group
      let given := group.takeWhile a.letters.contains
      let bits := given.flatMap fun c => bitsOf a.bits (a.letters.idxOf c)
      let bytes := (bitGroups 8 (bits.length + 1) bits).filterMap fun g =>
        if g.length = 8 then some (UInt8.ofNat (ofBits g)) else none
      let isWhole := given.length = a.group
      let isEnd := group.length = a.group && given.length * a.bits % 8 < a.bits && 8 ≤ bits.length &&
        (group.drop given.length).all (· = '=')
      if isWhole ∨ isEnd then
        let (more, isRight) := go fuel (cs.drop a.group)
        (bytes ++ more, isRight)
      else (if given.length = group.length then bytes else [], false)
  go (cs.length + 1) cs

def wrapped (width : Nat) : (fuel : Nat) → List Char → List Char
  | 0, _ => []
  | fuel + 1, cs =>
    if width = 0 then cs
    else if cs = [] then []
    else cs.take width ++ '\n' :: wrapped width fuel (cs.drop width)

/-- Writes a file in the letters of an alphabet, or what such letters are written for. -/
def encoding (alphabet : Alphabet) : Work :=
  reading
    { letters := "di", valued := "w", long := [("decode", 'd'), ("ignore-garbage", 'i'), ("wrap", 'w')] } 1 fun c w a =>
    let size := (a.value? 'w').getD "76"
    match natural? size.toList with
    | none => refused c w 1 ("invalid wrap size: " ++ named size)
    | some width =>
      let path := (a.operands.head?).getD "-"
      match a.operands.drop 1, contents c w (a.operands.take 1) with
      | extra :: _, _ => misused c w 1 ("extra operand " ++ named extra)
      | [], (world, [.ok text]) =>
        if a.has 'd' then
          let cs := (Octets.toChars text).filter (· ≠ '\n')
          let cs := if a.has 'i' then cs.filter fun c => alphabet.letters.contains c || c = '=' else cs
          let (output, isRight) := alphabet.decode cs
          let complaint := { Call.complaint c "invalid input" with place := output.length }
          { world, output, complaints := if isRight then [] else [complaint], status := if isRight then 0 else 1 }
        else
          let cs := alphabet.encode text
          { world, output := Octets.ofChars (wrapped width (cs.length + 1) cs) }
      | [], (world, [.error .isDirectory]) => refused c world 1 "read error: Is a directory"
      | [], (world, [.error fault]) => refused c world 1 (unreadable path fault)
      | [], (world, _) => { world }

/-- How octets are shown: as numbers in a base or as characters, so many together, and perhaps with their text
behind. -/
structure DumpForm where
  kind : Char
  size : Nat
  isTexted : Bool

def DumpForm.width (f : DumpForm) : Nat :=
  match f.kind, f.size with
  | 'x', n => 2 * n
  | 'o', 1 => 3
  | 'o', 2 => 6
  | 'o', 4 => 11
  | 'o', _ => 22
  | 'u', 1 => 3
  | 'u', 2 => 5
  | 'u', 4 => 10
  | 'u', _ => 20
  | 'd', 1 => 4
  | 'd', 2 => 6
  | 'd', 4 => 11
  | 'd', _ => 20
  | _, _ => 3

def controlNames : List String :=
  ["nul", "soh", "stx", "etx", "eot", "enq", "ack", "bel", "bs", "ht", "nl", "vt", "ff", "cr", "so", "si", "dle",
    "dc1", "dc2", "dc3", "dc4", "nak", "syn", "etb", "can", "em", "sub", "esc", "fs", "gs", "rs", "us", "sp"]

/-- The octets of a field, with zeros where there are none, as they are shown. -/
def DumpForm.field (f : DumpForm) (bytes : Bytes) : List Char :=
  let n := Digest.numberOf (bytes ++ List.replicate (f.size - bytes.length) 0).reverse
  let filled (base width : Nat) : List Char :=
    let ds := Nat.toDigits base n
    List.replicate (width - ds.length) '0' ++ ds
  match f.kind with
  | 'x' => filled 16 (2 * f.size)
  | 'o' => filled 8 f.width
  | 'u' => Nat.toDigits 10 n
  | 'd' => (toString (if Nat.pow 2 (8 * f.size - 1) ≤ n then (n : Int) - Nat.pow 2 (8 * f.size) else n)).toList
  | 'a' => let n := n % 128
    if n = 127 then "del".toList
    else match controlNames[n]? with
      | some name => name.toList
      | none => [Char.ofNat n]
  | _ =>
    match n with
    | 0 => ['\\', '0']
    | 7 => ['\\', 'a']
    | 8 => ['\\', 'b']
    | 9 => ['\\', 't']
    | 10 => ['\\', 'n']
    | 11 => ['\\', 'v']
    | 12 => ['\\', 'f']
    | 13 => ['\\', 'r']
    | n => if 32 ≤ n ∧ n < 127 then [Char.ofNat n] else filled 8 3

def dumpForms (text : String) : (fuel : Nat) → List Char → Except String (List DumpForm)
  | 0, _ => .ok []
  | _, [] => .ok []
  | fuel + 1, kind :: rest =>
    let sized (size : Nat) (rest : List Char) : Except String (List DumpForm) :=
      let (isTexted, rest) := if rest.head? = some 'z' then (true, rest.tail) else (false, rest)
      (dumpForms text fuel rest).map fun more => ⟨kind, size, isTexted⟩ :: more
    if kind = 'a' ∨ kind = 'c' then sized 1 rest
    else if "doux".toList.contains kind then
      match rest with
      | 'C' :: rest => sized 1 rest
      | 'S' :: rest => sized 2 rest
      | 'I' :: rest => sized 4 rest
      | 'L' :: rest => sized 8 rest
      | _ =>
        let digits := rest.takeWhile Char.isDigit
        match natural? digits with
        | none => sized 4 rest
        | some n =>
          if [1, 2, 4, 8].contains n then sized n (rest.drop digits.length)
          else
            .error ("invalid type string " ++ named text ++ ";\nthis system doesn\x27t provide a " ++ toString n ++
              "-byte integral type")
    else
      .error ("invalid character \x27" ++ String.ofList [kind] ++ "\x27 in type string " ++ named text)

/-- A line of octets in a form. Fields are as far apart as those of the widest form. -/
def DumpForm.line (f : DumpForm) (width perBlock : Nat) (bytes : Bytes) : List Char :=
  let fields := width / f.size
  let pad := perBlock - (f.width + 1) * fields
  let given := (bytes.length + f.size - 1) / f.size
  (List.range given).flatMap fun k =>
    let i := fields - k
    let gap := pad * i / fields - pad * (i - 1) / fields
    let text := f.field ((bytes.drop (k * f.size)).take f.size)
    ' ' :: List.replicate (gap + f.width - text.length) ' ' ++ text

def plainText (bytes : Bytes) : List Char :=
  bytes.map fun b => if 32 ≤ b ∧ b < 127 then Char.ofNat b.toNat else '.'

def addressText (radix : Char) (n : Nat) : List Char :=
  let filled (width base : Nat) : List Char :=
    let ds := Nat.toDigits base n
    List.replicate (width - ds.length) '0' ++ ds
  match radix with
  | 'x' => filled 6 16
  | 'd' => filled 7 10
  | 'n' => []
  | _ => filled 7 8

def dumpLines (forms : List DumpForm) (radix : Char) (all : Bool) (width perBlock : Nat) :
    (fuel : Nat) → (place : Nat) → (before : Option Bytes) → (isStarred : Bool) → Bytes → List (List Char)
  | 0, _, _, _, _ => []
  | _, place, _, _, [] => if radix = 'n' then [] else [addressText radix place]
  | fuel + 1, place, before, isStarred, bytes =>
    let line := bytes.take width
    let rest := bytes.drop width
    let next := place + line.length
    if !all ∧ before = some line ∧ line.length = width then
      (if isStarred then [] else [['*']]) ++ dumpLines forms radix all width perBlock fuel next before true rest
    else
      let address := addressText radix place
      let shown := (List.range forms.length).filterMap fun i =>
        (forms[i]?).map fun f =>
          let body := f.line width perBlock line
          let gap := List.replicate (perBlock - body.length) ' '
          (if i = 0 then address else List.replicate address.length ' ') ++ body ++
            (if f.isTexted then gap ++ ' ' :: ' ' :: '>' :: plainText line ++ ['<'] else [])
      shown ++ dumpLines forms radix all width perBlock fuel next (some line) false rest

def formLetter? : Char → Option String
  | 'a' => some "a"
  | 'b' => some "o1"
  | 'c' => some "c"
  | 'd' => some "u2"
  | 'i' => some "d4"
  | 'l' => some "d8"
  | 'o' => some "o2"
  | 's' => some "d2"
  | 'x' => some "x2"
  | _ => none

/-- Writes the octets of files as numbers or characters. -/
def od : Work := fun c w args =>
  let args := args.map fun arg =>
    if "-w".toList.isPrefixOf arg.toList then "--width=" ++ String.ofList (arg.toList.drop 2) else arg
  reading
    { letters := "abcdilosxv", valued := "AjNt", optional := "\x01"
      long := [("address-radix", 'A'), ("skip-bytes", 'j'), ("read-bytes", 'N'), ("format", 't'),
        ("output-duplicates", 'v'), ("width", '\x01')] } 1
    (fun c w a =>
      let texts := a.options.filterMap fun o => if o.1 = 't' then some o.2 else formLetter? o.1
      let forms := (if texts = [] then ["o2"] else texts).mapM fun t => dumpForms t (t.length + 1) t.toList
      let number (letter : Char) : Except String (Option Nat) :=
        match a.value? letter with
        | none => .ok none
        | some text =>
          let n := match text.toList with
            | '0' :: 'x' :: ds => if ds ≠ [] ∧ ds.all (fun c => c.isDigit || ('a' ≤ c && c ≤ 'f')) then
                some (ds.foldl (fun n c => n * 16 + (if c.isDigit then c.toNat - 48 else c.toNat - 87)) 0) else none
            | _ => size? text
          match n with
          | some n => .ok (some n)
          | none => .error ("invalid -" ++ String.ofList [letter] ++ " argument " ++ named text)
      let radix : Except String Char := match (a.value? 'A').map String.toList with
        | none => .ok 'o'
        | some cs =>
          if cs.length = 1 ∧ "doxn".toList.contains (cs.headD ' ') then .ok (cs.headD ' ')
          else
            .error ("invalid output address radix \x27" ++ String.ofList (cs.take 1) ++
              "\x27; it must be one character from [doxn]")
      let width : Except String Nat := match a.value? '\x01' with
        | none => .ok 16
        | some "" => .ok 32
        | some text =>
          match natural? text.toList with
          | some n => .ok n
          | none => .error ("invalid -w argument " ++ named text)
      let settings : Except String (Char × Option Nat × Option Nat × List (List DumpForm) × Nat) := do
        pure (← radix, ← number 'j', ← number 'N', ← forms, ← width)
      match settings with
      | .error reason => refused c w 1 reason
      | .ok (radix, skip, most, forms, width) =>
        let (world, found) := contents c w a.operands
        let all := (found.filterMap Except.toOption).flatten
        let faults := faultsOf c unreadable a.operands found
        let forms := forms.flatten
        let widest := forms.foldl (fun m f => max m f.size) 1
        let isOdd : Bool := width = 0 || width % widest ≠ 0
        let warning : List Complaint :=
          if isOdd then
            [Call.complaint c
              ("warning: invalid width " ++ toString width ++ "; using " ++ toString widest ++ " instead")]
          else []
        let width := if isOdd then widest else width
        let skip := skip.getD 0
        if all.length < skip then
          { world, complaints := faults ++ [Call.complaint c "cannot skip past end of combined input"], status := 1 }
        else
          let perBlock := forms.foldl (fun m f => max m ((f.width + 1) * (width / f.size))) 0
          let bytes := (all.drop skip).take (most.getD all.length)
          let lines := dumpLines forms radix (a.has 'v') width perBlock (bytes.length + 2) skip none false bytes
          let isUnopened (f : Except Fault Bytes) : Bool := match f with
            | .ok _ | .error .isDirectory => false
            | .error _ => true
          { world, complaints := warning ++ faults
            output := if found.all isUnopened then []
              else Octets.ofChars (lines.flatMap (· ++ ['\n']))
            status := if faults.isEmpty then 0 else 1 }) c w args

end SbtWorkspace.Simulation.Utility
