import SbtWorkspace.Simulation.Binary
import SbtWorkspace.Simulation.Utility.Lines

/-! Programs that put lines in order, and that compare lines which are in order. Lines are compared by keys, which are
parts of them; lines whose keys are equal are compared as a whole. Main statement: sorting loses no line and makes
none (`sorted_perm`). -/

namespace SbtWorkspace.Simulation.Utility

/-- How the characters of a key are compared. -/
inductive Reading where
  | plain
  | numeric
  | general
  | human
  | month
  | version
  deriving DecidableEq, Repr

structure KeyStyle where
  reading : Reading := .plain
  isReverse : Bool := false
  folds : Bool := false
  isDictionary : Bool := false
  printableOnly : Bool := false
  skipsStart : Bool := false
  skipsEnd : Bool := false
  deriving DecidableEq

/-- A place in a line: a field and a character in it, both counted from one. Character 0 is the end of the field. -/
abbrev Place := Nat × Nat

/-- A key: where it begins and ends, and how it is compared. -/
structure SortKey where
  start : Place := (1, 1)
  finish : Option Place := none
  style : KeyStyle := {}

def KeyStyle.add? (s : KeyStyle) (isEnd : Bool) : Char → Option KeyStyle
  | 'b' => some (if isEnd then { s with skipsEnd := true } else { s with skipsStart := true })
  | 'd' => some { s with isDictionary := true }
  | 'f' => some { s with folds := true }
  | 'g' => some { s with reading := .general }
  | 'h' => some { s with reading := .human }
  | 'i' => some { s with printableOnly := true }
  | 'M' => some { s with reading := .month }
  | 'n' => some { s with reading := .numeric }
  | 'r' => some { s with isReverse := true }
  | 'V' => some { s with reading := .version }
  | 'R' => some s
  | _ => none

def place? (isEnd : Bool) (s : KeyStyle) (cs : List Char) : Option (Place × KeyStyle × List Char) := do
  let (field, rest) ← Regex.number? cs
  let (char, rest) ← match rest with
    | '.' :: rest => Regex.number? rest
    | _ => some (if isEnd then 0 else 1, rest)
  let letters := rest.takeWhile (· ≠ ',')
  let s ← letters.foldlM (fun s c => s.add? isEnd c) s
  if field = 0 ∨ (!isEnd ∧ char = 0) then none else pure ((field, char), s, rest.drop letters.length)

/-- The key that a text is written for; `base` is how it is compared if it has no options of its own. -/
def key? (base : KeyStyle) (text : String) : Option SortKey := do
  let (start, s, rest) ← place? false {} text.toList
  let (finish, s) ← match rest with
    | [] => some (none, s)
    | _ :: rest => do
      let (finish, s, rest) ← place? true s rest
      if rest = [] then some (some finish, s) else none
  pure { start, finish, style := if s = {} then base else s }

/-- Whether a character is a blank. -/
def isBlank (c : Char) : Bool := c = ' ' || c = '\t' || c = '\n'

/-- What is left of a line from a field on. Without a separator a field begins with the blanks before it. -/
def fromField (separator : Option Char) : (fields : Nat) → List Char → List Char
  | 0, cs => cs
  | fields + 1, cs =>
    match separator with
    | some c => fromField separator fields ((cs.dropWhile (· ≠ c)).drop 1)
    | none => fromField separator fields ((cs.dropWhile isBlank).dropWhile (!isBlank ·))

def endOfField (separator : Option Char) (fields : Nat) (cs : List Char) : Nat :=
  let rest := fromField separator (fields - 1) cs
  let field := match separator with
    | some c => (rest.takeWhile (· ≠ c)).length
    | none =>
      let blanks := (rest.takeWhile isBlank).length
      blanks + ((rest.drop blanks).takeWhile (!isBlank ·)).length
  cs.length - rest.length + field

/-- The characters of a key in a line. -/
def SortKey.of (k : SortKey) (separator : Option Char) (cs : List Char) : List Char :=
  let rest := fromField separator (k.start.1 - 1) cs
  let rest := if k.style.skipsStart then rest.dropWhile isBlank else rest
  let begun := min cs.length (cs.length - rest.length + (k.start.2 - 1))
  let finish := match k.finish with
    | none => cs.length
    | some (field, 0) => endOfField separator field cs
    | some (field, char) =>
      let rest := fromField separator (field - 1) cs
      let rest := if k.style.skipsEnd then rest.dropWhile isBlank else rest
      min cs.length (cs.length - rest.length + char)
  (cs.take finish).drop begun

/-- The value of a text that begins with a decimal number, as a numerator over a power of ten, and the rest. -/
def decimalValue (cs : List Char) : Int × Nat × List Char :=
  let cs := cs.dropWhile isBlank
  let (sign, cs) : Int × List Char := match cs with
    | '-' :: rest => (-1, rest)
    | _ => (1, cs)
  let whole := cs.takeWhile Char.isDigit
  let rest := cs.drop whole.length
  let (places, rest) := match rest with
    | '.' :: rest => (rest.takeWhile Char.isDigit, rest.dropWhile Char.isDigit)
    | _ => ([], rest)
  let digits := whole ++ places
  (sign * (digits.foldl (fun n c => n * 10 + (c.toNat - 48)) 0 : Nat), places.length, rest)

/-- The order of two numbers over powers of ten. -/
def compareDecimals (a b : Int × Nat) : Ordering := compare (a.1 * Nat.pow 10 b.2) (b.1 * Nat.pow 10 a.2)

def sizeRank (n : Int) : List Char → Int
  | c :: _ =>
    let rank : Int := ("KMGTPEZY".toList.idxOf? (if c = 'k' then 'K' else c)).elim 0 fun i => (i : Int) + 1
    if n < 0 then -rank else if n = 0 then 0 else rank
  | [] => 0

def monthNumber (cs : List Char) : Nat :=
  let word := ((cs.dropWhile isBlank).take 3).map Char.toUpper
  (["JAN", "FEB", "MAR", "APR", "MAY", "JUN", "JUL", "AUG", "SEP", "OCT", "NOV", "DEC"].idxOf?
    (String.ofList word)).elim 0 (· + 1)

/-- The rank of a general number among others: what is no number comes first. -/
def generalValue (cs : List Char) : Nat × Int × Int :=
  let cs := cs.dropWhile isBlank
  match Binary.decimal? cs with
  | none => (0, 0, 0)
  | some (negative, n, e, _) =>
    (1, if negative then -(n : Int) else n, max (-4000) (min e 4000))

def compareGeneral (a b : List Char) : Ordering :=
  let (k, m, e) := generalValue a
  let (l, n, f) := generalValue b
  if k ≠ l then compare k l
  else
    let least := min e f
    compare (m * Nat.pow 10 (e - least).toNat) (n * Nat.pow 10 (f - least).toNat)

/-- The order of characters in versions: a tilde before the end, the end before letters, letters before the rest. -/
def versionRank : Option Char → Int
  | some '~' => -2
  | none => -1
  | some c => if c.isDigit then 0 else if c.isAlpha then c.toNat else c.toNat + 256

def compareVersions : (fuel : Nat) → List Char → List Char → Ordering
  | 0, _, _ => .eq
  | fuel + 1, a, b =>
    if a = [] ∧ b = [] then .eq
    else
      let starts (cs : List Char) : Bool := cs.head?.any Char.isDigit
      if starts a ∧ starts b then
        let number (cs : List Char) : Nat :=
          (cs.takeWhile Char.isDigit).foldl (fun n c => n * 10 + (c.toNat - 48)) 0
        (compare (number a) (number b)).then
          (compareVersions fuel (a.dropWhile Char.isDigit) (b.dropWhile Char.isDigit))
      else
        let rank (cs : List Char) : Int :=
          match cs.head? with
          | none => -1
          | some c => versionRank (some c)
        let next (cs : List Char) : List Char := if starts cs then cs else cs.tail
        (compare (rank a) (rank b)).then (compareVersions fuel (next a) (next b))

def compareTexts : List Char → List Char → Ordering
  | [], [] => .eq
  | [], _ => .lt
  | _, [] => .gt
  | a :: as, b :: bs => (compare a.toNat b.toNat).then (compareTexts as bs)

/-- The characters of a key that count in a comparison. -/
def KeyStyle.kept (s : KeyStyle) (cs : List Char) : List Char :=
  let cs := if s.isDictionary then cs.filter fun c => c.isAlphanum || isBlank c
    else if s.printableOnly then cs.filter fun c => ' ' ≤ c && c < '\x7f'
    else cs
  if s.folds then cs.map Char.toUpper else cs

/-- The order of two keys. -/
def KeyStyle.order (s : KeyStyle) (a b : List Char) : Ordering :=
  let order := match s.reading with
    | .plain => compareTexts (s.kept a) (s.kept b)
    | .numeric =>
      let (m, p, _) := decimalValue a
      let (n, q, _) := decimalValue b
      compareDecimals (m, p) (n, q)
    | .general => compareGeneral a b
    | .human =>
      let (m, p, r) := decimalValue a
      let (n, q, t) := decimalValue b
      (compare (sizeRank m r) (sizeRank n t)).then (compareDecimals (m, p) (n, q))
    | .month => compare (monthNumber a) (monthNumber b)
    | .version => compareVersions (a.length + b.length + 1) a b
  if s.isReverse then order.swap else order

structure Sorting where
  separator : Option Char := none
  keys : List SortKey := []
  base : KeyStyle := {}
  isStable : Bool := false
  isUnique : Bool := false

def Sorting.keyOrder (s : Sorting) (a b : List Char) : Ordering :=
  let keys := if s.keys = [] then [{ style := s.base }] else s.keys
  keys.foldl (fun order k => order.then (k.style.order (k.of s.separator a) (k.of s.separator b))) .eq

/-- The order of two lines. -/
def Sorting.order (s : Sorting) (a b : List Char) : Ordering :=
  let order := s.keyOrder a b
  if s.isStable || s.isUnique then order
  else order.then (if s.base.isReverse then (compareTexts a b).swap else compareTexts a b)

def Sorting.sorted (s : Sorting) (rs : List (List Char)) : List (List Char) :=
  rs.mergeSort fun a b => s.order a b != .gt

theorem sorted_perm (s : Sorting) (rs : List (List Char)) : (s.sorted rs).Perm rs :=
  List.mergeSort_perm rs _

def Sorting.unique (s : Sorting) : List (List Char) → List (List Char)
  | a :: rest =>
    match s.unique rest with
    | b :: more => if s.keyOrder a b = .eq then a :: more else a :: b :: more
    | [] => [a]
  | [] => []

/-- The first line that should come before the one that it stands after, with its number. -/
def Sorting.disorder? (s : Sorting) : (n : Nat) → List (List Char) → Option (Nat × List Char)
  | n, a :: b :: rest =>
    if s.order a b = .gt || (s.isUnique && s.keyOrder a b = .eq) then some (n + 1, b)
    else s.disorder? (n + 1) (b :: rest)
  | _, _ => none

/-- The lines of two lists, each time the smaller one of the first two. -/
def Sorting.merged (s : Sorting) : (fuel : Nat) → List (List Char) → List (List Char) → List (List Char)
  | 0, as, bs => as ++ bs
  | _, [], bs => bs
  | _, as, [] => as
  | fuel + 1, a :: as, b :: bs =>
    if s.order a b = .gt then b :: s.merged fuel (a :: as) bs else a :: s.merged fuel as (b :: bs)

def separator? (text : Option String) : Option (Option Char) :=
  match text with
  | none => some none
  | some text =>
    match Octets.ofString text with
    | [c] => some (some c)
    | ['\\', '0'] => some (some '\x00')
    | _ => none

def sort : Work :=
  reading
    { letters := "bcCdfghiMmnRrsuVz", valued := "koStT"
      long := [("ignore-leading-blanks", 'b'), ("dictionary-order", 'd'), ("ignore-case", 'f'),
        ("general-numeric-sort", 'g'), ("ignore-nonprinting", 'i'), ("month-sort", 'M'),
        ("human-numeric-sort", 'h'), ("numeric-sort", 'n'), ("reverse", 'r'), ("version-sort", 'V'),
        ("check", 'c'), ("key", 'k'), ("merge", 'm'), ("output", 'o'), ("stable", 's'),
        ("field-separator", 't'), ("unique", 'u'), ("zero-terminated", 'z'), ("buffer-size", 'S')] } 2 fun c w a =>
    let base := (a.options.map (·.1)).foldl (fun s c => (KeyStyle.add? s false c).getD s) ({} : KeyStyle)
    let base := { base with skipsEnd := base.skipsStart }
    let keys := (a.values 'k').mapM (key? base)
    match keys, separator? (a.value? 't') with
    | some keys, some separator =>
      let s : Sorting := { separator, keys, base, isStable := a.has 's', isUnique := a.has 'u' }
      let (world, found) := contents c w a.operands
      let paths := if a.operands = [] then ["-"] else a.operands
      let fault : Option String := (paths.zip found).findSome? fun (path, text) => match text with
        | .ok _ => none
        | .error .isDirectory => some ("read failed: " ++ unreadable path .isDirectory)
        | .error fault => some ("cannot read: " ++ unreadable path fault)
      let isCheck := a.has 'c' || a.has 'C'
      match fault, if isCheck then a.operands.drop 1 else [] with
      | _, extra :: _ =>
        misused c w 2 ("extra operand " ++ named extra ++ " not allowed with -" ++ (if a.has 'C' then "C" else "c"))
      | some text, [] => refused c world 2 text
      | none, [] =>
        let mark : UInt8 := if a.has 'z' then 0 else 0x0a
        let text (t : Bytes) : List (List Char) := (linesBy mark t).map fun line =>
          Octets.toChars (if line.getLast? = some mark then line.dropLast else line)
        let texts := (found.filterMap Except.toOption).map text
        let rs := texts.flatten
        if isCheck then
          match s.disorder? 1 rs with
          | none => { world }
          | some (n, line) =>
            if a.has 'C' then { world, status := 1 }
            else
              let place := (paths.headD "") ++ ":" ++ toString n
              refused c world 1 (place ++ ": disorder: " ++ Octets.toString line)
        else
          let sorted := if a.has 'm' then texts.foldl (fun done t => s.merged (done.length + t.length) done t) []
            else s.sorted rs
          let shown := if a.has 'u' then s.unique sorted else sorted
          let output := shown.flatMap fun r => Octets.ofChars r ++ [mark]
          match a.value? 'o' with
          | none => { world, output }
          | some path =>
            match world.openFile c path true with
            | .ok (world, sink) => { world := world.emit output sink }
            | .error fault => refused c world 2 ("open failed: " ++ unreadable path fault)
    | none, _ =>
      let bad := ((a.values 'k').find? fun t => (key? base t).isNone).getD ""
      if bad.toList.takeWhile Char.isDigit = [] then
        refused c w 2 ("invalid number at field start: invalid count at start of " ++ named bad)
      else refused c w 2 ("field number is zero: invalid field specification " ++ named bad)
    | _, none =>
      let text := (a.value? 't').getD ""
      refused c w 2 (if text = "" then "empty tab" else "multi-character tab " ++ named text)

/-- Rows in runs of equal ones, by the part of them that counts. -/
def runs (part : List Char → List Char) (rs : List (List Char)) : List (List (List Char)) :=
  rs.splitBy fun a b => part a == part b

/-- Groups of lines with empty lines between them, or before or after them. -/
def separated (method : String) (groups : List (List (List Char))) : List (List Char) :=
  let joined := [[]].intercalate groups
  if groups = [] then []
  else if method = "prepend" then [] :: joined
  else if method = "append" then joined ++ [[]]
  else if method = "both" then [] :: joined ++ [[]]
  else if method = "none" then groups.flatten
  else joined

def uniq : Work :=
  reading
    { letters := "cdDiuz", valued := "fsw", optional := "D\x01"
      long := [("count", 'c'), ("repeated", 'd'), ("skip-fields", 'f'), ("ignore-case", 'i'), ("skip-chars", 's'),
        ("unique", 'u'), ("check-chars", 'w'), ("all-repeated", 'D'), ("group", '\x01'), ("zero-terminated", 'z')] } 1
    fun c w a =>
    let number (letter : Char) : Option (Option Nat) :=
      match a.value? letter with
      | some text => (natural? text.toList).map some
      | none => some none
    match number 'f', number 's', number 'w' with
    | some fields, some chars, some width =>
      let mark : UInt8 := if a.has 'z' then 0 else 0x0a
      let part (cs : List Char) : List Char :=
        let cs := (fromField none (fields.getD 0) cs).drop (chars.getD 0)
        let cs := match width with
          | some n => cs.take n
          | none => cs
        if a.has 'i' then cs.map Char.toLower else cs
      let shown (run : List (List Char)) : List (List Char) :=
        let isRepeated := 1 < run.length
        if (a.has 'd' ∧ !isRepeated) ∨ (a.has 'u' ∧ isRepeated) then []
        else (run.take 1).map fun r => (if a.has 'c' then padded 7 run.length ++ [' '] else []) ++ r
      let result (text : Bytes) : Bytes :=
        let rs := (linesBy mark text).map fun l =>
          Octets.toChars (if l.getLast? = some mark then l.dropLast else l)
        let found := runs part rs
        let rs := if a.has '\x01' then separated ((a.value? '\x01').getD "") found
          else if a.has 'D' then
            let method := (a.value? 'D').getD ""
            separated (if method = "" then "none" else method) (found.filter fun run => 1 < run.length)
          else found.flatMap shown
        rs.flatMap fun r => Octets.ofChars r ++ [mark]
      let (world, found) := contents c w (a.operands.take 1)
      match found, a.operands with
      | [.ok _], _ :: _ :: extra :: _ => misused c w 1 ("extra operand " ++ named extra)
      | [.ok text], [_, path] =>
        match world.openFile c path true with
        | .ok (world, sink) => { world := world.emit (result text) sink }
        | .error fault => refused c world 1 (unreadable path fault)
      | [.ok text], _ =>
        if a.has 'c' ∧ a.has 'D' then
          misused c w 1 "printing all duplicated lines and repeat counts is meaningless"
        else if a.has '\x01' ∧ (a.has 'c' || a.has 'd' || a.has 'D' || a.has 'u') then
          misused c w 1 "--group is mutually exclusive with -c/-d/-D/-u"
        else { world, output := result text }
      | [.error .isDirectory], path :: _ => refused c world 1 ("error reading " ++ named path)
      | [.error fault], path :: _ => refused c world 1 (unreadable path fault)
      | _, _ => refused c world 1 (unreadable "-" .isDirectory)
    | none, _, _ => refused c w 1 ((a.value? 'f').getD "" ++ ": invalid number of fields to skip")
    | _, none, _ => refused c w 1 ((a.value? 's').getD "" ++ ": invalid number of bytes to skip")
    | _, _, none => refused c w 1 ((a.value? 'w').getD "" ++ ": invalid number of bytes to compare")

/-- When the order of lines is looked at that are read from two texts. -/
inductive OrderCheck where
  | always
  /-- Once a line has been found that has no partner. -/
  | ifUnpaired
  | never
  deriving DecidableEq

/-- What has been found while two texts are read side by side: what is written, whether a line had no partner, and in
which of the texts a line stood at a wrong place. -/
structure SideBySide where
  output : Bytes := []
  complaints : List Complaint := []
  hasUnpaired : Bool := false
  broken : List Nat := []

/-- Writes a line. -/
def SideBySide.write (b : SideBySide) (line : List Char) : SideBySide :=
  { b with output := b.output ++ Octets.ofChars (line ++ ['\n']) }

/-- Looks at the order of a line and the one before it, of which it is known whether it is wrong. -/
def SideBySide.check (c : Call) (mode : OrderCheck) (file : Nat) (told : String) (isWrong : Bool) (b : SideBySide) :
    SideBySide :=
  let counts := mode = .always || (mode = .ifUnpaired && b.hasUnpaired)
  if counts && isWrong && !b.broken.contains file then
    { b with
      broken := file :: b.broken
      complaints := b.complaints ++ [{ Call.complaint c told with place := b.output.length }] }
  else b

def SideBySide.isStopped (b : SideBySide) (mode : OrderCheck) : Bool := mode = .always && b.broken ≠ []

/-- The outcome of what has been found. -/
def SideBySide.outcome (c : Call) (mode : OrderCheck) (w : World) (b : SideBySide) : Outcome :=
  let last : List Complaint := if b.broken = [] ∨ mode = .always then []
    else [{ Call.complaint c "input is not in sorted order" with place := b.output.length }]
  { world := w, output := b.output, complaints := b.complaints ++ last, status := if b.broken = [] then 0 else 1 }

/-- Looks at the order of a line that is read after another one, or again at the last two lines at the end. -/
def afterLine (c : Call) (mode : OrderCheck) (file : Nat) (before : Option (List Char)) (line : List Char)
    (rest : List (List Char)) (b : SideBySide) : SideBySide :=
  let wrong (x y : List Char) : Bool := compareTexts x y = .gt
  let isWrong := match rest, before with
    | next :: _, _ => wrong line next
    | [], some before => wrong before line
    | [], none => false
  b.check c mode file ("file " ++ toString file ++ " is not in sorted order") isWrong

/-- Compares lines that are in order: each one is put into the column of the first text, the second one or both. The
lines before them are `x` and `y`. -/
def columnsOf (c : Call) (mode : OrderCheck) (put : Nat → List Char → SideBySide → SideBySide) :
    (fuel : Nat) → (x y : Option (List Char)) → List (List Char) → List (List Char) → SideBySide → SideBySide
  | 0, _, _, _, _, b => b
  | fuel + 1, x, y, as, bs, b =>
    if b.isStopped mode then b
    else
      let unpaired (b : SideBySide) : SideBySide := { b with hasUnpaired := true }
      let first (l : List Char) (as : List (List Char)) : SideBySide :=
        columnsOf c mode put fuel (some l) y as bs (afterLine c mode 1 x l as (unpaired (put 0 l b)))
      let second (l : List Char) (bs : List (List Char)) : SideBySide :=
        columnsOf c mode put fuel x (some l) as bs (afterLine c mode 2 y l bs (unpaired (put 1 l b)))
      match as, bs with
      | [], [] => b
      | l :: as, [] => first l as
      | [], l :: bs => second l bs
      | l :: as, m :: bs =>
        match compareTexts l m with
        | .lt => first l as
        | .gt => second m bs
        | .eq =>
          let b := afterLine c mode 1 x l as (put 2 l b)
          columnsOf c mode put fuel (some l) (some m) as bs
            (if b.isStopped mode then b else afterLine c mode 2 y m bs b)

def orderCheck (a : Arguments) : OrderCheck :=
  match a.last? "\x01\x02" with
  | some '\x01' => .always
  | some _ => .never
  | none => .ifUnpaired

def pairFault (operands : List String) : String :=
  match operands with
  | [] => "missing operand"
  | [one] => "missing operand after " ++ named one
  | _ :: _ :: more => "extra operand " ++ named (more.headD "")

/-- Reads two texts, and complains of the first one that cannot be read. -/
def bothContents (c : Call) (w : World) (first second : String) (reason : String → Fault → String)
    (f : World → Bytes → Bytes → Outcome) : Outcome :=
  let (world, found) := contents c w [first, second]
  match found with
  | [.ok x, .ok y] => f world x y
  | [.error fault, _] => refused c world 1 (reason first fault)
  | [_, .error fault] => refused c world 1 (reason second fault)
  | _ => { world, status := 1 }

/-- Compares two files whose lines are in order. -/
def comm : Work :=
  reading { letters := "123z", valued := "\x03"
            long := [("check-order", '\x01'), ("nocheck-order", '\x02'), ("output-delimiter", '\x03'),
              ("total", '\x04'), ("zero-terminated", 'z')] } 1
    fun c w a =>
    match a.operands with
    | [first, second] =>
      bothContents c w first second unreadable fun world x y =>
        let (as, bs) := (rows x, rows y)
        let joint := Octets.ofString ((a.value? '\x03').getD "\t")
        let isShown (column : Nat) : Bool := !a.has (Char.ofNat (column + 49))
        let before (column : Nat) : List Char :=
          ((List.range column).filter isShown).flatMap fun _ => joint
        let put (column : Nat) (line : List Char) (b : SideBySide) : SideBySide :=
          if isShown column then b.write (before column ++ line) else b
        let mode := orderCheck a
        let found := columnsOf c mode put (as.length + bs.length + 1) none none as bs {}
        let counts (column : Nat) : Nat :=
          let all := columnsOf c .never (fun k _ b => if k = column then b.write [] else b)
            (as.length + bs.length + 1) none none as bs {}
          all.output.length
        let total := joint.intercalate ([0, 1, 2].map fun k => Nat.toDigits 10 (counts k)) ++ joint ++ "total".toList
        (if a.has '\x04' ∧ !found.isStopped mode then found.write total else found).outcome c mode world
    | operands => misused c w 1 (pairFault operands)

def fieldsOf (separator : Option Char) (cs : List Char) : List (List Char) :=
  match separator with
  | some c => cs.splitOn c
  | none => (cs.splitOnP isBlank).filter (· ≠ [])

/-- How two files are joined: the separator, the field of each, and which lines without a partner are shown. -/
structure Joining where
  separator : Option Char
  field : Nat × Nat
  unpaired : List Nat
  pairs : Bool
  folds : Bool
  empty : List Char
  form : Option (List (Nat × Nat))

/-- The key of a line in one of the files. -/
def Joining.key (j : Joining) (file : Nat) (cs : List Char) : List Char :=
  let n := if file = 1 then j.field.1 else j.field.2
  let k := ((fieldsOf j.separator cs)[n - 1]?).getD []
  if j.folds then k.map Char.toLower else k

/-- The line that is made of two lines, of which one may be missing. -/
def Joining.line (j : Joining) (a b : Option (List Char)) : List Char :=
  let fields (line : Option (List Char)) : List (List Char) := (line.map (fieldsOf j.separator)).getD []
  let part (file n : Nat) : List Char :=
    let found := ((fields (if file = 1 then a else b))[n - 1]?).getD []
    if found = [] then j.empty else found
  let others (file : Nat) (line : Option (List Char)) : List (List Char) :=
    let n := if file = 1 then j.field.1 else j.field.2
    (fields line).eraseIdx (n - 1)
  let key : List Char :=
    match a, b with
    | some _, _ => ((fields a)[j.field.1 - 1]?).getD []
    | none, _ => ((fields b)[j.field.2 - 1]?).getD []
  let parts := match j.form with
    | some form => form.map fun (file, n) => if file = 0 then key else part file n
    | none => key :: others 1 a ++ others 2 b
  [j.separator.getD ' '].intercalate parts

/-- Reads the next lines of one of the files after the first one of those that are left, and looks at their order. -/
def Joining.advance (j : Joining) (c : Call) (mode : OrderCheck) (file : Nat) (path : String) (number count : Nat)
    (lines : List (List Char)) (b : SideBySide) : SideBySide :=
  ((lines.zip lines.tail).take count).zipIdx.foldl
    (fun (b : SideBySide) ((line, next), i) =>
      let isWrong := compareTexts (j.key file line) (j.key file next) = .gt
      let told := path ++ ":" ++ toString (number + i + 1) ++ ": is not sorted: " ++ Octets.toString next
      if b.isStopped mode then b else b.check c mode file told isWrong) b

/-- Puts together the lines of two files that have a key in common. `m` and `n` are the numbers of the first lines. -/
def Joining.join (j : Joining) (c : Call) (mode : OrderCheck) (x y : String) :
    (fuel : Nat) → (m n : Nat) → List (List Char) → List (List Char) → SideBySide → SideBySide
  | 0, _, _, _, _, b => b
  | fuel + 1, m, n, as, bs, b =>
    let alone (file : Nat) (line : List Char) (b : SideBySide) : SideBySide :=
      if j.unpaired.contains file then b.write (if file = 1 then j.line (some line) none else j.line none (some line))
      else b
    let unpaired (b : SideBySide) : SideBySide := { b with hasUnpaired := true }
    if b.isStopped mode then b
    else
      match as, bs with
      | [], [] => b
      | a :: more, [] =>
        j.join c mode x y fuel (m + 1) n more [] (j.advance c mode 1 x m 1 (a :: more) (alone 1 a b))
      | [], l :: more =>
        j.join c mode x y fuel m (n + 1) [] more (j.advance c mode 2 y n 1 (l :: more) (alone 2 l b))
      | a :: more, l :: others =>
        match compareTexts (j.key 1 a) (j.key 2 l) with
        | .lt =>
          j.join c mode x y fuel (m + 1) n more (l :: others)
            (unpaired (j.advance c mode 1 x m 1 (a :: more) (alone 1 a b)))
        | .gt =>
          j.join c mode x y fuel m (n + 1) (a :: more) others
            (unpaired (j.advance c mode 2 y n 1 (l :: others) (alone 2 l b)))
        | .eq =>
          let same := as.takeWhile fun line => j.key 1 line = j.key 1 a
          let equal := bs.takeWhile fun line => j.key 2 line = j.key 2 l
          let b := j.advance c mode 1 x m same.length as b
          let b := if b.isStopped mode then b else j.advance c mode 2 y n equal.length bs b
          let paired := if j.pairs then same.flatMap fun p => equal.map fun q => j.line (some p) (some q) else []
          j.join c mode x y fuel (m + same.length) (n + equal.length) (as.drop same.length) (bs.drop equal.length)
            (if b.isStopped mode then b else paired.foldl SideBySide.write b)

def joinForm? (text : String) : Option (List (Nat × Nat)) :=
  (text.toList.splitOnP fun c => c = ',' || c = ' ').mapM fun
    | ['0'] => some (0, 0)
    | '1' :: '.' :: n => (natural? n).map (1, ·)
    | '2' :: '.' :: n => (natural? n).map (2, ·)
    | _ => none

/-- The list of the fields of the first lines of two files, the one that is joined first. -/
def Joining.ownForm (j : Joining) (as bs : List (List Char)) : List (Nat × Nat) :=
  let fields (file : Nat) (lines : List (List Char)) (own : Nat) : List (Nat × Nat) :=
    let count := (fieldsOf j.separator (lines.headD [])).length
    (((List.range count).map (· + 1)).filter (· ≠ own)).map fun n => (file, n)
  (0, 0) :: fields 1 as j.field.1 ++ fields 2 bs j.field.2

/-- Joins the lines of two files that have a field in common. -/
def join : Work :=
  reading
    { letters := "iz", valued := "12aejotv"
      long := [("ignore-case", 'i'), ("check-order", '\x01'), ("nocheck-order", '\x02'), ("header", '\x03'),
        ("zero-terminated", 'z')] } 1 fun c w a =>
    let field (letter : Char) : Option Nat :=
      match (a.value? letter).or (a.value? 'j') with
      | some text => (text.toNat?).filter (0 < ·)
      | none => some 1
    let form := match a.value? 'o' with
      | some "auto" | none => some none
      | some text => (joinForm? text).map some
    match a.operands, field '1', field '2', separator? (a.value? 't'), form with
    | [first, second], some m, some n, some separator, some form =>
      let reason (path : String) (fault : Fault) : String :=
        if fault = .isDirectory then "read error: Is a directory" else unreadable path fault
      bothContents c w first second reason fun world x y =>
        let unpaired := (a.values 'a' ++ a.values 'v').filterMap (·.toNat?)
        let j : Joining :=
          { separator, field := (m, n), unpaired, pairs := a.values 'v' = [], folds := a.has 'i'
            empty := Octets.ofString ((a.value? 'e').getD ""), form }
        let (as, bs) := (rows x, rows y)
        let j := if a.value? 'o' = some "auto" then { j with form := some (j.ownForm as bs) } else j
        let mode := orderCheck a
        let isHeaded := a.has '\x03' && (as ≠ [] || bs ≠ [])
        let start : SideBySide := if isHeaded then ({} : SideBySide).write (j.line as.head? bs.head?) else {}
        let (as, bs) := if isHeaded then (as.tail, bs.tail) else (as, bs)
        (j.join c mode first second (as.length + bs.length + 1) 1 1 as bs start).outcome c mode world
    | _, none, _, _, _ | _, _, none, _, _ =>
      let text := ((a.value? '1').or (a.value? '2')).or (a.value? 'j')
      refused c w 1 ("invalid field number: " ++ named (text.getD ""))
    | _, _, _, none, _ =>
      let text := (a.value? 't').getD ""
      refused c w 1 (if text = "" then "empty tab" else "multi-character tab " ++ named text)
    | _, _, _, _, none => refused c w 1 ("invalid file number in field spec: " ++ named ((a.value? 'o').getD ""))
    | operands, _, _, _, _ => misused c w 1 (pairFault operands)

end SbtWorkspace.Simulation.Utility
