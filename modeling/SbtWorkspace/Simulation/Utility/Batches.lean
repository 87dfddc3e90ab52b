import SbtWorkspace.Simulation.Utility.Tree
import SbtWorkspace.Total

/-! The program that runs a command with arguments that it reads. The arguments are cut into batches, and each batch
is one run. Main statement: batches hold all arguments in their order (`flatten_cutBy`). -/

namespace SbtWorkspace.Simulation.Utility

/-- An argument that was read: its text, and whether the line of arguments goes on after it. -/
structure ReadArgument where
  text : List Char
  endsLine : Bool

def separatesArguments (c : Char) : Bool := c = ' ' || c = '\t' || c = '\n' || c = '\x0b' || c = '\x0c'

/-- An argument at the beginning of a text with its quotes taken off, and the rest; `none` if a quote is not closed. -/
def quotedArgument (isEnd : Char → Bool) : (fuel : Nat) → List Char → Option (List Char × List Char)
  | 0, _ => none
  | _, [] => some ([], [])
  | fuel + 1, '\\' :: c :: rest => (quotedArgument isEnd fuel rest).map fun r => (c :: r.1, r.2)
  | fuel + 1, c :: rest =>
    if isEnd c then some ([], c :: rest)
    else if c = '\x27' ∨ c = '"' then
      let inner := rest.takeWhile fun d => d ≠ c && d ≠ '\n'
      match rest.drop inner.length with
      | d :: after => if d = c then (quotedArgument isEnd fuel after).map fun r => (inner ++ r.1, r.2) else none
      | [] => none
    else (quotedArgument isEnd fuel rest).map fun r => (c :: r.1, r.2)

/-- The arguments of a text between blanks, as far as they can be read, and whether all can. -/
def readArguments : (fuel : Nat) → List Char → List ReadArgument × Bool
  | 0, _ => ([], false)
  | fuel + 1, cs =>
    match cs.dropWhile separatesArguments with
    | [] => ([], true)
    | cs =>
      match quotedArgument separatesArguments (cs.length + 1) cs with
      | none => ([], false)
      | some (text, rest) =>
        let (more, isWhole) := readArguments fuel rest
        (⟨text, rest.head? = some '\n' || rest = []⟩ :: more, isWhole)

/-- The arguments of a text, one on each line, without the blanks before them. -/
def readLines : (fuel : Nat) → List Char → List ReadArgument × Bool
  | 0, _ => ([], false)
  | fuel + 1, cs =>
    match cs.dropWhile separatesArguments with
    | [] => ([], true)
    | cs =>
      match quotedArgument (· = '\n') (cs.length + 1) cs with
      | none => ([], false)
      | some (text, rest) =>
        let (more, isWhole) := readLines fuel rest
        (⟨text, true⟩ :: more, isWhole)

def delimitedArguments (delimiter : Char) (cs : List Char) : List ReadArgument :=
  let parts := List.splitOn delimiter cs
  let parts := if parts.getLast? = some [] then parts.dropLast else parts
  parts.map fun p => ⟨p, true⟩

/-- Arguments in batches: one more is begun where a batch is full. -/
def cutBy (isFull : List α → α → Bool) (batch : List α) : List α → List (List α)
  | [] => if batch.isEmpty then [] else [batch]
  | a :: rest =>
    if !batch.isEmpty && isFull batch a then batch :: cutBy isFull [a] rest
    else cutBy isFull (batch ++ [a]) rest

theorem flatten_cutBy (isFull : List α → α → Bool) (batch items : List α) :
    (cutBy isFull batch items).flatten = batch ++ items := by
  induction items generalizing batch with
  | nil => cases batch <;> simp [cutBy]
  | cons a rest ih =>
    unfold cutBy
    split
    · simp [ih]
    · simp [ih]

def delimiter? (text : String) : Option Char :=
  match text.toList with
  | [c] => some c
  | ['\\', 'n'] => some '\n'
  | ['\\', 't'] => some '\t'
  | ['\\', '0'] => some '\x00'
  | ['\\', '\\'] => some '\\'
  | ['\\', 'r'] => some '\r'
  | _ => none

def runStatus (e : Ending) (status : Nat) : Nat × Option String :=
  match e with
  | .killed signal => (125, some ("terminated by signal " ++ toString signal))
  | .exited 0 => (status, none)
  | .exited 255 => (124, some "exited with status 255; aborting")
  | .exited _ => (123, none)

/-- How arguments make batches: in the place of a mark, so many lines, or so many of them. -/
structure BatchRule where
  mark : Option String := none
  lines : Option Nat := none
  most : Option Nat := none

/-- A number that an option gives, or what is told of it. -/
def BatchRule.number (letter : Char) (least : Nat) (text : String) : Except String Nat :=
  let option := " for -" ++ String.ofList [letter] ++ " option"
  let (isNegative, digits) := match text.toList with
    | '-' :: rest => (true, rest)
    | cs => (false, cs)
  match natural? digits with
  | none => .error ("invalid number \"" ++ text ++ "\"" ++ option)
  | some n =>
    if isNegative ∨ n < least then
      .error ("value " ++ text ++ option ++ " should be >= " ++ toString least)
    else .ok n

/-- The rule after an option. The last one counts of those that do not go together, with a warning. -/
def BatchRule.add (r : BatchRule) (letter : Char) (value : String) : Except String (BatchRule × List String) :=
  let warn (isSet : Bool) (old new : String) : List String :=
    if isSet then
      ["warning: options --" ++ old ++ " and " ++ new ++ " are mutually exclusive, ignoring previous --" ++ old ++
        " value"]
    else []
  let lines (name : String) (n : Nat) : BatchRule × List String :=
    ({ lines := some n }, warn r.most.isSome "max-args" name ++ warn r.mark.isSome "replace" name)
  match letter with
  | 'I' | '\x01' =>
    let mark := if letter = '\x01' ∧ value = "" then "\x7b\x7d" else value
    let name := "--replace/-I/-i"
    .ok ({ mark := some mark }, warn r.lines.isSome "max-lines" name ++ warn r.most.isSome "max-args" name)
  | 'L' => (BatchRule.number 'L' 1 value).map (lines "-L")
  | '\x02' => (BatchRule.number 'l' 1 (if value = "" then "1" else value)).map (lines "--max-lines/-l")
  | 'n' => do
    let n ← BatchRule.number 'n' 1 value
    if n = 1 ∧ r.mark.isSome then pure (r, [])
    else
      let name := "--max-args/-n"
      pure ({ most := some n }, warn r.lines.isSome "max-lines" name ++ warn r.mark.isSome "replace" name)
  | _ => .ok (r, [])

def BatchRule.ofOptions (options : List (Char × String)) : Except String (BatchRule × List String) :=
  options.foldlM (fun (done : BatchRule × List String) (letter, value) => do
    let (r, warnings) ← done.1.add letter value
    pure (r, done.2 ++ warnings)) ({}, [])

/-- The arguments with an option whose value may be attached written as a long one. The value of an option may be
still to come. -/
def attachedOptions : (pending : Bool) → List String → List String
  | _, [] => []
  | true, value :: rest => value :: attachedOptions false rest
  | false, arg :: rest =>
    match arg.toList with
    | '-' :: '-' :: name =>
      let waits := ["arg-file", "delimiter", "max-args", "max-chars", "max-procs", "process-slot-var"]
      if name = [] then arg :: rest else arg :: attachedOptions (waits.contains (String.ofList name)) rest
    | '-' :: letters =>
      let plain := letters.takeWhile "0oprtx".toList.contains
      let before := if plain = [] then [] else [String.ofList ('-' :: plain)]
      let long (name : String) (value : List Char) : List String :=
        before ++ (name ++ (if value = [] then "" else "=" ++ String.ofList value)) :: attachedOptions false rest
      match letters.drop plain.length with
      | 'i' :: value => long "--replace" value
      | 'l' :: value => long "--max-lines" value
      | 'e' :: value => long "--eof" value
      | [_] => arg :: attachedOptions true rest
      | _ => if letters = [] then arg :: rest else arg :: attachedOptions false rest
    | _ => arg :: rest

def xargs (launch : Launching) : Work := fun c w args =>
  reading
    { letters := "0oprtx", valued := "EILPadns", optional := "\x01\x02\x03", isFirst := true
      long := [("null", '0'), ("arg-file", 'a'), ("delimiter", 'd'), ("eof", '\x03'), ("replace", '\x01'),
        ("max-lines", '\x02'), ("max-args", 'n'), ("interactive", 'p'), ("no-run-if-empty", 'r'), ("max-chars", 's'),
        ("verbose", 't'), ("exit", 'x'), ("max-procs", 'P'), ("open-tty", 'o'), ("show-limits", '\x04'),
        ("process-slot-var", '\x05')] } 1
    (fun c w a =>
      let number (letter : Char) (least : Nat) : Except String (Option Nat) :=
        match a.value? letter with
        | none => .ok none
        | some text => (BatchRule.number letter least text).map some
      let delimiter : Except String (Option Char) := match a.last? "0d" with
        | some '0' => .ok (some '\x00')
        | some _ =>
          let text := (a.value? 'd').getD ""
          match delimiter? text with
          | some d => .ok (some d)
          | none =>
            .error ("Invalid input delimiter specification " ++ text ++
              ": the delimiter must be either a single character or an escape sequence starting with \\.")
        | none => .ok none
      let settings : Except String ((BatchRule × List String) × Option Nat) := do
        let rule ← BatchRule.ofOptions a.options
        let size ← number 's' 1
        let _ ← number 'P' 0
        pure (rule, size)
      let source : Except Fault (World × Bytes) := match a.value? 'a' with
        | some path => w.readFile c path
        | none => w.readInput
      match settings, delimiter, source with
      | .error reason, _, _ => misused c w 1 reason
      | .ok _, .error reason, _ => refused c w 1 reason
      | .ok _, .ok _, .error fault =>
        refused c w 1 ("Cannot open input file " ++ named ((a.value? 'a').getD "-") ++ ": " ++ fault.wording)
      | .ok ((rule, warnings), size), .ok delimiter, .ok (w, bytes) =>
        if a.has 'p' then refused c w 1 "failed to open /dev/tty for reading: No such device or address"
        else
          let w := warnings.foldl (Call.complain c) w
          let cs := Octets.toChars bytes
          let (found, isWhole) := match delimiter with
            | some d => (delimitedArguments d cs, true)
            | none => if rule.mark.isSome then readLines (cs.length + 1) cs else readArguments (cs.length + 1) cs
          let quote := (cs.find? fun c => c = '"' || c = '\x27').getD '"'
          let w := if isWhole then w
            else Call.complain c w ("unmatched " ++ (if quote = '"' then "double" else "single") ++
              " quote; by default quotes are special to xargs unless you use the -0 option")
          let stop := (a.value? 'E').or ((a.value? '\x03').filter (· ≠ ""))
          let found := match stop with
            | some mark => if delimiter.isSome then found else
              found.takeWhile fun r => Octets.toString r.text ≠ mark
            | none => found
          let words := if a.operands = [] then ["echo"] else a.operands
          let text (r : ReadArgument) : String := Octets.toString r.text
          let runs : List (List String) := match rule.mark with
            | some mark => found.map fun r =>
              (words.take 1) ++ (words.drop 1).map fun word => substituted mark.toList (text r).toList word.toList
            | none =>
              let start := total (fun s => s.utf8ByteSize + 1) words
              let isFull (batch : List ReadArgument) (r : ReadArgument) : Bool :=
                rule.most.any (· ≤ batch.length) ||
                  (rule.lines.any fun n => n ≤ (batch.filter (·.endsLine)).length) ||
                  size.getD 131072 < start + total (fun b => b.text.length + 1) (r :: batch)
              let batches := cutBy isFull [] found
              let batches := if batches = [] ∧ !a.has 'r' then [[]] else batches
              batches.map fun batch => words ++ batch.map text
          let (world, status, _) := runs.foldl
            (fun (done : World × Nat × Bool) run =>
              let (w, status, isDone) := done
              if isDone then done
              else
                let shown := " ".intercalate (run.map shownName) ++ "\n"
                let w := if a.has 't' then w.emit (octets shown) ((c.sink? 2).getD .lost) else w
                let input := w.input
                match launch c (if a.has 'a' then w else { w with input := [] }) run with
                | .ok (w, ending) =>
                  let (status, reason) := runStatus ending status
                  let w := if a.has 'a' then w else { w with input }
                  match reason with
                  | some text => (Call.complain c w (run.headD "" ++ ": " ++ text), status, true)
                  | none => (w, status, false)
                | .error fault =>
                  (Call.complain c w (run.headD "" ++ ": " ++ fault.wording), if fault = .noEntry then 127 else 126,
                    true))
            (w, 0, false)
          { world, status := if isWhole then status else 1 })
    c w (attachedOptions false args)
where
  /-- A word with a mark replaced by a text. -/
  substituted (mark text : List Char) (word : List Char) : String :=
    let rec go : (fuel : Nat) → List Char → List Char
      | 0, cs => cs
      | _, [] => []
      | fuel + 1, c :: rest =>
        if mark ≠ [] ∧ mark.isPrefixOf (c :: rest) then text ++ go fuel ((c :: rest).drop mark.length)
        else c :: go fuel rest
    String.ofList (go (word.length + 1) word)

end SbtWorkspace.Simulation.Utility
