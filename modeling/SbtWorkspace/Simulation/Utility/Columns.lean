import SbtWorkspace.Simulation.Printing
import SbtWorkspace.Simulation.Utility.Outcome

/-! Programs that work on the columns of lines: they cut parts out of them, put lines side by side, break long
ones, and exchange tabs and blanks. -/

namespace SbtWorkspace.Simulation.Utility

/-- A range of places in a line, counted from one; without an end it goes on. -/
abbrev Span := Nat × Option Nat

def Span.covers (s : Span) (place : Nat) : Bool := s.1 ≤ place && s.2.all (place ≤ ·)

def span? (cs : List Char) : Option Span :=
  let first := cs.takeWhile (· ≠ '-')
  let ordered (s : Span) : Option Span := if 0 < s.1 ∧ s.2.all (s.1 ≤ ·) then some s else none
  match cs.drop first.length with
  | [] => (natural? first).bind fun n => ordered (n, some n)
  | ['-'] => (natural? first).bind fun n => ordered (n, none)
  | _ :: last =>
    if first = [] then (natural? last).bind fun n => ordered (1, some n)
    else do ordered (← natural? first, some (← natural? last))

def listed (text : String) : List (List Char) := text.toList.splitOnP fun c => c = ',' || c = ' ' || c = '\t'

def spans? (text : String) : Option (List Span) := (listed text).mapM span?

def spansFault (areFields : Bool) (text : String) : String :=
  let bad := ((listed text).find? fun cs => (span? cs).isNone).getD []
  let first := bad.takeWhile (· ≠ '-')
  let last := (bad.drop first.length).drop 1
  let isDigits (cs : List Char) : Bool := cs.all Char.isDigit
  if bad = ['-'] then "invalid range with no endpoint: -"
  else if isDigits first ∧ isDigits last then
    if bad.all (fun c => c = '0') ∨ natural? first = some 0 then
      (if areFields then "fields are" else "byte/character positions are") ++ " numbered from 1"
    else "invalid decreasing range"
  else if areFields then "invalid field value " ++ named (String.ofList (bad.dropWhile Char.isDigit))
  else "invalid byte/character position " ++ named (String.ofList (bad.dropWhile Char.isDigit))

/-- Spans in their order, those that overlap put together. -/
def merged (spans : List Span) : List Span :=
  (spans.mergeSort fun s t => s.1 ≤ t.1).foldr
    (fun s done =>
      match done with
      | t :: rest =>
        match s.2 with
        | none => [s]
        | some last =>
          if t.1 ≤ last then (s.1, t.2.map (max last)) :: rest else s :: done
      | [] => [s]) []

/-- The spans between spans that are in their order. -/
def between : (start : Nat) → List Span → List Span
  | start, [] => [(start, none)]
  | start, (first, last) :: rest =>
    let gap : List Span := if start < first then [(start, some (first - 1))] else []
    match last with
    | some last => gap ++ between (max start (last + 1)) rest
    | none => gap

def Span.items (s : Span) (items : List α) : List α :=
  match s.2 with
  | some last => (items.take last).drop (s.1 - 1)
  | none => items.drop (s.1 - 1)

/-- Cuts parts out of lines. -/
def cut : Work :=
  reading
    { letters := "nsz\x01", valued := "bcdf\x02"
      long := [("bytes", 'b'), ("characters", 'c'), ("delimiter", 'd'), ("fields", 'f'), ("only-delimited", 's'),
        ("complement", '\x01'), ("output-delimiter", '\x02')] } 1 fun c w a =>
    let lists := a.options.filter fun o => "bcf".toList.contains o.1
    let delimiter := Octets.ofString ((a.value? 'd').getD "\t")
    match lists with
    | [(unit, list)] =>
      match spans? list with
      | none => misused c w 1 (spansFault (unit = 'f') list)
      | some spans =>
        let spans := if a.has '\x01' then between 1 (merged spans) else merged spans
        if 1 < delimiter.length then misused c w 1 "the delimiter must be a single character"
        else if unit ≠ 'f' ∧ a.has 'd' then
          misused c w 1 "an input delimiter may be specified only when operating on fields"
        else if unit ≠ 'f' ∧ a.has 's' then
          misused c w 1 "suppressing non-delimited lines makes sense\n\tonly when operating on fields"
        else
          let joint := ((a.value? '\x02').map Octets.ofString)
          let part (line : List Char) : Option (List Char) :=
            if unit = 'f' then
              let mark := delimiter.headD '\x00'
              if !line.contains mark then (if a.has 's' then none else some line)
              else
                some ((joint.getD [mark]).intercalate (spans.flatMap fun s => s.items (line.splitOn mark)))
            else
              some ((joint.getD []).intercalate ((spans.map fun s => s.items line).filter (· ≠ [])))
          filtering c w a.operands 1 fun texts => ofRows ((rows texts.flatten).filterMap part)
    | [] => misused c w 1 "you must specify a list of bytes, characters, or fields"
    | _ => misused c w 1 "only one list may be specified"

/-- The characters that a list of delimiters is written for; `none` stands for no delimiter. -/
def delimiters : List Char → List (Option Char)
  | '\\' :: '0' :: rest => none :: delimiters rest
  | '\\' :: c :: rest => some ((Printing.escaped? c).getD c) :: delimiters rest
  | c :: rest => some c :: delimiters rest
  | [] => []

/-- Texts with delimiters between them, which are used in turn. -/
def joinedBy (marks : List (Option Char)) (parts : List (List Char)) : List Char :=
  ((List.range parts.length).zip parts).flatMap fun (i, part) =>
    (if i = 0 then [] else (((marks[(i - 1) % marks.length]?).join).toList)) ++ part

/-- Puts the lines of files side by side, or those of each file. -/
def paste : Work :=
  reading { letters := "sz", valued := "d", long := [("delimiters", 'd'), ("serial", 's')] } 1 fun c w a =>
    let marks := delimiters (Octets.ofString ((a.value? 'd').getD "\t"))
    let paths := if a.operands = [] then ["-"] else a.operands
    let inputs := paths.count "-"
    let (world, found) := contents c w paths
    let missing : Option (String × Fault) := (paths.zip found).findSome? fun e => match e.2 with
      | .error .isDirectory | .ok _ => none
      | .error fault => some (e.1, fault)
    match missing with
    | some (path, fault) => refused c world 1 (unreadable path fault)
    | none =>
      let shared := rows w.input
      let columns := (paths.zip (found.map fun t => t.toOption.getD [])).foldl
        (fun (done : List (List (List Char)) × Nat) entry =>
          if entry.1 = "-" ∧ 1 < inputs ∧ !a.has 's' then
            let mine := ((List.range shared.length).zip shared).filter fun l => l.1 % inputs = done.2
            (done.1 ++ [mine.map (·.2)], done.2 + 1)
          else (done.1 ++ [rows entry.2], done.2)) ([], 0)
      let columns := columns.1
      let shown := if a.has 's' then columns.map (joinedBy marks)
        else
          let height := (columns.map List.length).foldl max 0
          (List.range height).map fun i => joinedBy marks (columns.map fun column => (column[i]?).getD [])
      let complaints := faultsOf c unreadable paths found
      { world, output := ofRows shown, complaints, status := if complaints.isEmpty then 0 else 1 }

def columnAfter (column : Nat) (c : Char) : Nat :=
  if c = '\t' then (column / 8 + 1) * 8
  else if c = '\x08' then column - 1
  else if c = '\r' then 0
  else column + 1

/-- A line in pieces that are no wider than so many columns. They may be broken after blanks only, as far as there
are any. -/
def folded (width : Nat) (byOctets atBlanks : Bool) : (fuel : Nat) → List Char → List (List Char)
  | 0, cs => [cs]
  | fuel + 1, cs =>
    let next (column : Nat) (c : Char) : Nat := if byOctets then column + 1 else columnAfter column c
    let fitting := (cs.foldl
      (fun (done : Nat × Nat × Bool) c =>
        let column := next done.2.1 c
        if done.2.2 ∧ column ≤ width then (done.1 + 1, column, true) else (done.1, column, false))
      (0, 0, true)).1
    if fitting = cs.length then [cs]
    else
      let piece := cs.take (max fitting 1)
      let broken := if atBlanks then (piece.reverse.dropWhile fun c => c ≠ ' ' && c ≠ '\t').reverse else []
      let piece := if broken = [] then piece else broken
      piece :: folded width byOctets atBlanks fuel (cs.drop piece.length)

def fold : Work :=
  reading { letters := "bs", valued := "w", digits := some 'w'
            long := [("bytes", 'b'), ("spaces", 's'), ("width", 'w')] } 1 fun c w a =>
    match ((a.value? 'w').getD "80").toNat? with
    | none => refused c w 1 ("invalid number of columns: " ++ named ((a.value? 'w').getD ""))
    | some 0 => refused c w 1 "invalid number of columns: '0': Numerical result out of range"
    | some width =>
      filtering c w a.operands 1 fun texts =>
        (lines texts.flatten).flatMap fun line =>
          let cs := Octets.toChars (bare line)
          let pieces := folded width (a.has 'b') (a.has 's') (cs.length + 1) cs
          Octets.ofChars (['\n'].intercalate pieces) ++ line.drop cs.length

/-- Where tabs stop: every so many columns, or at columns that are listed. -/
inductive Stops where
  | every (n : Nat)
  | listed (columns : List Nat)

def Stops.next? (s : Stops) (column : Nat) : Option Nat :=
  match s with
  | every n => some ((column / n + 1) * n)
  | listed columns => columns.find? (column < ·)

def stops? (text : String) : Option Stops := do
  let ns ← (text.toList.splitOnP fun c => c = ',' || c = ' ').mapM natural?
  match ns with
  | [0] => none
  | [n] => pure (.every n)
  | _ => if ns.Pairwise (· < ·) then pure (.listed ns) else none

def stopsFault (text : String) : String :=
  let parts := text.toList.splitOnP fun c => c = ',' || c = ' '
  if !parts.all (fun cs => cs.all Char.isDigit) then
    "tab size contains invalid character(s): " ++ named (String.ofList (text.toList.dropWhile Char.isDigit))
  else if parts.any fun cs => natural? cs = some 0 then "tab size cannot be 0"
  else "tab sizes must be ascending"

def expand : Work :=
  reading { letters := "i", valued := "t", digits := some 't', long := [("initial", 'i'), ("tabs", 't')] } 1
    fun c w a =>
    match stops? ((a.value? 't').getD "8") with
    | none => refused c w 1 (stopsFault ((a.value? 't').getD ""))
    | some s =>
      filtering c w a.operands 1 fun texts =>
        Octets.ofChars ((Octets.toChars texts.flatten).foldl
          (fun (done : List Char × Nat × Bool) ch =>
            let (out, column, isInitial) := done
            if ch = '\n' then (ch :: out, 0, true)
            else if ch = '\t' ∧ (isInitial ∨ !a.has 'i') then
              let goal := (s.next? column).getD (column + 1)
              (List.replicate (goal - column) ' ' ++ out, goal, isInitial)
            else if ch = '\x08' then (ch :: out, column - 1, isInitial)
            else (ch :: out, column + 1, isInitial && ch = ' ')) ([], 0, true)).1.reverse

/-- A run of blanks and tabs that begins in a column, with as many tabs as it can have; `isWhole` says that one blank
before a stop may be a tab. -/
def tabbed (s : Stops) (isWhole : Bool) : (fuel : Nat) → (column goal : Nat) → List Char
  | 0, column, goal => List.replicate (goal - column) ' '
  | fuel + 1, column, goal =>
    match s.next? column with
    | some stop =>
      if stop ≤ goal ∧ (isWhole ∨ column + 1 < stop) then '\t' :: tabbed s true fuel stop goal
      else if stop ≤ goal then ' ' :: tabbed s true fuel (column + 1) goal
      else List.replicate (goal - column) ' '
    | none => List.replicate (goal - column) ' '

/-- A line with tabs in the place of blanks, at its beginning or everywhere. -/
def withTabs (s : Stops) (everywhere : Bool) : (fuel : Nat) → (column : Nat) → List Char → List Char
  | 0, _, cs => cs
  | fuel + 1, column, cs =>
    let run := cs.takeWhile fun c => c = ' ' || c = '\t'
    let rest := cs.drop run.length
    let goal := run.foldl (fun column c => if c = '\t' then (s.next? column).getD (column + 1) else column + 1) column
    let isWhole := column = 0 || 1 < run.length || run.contains '\t'
    let shown := if run = [] then [] else tabbed s isWhole (run.length + 1) column goal
    if !everywhere then shown ++ rest
    else
      match rest with
      | [] => shown
      | c :: more => shown ++ c :: withTabs s everywhere fuel (goal + 1) more

def unexpand : Work :=
  reading { letters := "a\x01", valued := "t", digits := some 't'
            long := [("all", 'a'), ("tabs", 't'), ("first-only", '\x01')] } 1 fun c w a =>
    match stops? ((a.value? 't').getD "8") with
    | none => refused c w 1 (stopsFault ((a.value? 't').getD ""))
    | some s =>
      filtering c w a.operands 1 fun texts =>
        (lines texts.flatten).flatMap fun line =>
          let cs := Octets.toChars (bare line)
          let everywhere := (a.has 'a' || a.has 't') && !a.has '\x01'
          Octets.ofChars (withTabs s everywhere (cs.length + 1) 0 cs) ++ line.drop cs.length

end SbtWorkspace.Simulation.Utility
