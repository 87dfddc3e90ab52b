import SbtWorkspace.Simulation.Editing.Reader
import SbtWorkspace.Simulation.Utility.Outcome

/-! Running the commands of a line editor. Each line is taken into a text that the commands change, and the text is
written at their end. -/

namespace SbtWorkspace.Simulation.Editing

/-- A line of the input: its text, whether it has an end, whether it is the last one, its number and its file. -/
structure InputLine where
  text : List Char
  isEnded : Bool
  isLast : Bool
  number : Nat
  file : Nat
  name : String

/-- Whether a range is open: not yet, as far as a line, until an expression fits, or never again. -/
inductive RangeState where
  | closed
  | upTo (line : Nat)
  | open
  | done
  deriving DecidableEq, Repr

/-- What is written after the text of a line. -/
inductive Queued where
  | text (cs : List Char)
  | file (path : String)
  | lineOf (path : String)

structure Editor where
  world : World
  line : InputLine := ⟨[], true, true, 0, 0, "-"⟩
  rest : List InputLine
  text : List Char := []
  isEnded : Bool := true
  hold : List Char := []
  replaced : Bool := false
  ranges : Array RangeState
  sought : Option Regex := none
  queue : List Queued := []
  /-- What was written, the last part first, with the file it belongs to. -/
  written : List (Nat × Bytes) := []
  lacksEnd : Bool := false
  sinks : List (String × Sink) := []
  readers : List (String × List Bytes) := []
  /-- Whether the expression that was sought last was asked for before there was one. -/
  isAstray : Bool := false

structure Settings where
  commands : Array Command
  silent : Bool := false
  mark : Char := '\n'
  width : Nat := 70
  call : Call
  execute : World → List Char → World × Bytes

/-- How the work on a line ends. -/
inductive Leave where
  | ended
  | dropped
  | again
  | quit (status : Nat) (silent : Bool)

namespace Editor

/-- Writes octets, after the end of a line that has none yet. -/
def emit (e : Editor) (s : Settings) (bytes : Bytes) : Editor :=
  let bytes := if e.lacksEnd then UInt8.ofNat s.mark.toNat :: bytes else bytes
  { e with written := (e.line.file, bytes) :: e.written, lacksEnd := false }

/-- Writes a text with an end, unless its line had none. -/
def emitText (e : Editor) (s : Settings) (text : List Char) : Editor :=
  let e := e.emit s (Octets.ofChars (text ++ if e.isEnded then [s.mark] else []))
  { e with lacksEnd := !e.isEnded }

def emitFile (e : Editor) (s : Settings) (path : String) (text : List Char) : Editor :=
  if path = "/dev/stdout" then e.emitText s text
  else
    match e.sinks.find? fun k => k.1 = path with
    | some (_, sink) =>
      { e with world := e.world.emit (Octets.ofChars (text ++ if e.isEnded then ['\n'] else [])) sink }
    | none => e

def dumpQueue (e : Editor) (s : Settings) : Editor :=
  let e' := e.queue.foldl
    (fun (e : Editor) q =>
      match q with
      | .text cs => e.emit s (Octets.ofChars cs)
      | .file path =>
        match if path = "/dev/stdin" then e.world.readInput else e.world.readFile s.call path with
        | .ok (world, bytes) => ({ e with world }.emit s bytes)
        | .error _ => e
      | .lineOf path =>
        let lines : List Bytes := match e.readers.find? fun r => r.1 = path, e.world.readFile s.call path with
          | some (_, lines), _ => lines
          | none, .ok (_, bytes) => Utility.lines bytes
          | none, .error _ => []
        match lines with
        | line :: more =>
          let e := { e with readers := (path, more) :: e.readers.filter fun r => r.1 ≠ path }
          e.emit s (Utility.ended line)
        | [] => e) e
  { e' with queue := [] }

def firstRanges (commands : Array Command) : Array RangeState :=
  commands.map fun c => if c.selector.isOpen then .open else .closed

/-- Takes the next line, if there is one. In another file, ranges begin anew. -/
def advance (e : Editor) (s : Settings) : Option Editor :=
  match e.rest with
  | line :: rest =>
    let isSame := line.file = e.line.file
    some { e with
      line, rest, text := line.text, isEnded := line.isEnded, replaced := false
      lacksEnd := e.lacksEnd && isSame
      ranges := if isSame then e.ranges else firstRanges s.commands }
  | [] => none

def fits (e : Editor) (k : Sought) : Editor × Bool :=
  match k.expression.or e.sought with
  | some r =>
    ({ e with sought := some r }, r.isIn { text := e.text.toArray, folds := k.folds, isLined := k.isLined })
  | none => ({ e with isAstray := true }, false)

def isAt (e : Editor) : LinePlace → Editor × Bool
  | .number n => (e, e.line.number = n)
  | .last => (e, e.line.isLast)
  | .every first step => (e, first ≤ e.line.number && (e.line.number - first) % step = 0)
  | .fits k => e.fits k

def selects (e : Editor) (place : Nat) (k : Selector) : Editor × Bool :=
  let here := e.line.number
  let setRange (e : Editor) (r : RangeState) : Editor := { e with ranges := e.ranges.setIfInBounds place r }
  match k.first, k.last with
  | none, _ => (e, !k.negated)
  | some first, none =>
    let (e, isHere) := e.isAt first
    (e, isHere != k.negated)
  | some first, some last =>
    let start (e : Editor) : Editor × Bool :=
      let (e, isHere) := e.isAt first
      if !isHere then (e, false)
      else
        let upTo (n : Nat) : Editor × Bool :=
          (if here < n then setRange e (.upTo n) else match first with
            | .number _ => setRange e .done
            | _ => e, true)
        match last with
        | .place (.number n) => upTo n
        | .after n => upTo (here + n)
        | .multiple n => upTo (if n = 0 then here else (here + n - 1) / n * n)
        | .place _ => (setRange e .open, true)
    let (e, isIn) : Editor × Bool :=
      match e.ranges.getD place .closed with
      | .closed => start e
      | .done => match first with
        | .number _ => (e, false)
        | _ => start e
      | .upTo n =>
        if n ≤ here then (setRange e .done, here = n) else (e, true)
      | .open =>
        match last with
        | .place p =>
          let (e, isHere) := e.isAt p
          (if isHere then setRange e .done else e, true)
        | _ => (e, true)
    (e, isIn != k.negated)

def changedCase (lasting : CaseChange) (once : Option CaseChange) (c : Char) : Char :=
  match once, lasting with
  | some .nextUpper, _ => c.toUpper
  | some .nextLower, _ => c.toLower
  | _, .upper => c.toUpper
  | _, .lower => c.toLower
  | _, _ => c

def inserted (subject : Regex.Subject) (first last : Nat) (fits : Regex.Fits) (parts : List Insert) : List Char :=
  let add (done : List Char × CaseChange × Option CaseChange) (cs : List Char) :
      List Char × CaseChange × Option CaseChange :=
    let (text, lasting, once) := done
    match cs with
    | [] => done
    | c :: rest => (text ++ changedCase lasting once c :: rest.map (changedCase lasting none), lasting, none)
  (parts.foldl
    (fun done part =>
      match part with
      | .text cs => add done cs
      | .group 0 => add done (subject.text.extract first last).toList
      | .group n => add done ((Regex.textOf subject fits n).getD [])
      | .case .nextUpper => (done.1, done.2.1, some .nextUpper)
      | .case .nextLower => (done.1, done.2.1, some .nextLower)
      | .case change => (done.1, change, none)) ([], .none, none)).1

/-- The text after a replacement from a place on, and whether anything was replaced. An empty match counts only where
no match ends. -/
def replaceFrom (r : Regex) (k : Substitution) (subject : Regex.Subject) :
    (fuel : Nat) → (count start : Nat) → (lastEnd : Option Nat) → List Char × Bool
  | 0, _, start, _ => ((subject.text.extract start subject.text.size).toList, false)
  | fuel + 1, count, start, lastEnd =>
    let tail (i : Nat) : List Char := (subject.text.extract i subject.text.size).toList
    match r.searchFor subject (fun first last => !(first = last && lastEnd = some first)) start with
    | none => (tail start, false)
    | some (first, last, fits) =>
      let before := (subject.text.extract start first).toList
      let isWanted := k.number ≤ count + 1
      let shown := if isWanted then inserted subject first last fits k.inserts
        else (subject.text.extract first last).toList
      if isWanted ∧ !k.everywhere then (before ++ shown ++ tail last, true)
      else if first = last then
        if subject.text.size ≤ last then (before ++ shown, isWanted)
        else
          let next := (subject.text.extract last (last + 1)).toList
          let (more, isMore) := replaceFrom r k subject fuel (count + 1) (last + 1) none
          (before ++ shown ++ next ++ more, isWanted || isMore)
      else
        let (more, isMore) := replaceFrom r k subject fuel (count + 1) last (some last)
        (before ++ shown ++ more, isWanted || isMore)

def substitute (e : Editor) (s : Settings) (k : Substitution) : Editor :=
  match k.sought.expression.or e.sought with
  | none => { e with isAstray := true }
  | some r =>
    let subject : Regex.Subject := { text := e.text.toArray, folds := k.sought.folds, isLined := k.sought.isLined }
    let (text, isReplaced) := replaceFrom r k subject (e.text.length + 2) 0 0 none
    let e := { e with sought := some r }
    if !isReplaced then e
    else
      let e := { e with text, replaced := true }
      let e := if k.runs then
          let (world, bytes) := s.execute e.world e.text
          { e with world, text := Octets.toChars (Utility.bare bytes) }
        else e
      let e := if k.prints then e.emitText s e.text else e
      match k.file with
      | some path => e.emitFile s path e.text
      | none => e

def listed (c : Char) : List Char :=
  match c with
  | '\\' => ['\\', '\\']
  | '\x07' => ['\\', 'a']
  | '\x08' => ['\\', 'b']
  | '\x0c' => ['\\', 'f']
  | '\n' => ['\\', 'n']
  | '\r' => ['\\', 'r']
  | '\t' => ['\\', 't']
  | '\x0b' => ['\\', 'v']
  | c =>
    if ' ' ≤ c ∧ c ≤ '~' then [c]
    else
      let n := c.toNat
      ['\\', Nat.digitChar (n / 64), Nat.digitChar (n / 8 % 8), Nat.digitChar (n % 8)]

def listing (width : Nat) (text : List Char) : List Char :=
  let (lines, _) := text.foldl
    (fun (done : List Char × Nat) c =>
      let shown := listed c
      if 0 < width ∧ width - 1 < done.2 + shown.length then (done.1 ++ '\\' :: '\n' :: shown, shown.length)
      else (done.1 ++ shown, done.2 + shown.length)) ([], 0)
  lines ++ ['$', '\n']

def firstLine (s : Settings) (text : List Char) : List Char := text.takeWhile (· ≠ s.mark)

def runFrom (s : Settings) : (fuel : Nat) → (place : Nat) → Editor → Editor × Leave
  | 0, _, e => (e, .quit 0 true)
  | fuel + 1, place, e =>
    match s.commands[place]? with
    | none => (e, .ended)
    | some command =>
      let (e, isSelected) := e.selects place command.selector
      let goOn (e : Editor) : Editor × Leave :=
        if e.isAstray then (e, .quit 1 true) else runFrom s fuel (place + 1) e
      let jump (target : Option Nat) (e : Editor) : Editor × Leave :=
        match target with
        | some t => runFrom s fuel t e
        | none => (e, .ended)
      if e.isAstray then (e, .quit 1 true)
      else if !isSelected then
        match command.deed with
        | .open closing => runFrom s fuel closing e
        | _ => goOn e
      else
        match command.deed with
        | .open _ | .close | .label => goOn e
        | .jump target => jump target e
        | .jumpIfReplaced target => if e.replaced then jump target { e with replaced := false } else goOn e
        | .jumpUnlessReplaced target => if e.replaced then goOn { e with replaced := false } else jump target e
        | .append text => goOn { e with queue := e.queue ++ [.text text] }
        | .insert text => goOn (e.emit s (Octets.ofChars text))
        | .change text =>
          let isInside := command.selector.last.isSome && !command.selector.negated &&
            (match e.ranges.getD place .closed with
              | .upTo _ | .open => true
              | _ => false)
          (if isInside then e else e.emit s (Octets.ofChars text), .dropped)
        | .delete => (e, .dropped)
        | .deleteFirst =>
          let first := firstLine s e.text
          if first.length = e.text.length then (e, .dropped)
          else ({ e with text := e.text.drop (first.length + 1) }, .again)
        | .run command =>
          if command = [] then
            let (world, bytes) := s.execute e.world e.text
            goOn { e with world, text := Octets.toChars (Utility.bare bytes) }
          else
            let (world, bytes) := s.execute e.world command
            goOn ({ e with world }.emit s bytes)
        | .name => goOn (e.emit s (Utility.octets (e.line.name ++ "\n")))
        | .get => goOn { e with text := e.hold }
        | .getAppend => goOn { e with text := e.text ++ s.mark :: e.hold }
        | .hold => goOn { e with hold := e.text }
        | .holdAppend => goOn { e with hold := e.hold ++ s.mark :: e.text }
        | .exchange => goOn { e with text := e.hold, hold := e.text }
        | .list width => goOn (e.emit s (Octets.ofChars (listing (width.getD s.width) e.text)))
        | .next =>
          if e.line.isLast then (e, .ended)
          else
            let e := (if s.silent then e else e.emitText s e.text).dumpQueue s
            match e.advance s with
            | some next => goOn next
            | none => (e, .ended)
        | .nextAppend =>
          if e.line.isLast then (e, .ended)
          else
            let e := e.dumpQueue s
            match e.advance s with
            | some next => goOn { next with text := e.text ++ s.mark :: next.text }
            | none => (e, .ended)
        | .print => goOn (e.emitText s e.text)
        | .printFirst =>
          let first := firstLine s e.text
          goOn ({ e.emit s (Octets.ofChars (first ++ [s.mark])) with lacksEnd := false })
        | .quit status silent => (e, .quit status silent)
        | .readFile path => goOn { e with queue := e.queue ++ [.file path] }
        | .readLine path => goOn { e with queue := e.queue ++ [.lineOf path] }
        | .substitute k => goOn (e.substitute s k)
        | .write path => goOn (e.emitFile s path e.text)
        | .writeFirst path =>
          goOn { { e with isEnded := true }.emitFile s path (firstLine s e.text) with isEnded := e.isEnded }
        | .translate pairs =>
          goOn { e with text := e.text.map fun c => ((pairs.find? fun p => p.1 = c).map (·.2)).getD c }
        | .number => goOn (e.emit s (Utility.octets (toString e.line.number ++ "\n")))
        | .clear => goOn { e with text := [] }

def maxSteps : Nat := 1000000

/-- Goes through all lines; `restarts` says that the text is kept that is there. -/
def runAll (s : Settings) : (fuel : Nat) → (restarts : Bool) → Editor → Editor × Nat
  | 0, _, e => (e, 0)
  | fuel + 1, restarts, e =>
    match if restarts then some e else e.advance s with
    | none => (e, 0)
    | some e =>
      let (e, leave) := runFrom s maxSteps 0 e
      let print (e : Editor) : Editor := if s.silent then e else e.emitText s e.text
      match leave with
      | .ended => runAll s fuel false ((print e).dumpQueue s)
      | .dropped => runAll s fuel false (e.dumpQueue s)
      | .again => runAll s fuel true (e.dumpQueue s)
      | .quit status silent => (if silent then e else (print e).dumpQueue s, status)

end Editor

def outputFiles (commands : Array Command) : List String :=
  (commands.toList.filterMap fun c =>
    match c.deed with
    | .write path | .writeFirst path => some path
    | .substitute s => s.file
    | _ => none).eraseDups

/-- The lines of some files. The last line of each file is the last one if they are separate. -/
def inputLines (mark : Char) (isSeparate : Bool) (files : List (String × Bytes)) : List InputLine :=
  let texts := (List.range files.length).zip files
  let all := texts.flatMap fun (i, name, bytes) =>
    let found := Utility.linesBy (UInt8.ofNat mark.toNat) bytes
    (List.range found.length).zip found |>.map fun (k, line) => (i, name, k, found.length, line)
  let total := all.length
  (List.range total).zip all |>.map fun (n, i, name, k, count, line) =>
    let cs := Octets.toChars line
    let isEnded := cs.getLast? = some mark
    { text := if isEnded then cs.dropLast else cs, isEnded
      isLast := if isSeparate then k + 1 = count else n + 1 = total
      number := if isSeparate then k + 1 else n + 1
      file := if isSeparate then i else 0, name }

end SbtWorkspace.Simulation.Editing

namespace SbtWorkspace.Simulation.Utility

open Editing

/-- A part of a script: the file that it comes from, if it is not an argument, and its text. -/
structure ScriptPart where
  path : Option String
  text : List Char

/-- What is told of a script that cannot be read further than some characters. -/
def misreadText (parts : List ScriptPart) (m : Misread) (consumed : Nat) : String :=
  go 1 consumed parts
where
  /-- What is told where some characters of the parts that are left were read. -/
  go (number consumed : Nat) : List ScriptPart → String
    | [] => m.flaw.message
    | part :: rest =>
      if consumed ≤ part.text.length + 1 ∨ rest = [] then
        let place := if m.flaw = .unclosedBlock then 0 else min consumed part.text.length
        match part.path with
        | none =>
          "-e expression #" ++ toString number ++ ", char " ++ toString place ++ ": " ++ m.flaw.message
        | some path =>
          let line := ((part.text.take consumed).dropLast).count '\n' + 1
          "file " ++ path ++ " line " ++ toString line ++ ": " ++ m.flaw.message
      else go (if part.path.isNone then number + 1 else number) (consumed - part.text.length - 1) rest

def keptPath (path suffix : String) : String :=
  let name := FileChange.baseName path
  let backup := if suffix.toList.contains '*' then
      String.join ((List.splitOn '*' suffix.toList).map String.ofList |>.intersperse name)
    else name ++ suffix
  if backup.toList.contains '/' ∨ !path.toList.contains '/' then backup
  else FileChange.inside (FileChange.directoryName path) backup

/-- The outcome of an edit of files: what is written, or the files that are changed in place, with a suffix of the
copies that are kept. -/
def edited (s : Settings) (w : World) (sinks : List (String × Sink)) (isSeparate : Bool) (suffix : Option String)
    (names : List String) : Outcome :=
  let c := s.call
  let isDirectory (path : String) : Bool := match w.files.status c.cwd (.ofString path) with
    | .ok (_, .directory) => path ≠ "-"
    | _ => path = "-" && w.origin = .directory
  let reason (path : String) (fault : Fault) : String :=
    if fault ≠ .isDirectory then "can't read " ++ path ++ ": " ++ fault.wording
    else if suffix.isSome then "couldn't edit " ++ path ++ ": not a regular file"
    else "read error on " ++ path ++ ": Is a directory"
  let known := if suffix.isSome then names else names.takeWhile (!isDirectory ·)
  let stop := if known.length < names.length then names[known.length]? else none
  let (w, found) := if known = [] then (w, []) else contents c w known
  let files := (known.zip found).filterMap fun (path, text) => text.toOption.map fun t => (path, t)
  let lines := inputLines s.mark isSeparate files
  let start : Editor := { world := w, rest := lines, ranges := Editor.firstRanges s.commands, sinks }
  let (e, status) := Editor.runAll s (4 * (lines.length + 1) * (lines.length + 1) + 100000) false start
  let complaints := (if known = [] then [] else faultsOf c reason known found) ++
    (if e.isAstray then [Call.complaint c "no previous regular expression"] else []) ++
    (stop.map fun path => Call.complaint c (reason path .isDirectory)).toList
  let isFaulty := found.any fun f => f.toOption.isNone
  let missing := if stop.isSome then 4
    else if !isFaulty then 0
    else if suffix.isSome ∧ names.any isDirectory then 4
    else 2
  let status := if status ≠ 0 then status else missing
  match suffix with
  | none =>
    { world := e.world, output := e.written.reverse.flatMap (·.2), complaints, status }
  | some suffix =>
    let texts := (List.range files.length).map fun i =>
      (e.written.reverse.filter fun part => part.1 = i).flatMap (·.2)
    let left := e.rest.head?.map (·.file)
    let write (w : World) (path : String) (text : Bytes) : World :=
      match w.files.write c.cwd (.ofString path) text with
      | .ok files => { w with files }
      | .error _ => w
    let world := (files.zip texts).zip (List.range files.length) |>.foldl
      (fun (w : World) ((f, text), i) =>
        if left.any (· < i) then w
        else
          let remaining := if left = some i then e.rest.flatMap fun l =>
            if l.file = i then Octets.ofChars (l.text ++ if l.isEnded then [s.mark] else []) else [] else []
          let w := if suffix = "" then w else write w (keptPath f.1 suffix) f.2
          write w f.1 (text ++ remaining)) e.world
    { world, complaints, status }

/-- Edits files line by line, or in place. -/
def sed (execute : Call → World → List Char → World × Bytes) : Work := fun c w args =>
  let inPlace (args : List String) : List String := args.flatMap fun arg =>
    match arg.toList with
    | '-' :: cs =>
      let before := cs.takeWhile "nrEsuz".toList.contains
      match cs.drop before.length with
      | 'i' :: suffix =>
        (if before = [] then [] else [String.ofList ('-' :: before)]) ++
          [if suffix = [] then "--in-place" else "--in-place=" ++ String.ofList suffix]
      | _ => [arg]
    | _ => [arg]
  reading
    { letters := "nrEsuz", valued := "efl", optional := "\x01"
      long := [("quiet", 'n'), ("silent", 'n'), ("expression", 'e'), ("file", 'f'), ("in-place", '\x01'),
        ("line-length", 'l'), ("posix", '\x02'), ("regexp-extended", 'E'), ("separate", 's'), ("unbuffered", 'u'),
        ("null-data", 'z'), ("zero-terminated", 'z'), ("debug", '\x02'), ("sandbox", '\x02'),
        ("follow-symlinks", '\x02'), ("binary", '\x02')] } 1
    (fun c w a =>
      let given : List (Except (String × Fault) ScriptPart) := a.options.filterMap fun o =>
        if o.1 = 'e' then some (.ok ⟨none, Octets.ofString o.2⟩)
        else if o.1 = 'f' then
          some (match if o.2 = "-" then w.readInput else w.readFile c o.2 with
            | .ok (_, bytes) => .ok ⟨some o.2, Octets.toChars (bare bytes)⟩
            | .error fault => .error (o.2, fault))
        else none
      let (given, paths) := if given ≠ [] then (given, a.operands)
        else (a.operands.head?.toList.map fun s => .ok ⟨none, Octets.ofString s⟩, a.operands.tail)
      match given, given.mapM id with
      | [], _ =>
        let usage := "Usage: sed [OPTION]... \x7bscript-only-if-no-other-script\x7d [input-file]...\n"
        { world := w, complaints := [{ text := usage }], status := 1 }
      | _, .error (path, .isDirectory) => refused c w 1 ("couldn't read " ++ path ++ ": Is a directory")
      | _, .error (path, fault) => refused c w 4 ("couldn't open file " ++ path ++ ": " ++ fault.wording)
      | _, .ok parts =>
        let script := ['\n'].intercalate (parts.map (·.text))
        let form : Regex.Form := if a.has 'E' ∨ a.has 'r' then .extended else .basic
        match read form script with
        | .error (.misread m) => refused c w 1 (misreadText parts m (script.length - m.left))
        | .error (.noLabel name) => refused c w 1 ("can't find label for jump to \x60" ++ String.ofList name ++ "'")
        | .ok commands =>
          let isSilent := a.has 'n' || ("#n\n".toList).isPrefixOf script || script = ['#', 'n']
          let isInPlace := a.has '\x01'
          let isSeparate := isInPlace || a.has 's'
          let mark := if a.has 'z' then '\x00' else '\n'
          let opened : Except (String × Fault) (World × List (String × Sink)) :=
            (outputFiles commands).foldlM
              (fun (done : World × List (String × Sink)) path =>
                if path = "/dev/stdout" then .ok done
                else
                  match done.1.openFile c path true with
                  | .ok (w, sink) => .ok (w, done.2 ++ [(path, sink)])
                  | .error fault => .error (path, fault)) (w, [])
          match opened with
          | .error (path, fault) => refused c w 4 ("couldn't open file " ++ path ++ ": " ++ fault.wording)
          | .ok (w, sinks) =>
            if isInPlace ∧ paths = [] then refused c w 1 "no input files"
            else
              let s : Settings :=
                { commands, silent := isSilent, mark, call := c, execute := execute c
                  width := ((a.value? 'l').bind fun t => natural? t.toList).getD 70 }
              edited s w sinks isSeparate (if isInPlace then a.value? '\x01' else none)
                (if paths = [] then ["-"] else paths)) c w (inPlace args)

end SbtWorkspace.Simulation.Utility
