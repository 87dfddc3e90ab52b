import SbtWorkspace.FileSystem.Error
import SbtWorkspace.Simulation.FileChange
import SbtWorkspace.Simulation.Options
import SbtWorkspace.Simulation.World
import SbtWorkspace.Text.Octet

/-! What the programs of a machine do: the world after them, their output, their complaints and their status. A
program that is refused one of its operands goes on with the next one, and its status tells of it. Main statements:
the lines of a text are the text (`flatten_lines`), and a step writes after those before it
(`output_andThen`). -/

namespace SbtWorkspace.Simulation.Utility

/-- The octets of a text. -/
def octets (s : String) : Bytes := Utf8.encode s

/-- What a program complains about, and how many octets of its output are written before. -/
structure Complaint where
  place : Nat := 0
  text : String

/-- What a program of the machine does: its output for the descriptor 1, its complaints for the descriptor 2, and its
status. -/
structure Outcome where
  world : World
  output : Bytes := []
  complaints : List Complaint := []
  status : Nat := 0

/-- A program of the machine with its arguments. -/
abbrev Work := Call → World → List String → Outcome

def writeFrom (c : Call) (place : Nat) (output : Bytes) (w : World) : List Complaint → World
  | [] => w.emit output ((c.sink? 1).getD .lost)
  | complaint :: rest =>
    let n := complaint.place - place
    let w := w.emit (output.take n) ((c.sink? 1).getD .lost)
    let w := w.emit (octets complaint.text) ((c.sink? 2).getD .lost)
    writeFrom c (place + n) (output.drop n) w rest

/-- The world after a program, with what it writes. -/
def Outcome.written (c : Call) (o : Outcome) : World := writeFrom c 0 o.output o.world o.complaints

def Call.complaint (c : Call) (text : String) : Complaint := { text := c.name ++ ": " ++ text ++ "\n" }

def Call.complain (c : Call) (w : World) (text : String) : World :=
  w.emit (octets (Call.complaint c text).text) ((c.sink? 2).getD .lost)

/-- The outcome of a program that can do nothing. -/
def refused (c : Call) (w : World) (status : Nat) (text : String) : Outcome :=
  { world := w, complaints := [Call.complaint c text], status }

/-- The outcome of a program whose arguments it cannot use. -/
def misused (c : Call) (w : World) (status : Nat) (text : String) : Outcome :=
  { world := w, status
    complaints := [{ text := c.name ++ ": " ++ text ++ "\nTry '" ++ c.name ++ " --help' for more information.\n" }] }

def Outcome.andThen (o : Outcome) (step : World → Outcome) : Outcome :=
  let next := step o.world
  { world := next.world
    output := o.output ++ next.output
    complaints := o.complaints ++ next.complaints.map fun k => { k with place := o.output.length + k.place }
    status := max o.status next.status }

theorem Outcome.output_andThen (o : Outcome) (step : World → Outcome) :
    (o.andThen step).output = o.output ++ (step o.world).output := rfl

def inTurn (w : World) (steps : List (World → Outcome)) : Outcome := steps.foldl Outcome.andThen { world := w }

/-- The text of a name between quotes, of the kind that the name needs. Octets that cannot be shown are written by
their numbers. -/
def named (path : String) : String :=
  let cs := Octets.ofString path
  let escape (c : Char) : Option String :=
    if c = '\n' then some "\\n" else if c = '\t' then some "\\t" else if c = '\r' then some "\\r"
    else if c.toNat = 7 then some "\\a" else if c.toNat = 8 then some "\\b" else if c.toNat = 11 then some "\\v"
    else if c.toNat = 12 then some "\\f"
    else if c.toNat < 32 ∨ 126 < c.toNat then
      let ds := Nat.toDigits 8 c.toNat
      some ("\\" ++ String.ofList (List.replicate (3 - ds.length) '0' ++ ds))
    else none
  let mark := "\x27"
  if cs.contains '\x27' ∧ !cs.any (fun c => "\"$\x60\\".toList.contains c || (escape c).isSome) then
    "\"" ++ path ++ "\""
  else
    let parts := cs.foldl
      (fun (done : String × Bool) c =>
        match escape c with
        | some text => (done.1 ++ (if done.2 then "" else mark ++ "$" ++ mark) ++ text, true)
        | none =>
          let shown := if c = '\x27' then mark ++ "\\" ++ mark ++ mark else String.ofList [c]
          (done.1 ++ (if done.2 then mark ++ mark else "") ++ shown, false)) (mark, false)
    parts.1 ++ mark

/-- A name as it is shown before a colon: between quotes only if it needs them. -/
def shownName (path : String) : String :=
  let cs := path.toList
  let isPlain (c : Char) : Bool := ' ' < c && c < '\x7f' && !"!\"$&()*;<=>[^\x60|?\\\x27:".toList.contains c
  let isOdd : Bool := cs = [] || cs = ['\x7b'] || cs = ['\x7d'] || cs.head? = some '#' || cs.head? = some '~'
  if cs.all isPlain ∧ !isOdd then path else named path

/-- The outcome of a change of the files, with what is told of it, or of why it is refused. -/
def changed (c : Call) (told : String) (reason : FileSystem → String) (change : FileChange) (w : World) : Outcome :=
  match change w.files with
  | some files => { world := { w with files }, output := octets told }
  | none => refused c w 1 (reason w.files)

/-- The outcome of a program that reads its arguments by some options. Arguments that it cannot use give the status
`misuse`. -/
def reading (o : Options) (misuse : Nat) (f : Call → World → Arguments → Outcome) : Work :=
  fun c w args =>
    if args = ["--help"] ∨ args = ["--version"] then { world := w }
    else
      match o.read args with
      | .ok a => f c w a
      | .error fault => misused c w misuse fault.message

/-- The content of the files that are named, or of the input, each on its own, or why it cannot be read. -/
def contents (c : Call) (w : World) (paths : List String) : World × List (Except Fault Bytes) :=
  (if paths = [] then ["-"] else paths).foldl
    (fun (done : World × List (Except Fault Bytes)) path =>
      match if path = "-" then done.1.readInput else done.1.readFile c path with
      | .ok (w, bytes) => (w, done.2 ++ [.ok bytes])
      | .error fault => (done.1, done.2 ++ [.error fault])) (w, [])

def unreadable (path : String) (fault : Fault) : String := shownName path ++ ": " ++ fault.wording

/-- The outcome of a program that writes something for each file that is named, or for the input, and complains of
those that it cannot read. -/
def eachContent (c : Call) (w : World) (paths : List String) (refused : Nat) (reason : String → Fault → String)
    (f : String → Bytes → Bytes) : Outcome :=
  let (world, found) := contents c w paths
  inTurn world (((if paths = [] then ["-"] else paths).zip found).map fun (path, text) => fun w =>
    match text with
    | .ok bytes => { world := w, output := f path bytes }
    | .error fault => { world := w, complaints := [Call.complaint c (reason path fault)], status := refused })

def faultsOf (c : Call) (reason : String → Fault → String) (paths : List String) (found : List (Except Fault Bytes)) :
    List Complaint :=
  ((if paths = [] then ["-"] else paths).zip found).filterMap fun (path, text) =>
    match text with
    | .ok _ => none
    | .error fault => some (Call.complaint c (reason path fault))

def linesBy (mark : UInt8) : Bytes → List Bytes
  | [] => []
  | b :: rest =>
    if b = mark then [b] :: linesBy mark rest
    else
      match linesBy mark rest with
      | [] => [[b]]
      | line :: more => (b :: line) :: more

theorem flatten_linesBy (mark : UInt8) (bytes : Bytes) : (linesBy mark bytes).flatten = bytes := by
  induction bytes with
  | nil => rfl
  | cons b rest ih =>
    unfold linesBy
    split
    · simp [ih]
    · split
      · rename_i h
        simp [h] at ih
        simp [← ih]
      · rename_i h
        simp only [h, List.flatten_cons] at ih
        simp [← ih]

/-- The lines of a text, each with its end. -/
def lines (bytes : Bytes) : List Bytes := linesBy 0x0a bytes

theorem flatten_lines (bytes : Bytes) : (lines bytes).flatten = bytes := flatten_linesBy 0x0a bytes

/-- A line without its end. -/
def bare (line : Bytes) : Bytes := if line.getLast? = some 0x0a then line.dropLast else line

/-- A line with an end. -/
def ended (line : Bytes) : Bytes := if line.getLast? = some 0x0a then line else line ++ [0x0a]

/-- The lines of a text as characters, without their ends. -/
def rows (bytes : Bytes) : List (List Char) := (lines bytes).map fun line => Octets.toChars (bare line)

def ofRows (rs : List (List Char)) : Bytes := rs.flatMap fun r => Octets.ofChars r ++ [0x0a]

/-- The outcome of a program that writes what it makes of all of some texts. In the place of a text there may be a
complaint, which comes after what is made of the texts before. -/
def makingOf (c : Call) (w : World) (found : List (Except String Bytes)) (refused : Nat) (f : List Bytes → Bytes) :
    Outcome :=
  let texts (n : Nat) : List Bytes := (found.take n).filterMap Except.toOption
  let complaints := found.zipIdx.filterMap fun (text, n) =>
    match text with
    | .ok _ => none
    | .error reason => some { Call.complaint c reason with place := (f (texts n)).length }
  { world := w, output := f (texts found.length), complaints, status := if complaints.isEmpty then 0 else refused }

/-- The outcome of a program that reads files, or the input, and writes what it makes of all of them. It complains of
a file that it cannot read after what it makes of those before. -/
def filtering (c : Call) (w : World) (paths : List String) (refused : Nat) (f : List Bytes → Bytes) :
    Outcome :=
  let (world, found) := contents c w paths
  let texts := ((if paths = [] then ["-"] else paths).zip found).map fun (path, text) =>
    text.mapError (unreadable path)
  makingOf c world texts refused f

def natural? (cs : List Char) : Option Nat :=
  if cs ≠ [] ∧ cs.all Char.isDigit then some (cs.foldl (fun n c => n * 10 + (c.toNat - 48)) 0) else none

def sizeFactor? (cs : List Char) : Option Nat :=
  let power (c : Char) : Option Nat :=
    match c with
    | 'k' | 'K' => some 1
    | 'M' | 'm' => some 2
    | 'G' => some 3
    | 'T' => some 4
    | _ => none
  match cs with
  | [] => some 1
  | ['b'] => some 512
  | ['c'] => some 1
  | ['w'] => some 2
  | [c] | [c, 'i', 'B'] => (power c).map (Nat.pow 1024)
  | [c, 'B'] => (power c).map (Nat.pow 1000)
  | _ => none

def size? (text : String) : Option Nat := do
  let digits := text.toList.takeWhile Char.isDigit
  let n ← natural? digits
  let factor ← sizeFactor? (text.toList.drop digits.length)
  pure (n * factor)

end SbtWorkspace.Simulation.Utility
