import SbtWorkspace.Simulation.Records.Rule
import SbtWorkspace.Simulation.Records.Table
import SbtWorkspace.Simulation.Records.Value
import SbtWorkspace.Simulation.Regex.Reader
import SbtWorkspace.Simulation.Utility.Outcome

/-! What is known while rules are applied to records: variables and tables, the record with its fields, and the texts
that are read and written. Main statement: the fields of a record that is cut at a character, joined by it, are the
record (`intercalate_cut_char`). -/

namespace SbtWorkspace.Simulation.Records

/-- What a name stands for: a value, and the number of a table where it is one. -/
structure Slot where
  value : Value := .unset
  table : Option Nat := none

inductive Separator where
  | blanks
  | nothing
  | char (c : Char)
  | regex (r : Regex)

/-- Where a text is written: a file, with what is not there yet, or the input of a command. -/
inductive Writer where
  | file (sink : Sink) (waiting : Bytes)
  | command (text : Bytes)

/-- The machine that applies rules. -/
structure Machine where
  world : World
  place : Call
  functions : List (String × Function) := []
  globals : Std.HashMap String Slot := ∅
  /-- What the names of the function that runs stand for. -/
  frame : List (String × Slot) := []
  tables : Array (Table Value) := #[]
  record : Value := .unset
  fields : Array Value := #[]
  /-- What is left of the text that records are taken from; none where the next one is to be opened. -/
  source : Option (List Char) := none
  /-- The number of the argument that is opened next. -/
  argument : Nat := 1
  /-- Whether an argument was a file. -/
  hasFiles : Bool := false
  isAtEnd : Bool := false
  /-- What is left of the files and commands that are read by name, with the status of each. -/
  readers : List (String × List Char × Nat) := []
  /-- What is written by name, that which was used last in front. -/
  writers : List (String × Writer) := []
  /-- The output that is not written yet, the last part first. -/
  waiting : List Bytes := []
  ranges : Array Bool := #[]
  seed : Nat := 0
  status : Nat := 0

/-- What keeps a machine from going on with the next statement. -/
inductive Leave where
  | loop
  | turn
  | record
  | file
  | function (v : Value)
  | rules
  /-- The machine can do something not, and ends. -/
  | fault (reason : String)

abbrev Working := ExceptT Leave (StateM Machine)

namespace Separator

def ofText? (cs : List Char) : Option Separator :=
  match cs with
  | [] => some .nothing
  | [' '] => some .blanks
  | [c] => some (.char c)
  | _ => (Regex.read? .escaped cs).map .regex

def cutAt (c : Char) : List Char → List (List Char)
  | [] => [[]]
  | d :: rest =>
    if d = c then [] :: cutAt c rest
    else
      match cutAt c rest with
      | part :: more => (d :: part) :: more
      | [] => [[d]]

theorem cutAt_ne_nil (c : Char) (cs : List Char) : cutAt c cs ≠ [] := by
  induction cs with
  | nil => simp [cutAt]
  | cons d rest ih =>
    unfold cutAt
    split
    · simp
    · split <;> simp

theorem intercalate_cutAt (c : Char) (cs : List Char) : [c].intercalate (cutAt c cs) = cs := by
  induction cs with
  | nil => simp [cutAt]
  | cons d rest ih =>
    unfold cutAt
    split
    · rename_i h
      match hr : cutAt c rest with
      | [] => exact absurd hr (cutAt_ne_nil c rest)
      | part :: more =>
        rw [hr] at ih
        simp [List.intercalate_cons_cons, ih, h]
    · match hr : cutAt c rest with
      | [] => exact absurd hr (cutAt_ne_nil c rest)
      | [part] =>
        rw [hr] at ih
        simp at ih
        simp [ih]
      | part :: q :: more =>
        rw [hr] at ih
        simp [List.intercalate_cons_cons] at ih ⊢
        exact ih

/-- Whether a character is a blank between fields. -/
def isBlank (c : Char) : Bool := c = ' ' || c = '\t' || c = '\n'

def words : (fuel : Nat) → List Char → List (List Char)
  | 0, _ => []
  | fuel + 1, cs =>
    match cs.dropWhile isBlank with
    | [] => []
    | cs =>
      let word := cs.takeWhile (!isBlank ·)
      word :: words fuel (cs.drop word.length)

/-- The parts of a text between the places where an expression fits. -/
def cutWhere (r : Regex) (s : Regex.Subject) : (fuel : Nat) → (start : Nat) → List (List Char)
  | 0, _ => []
  | fuel + 1, start =>
    match r.searchFor s (fun i j => i < j) start with
    | some (first, last, _) => (s.text.extract start first).toList :: cutWhere r s fuel last
    | none => [(s.text.extract start s.text.size).toList]

/-- The fields of a text; `byLines` says that ends of lines separate them, too. -/
def cut (byLines : Bool) (s : Separator) (cs : List Char) : List (List Char) :=
  let parts := if byLines then cutAt '\n' cs else [cs]
  match s with
  | blanks => words (cs.length + 1) cs
  | nothing => cs.map ([·])
  | char c => if cs = [] then [] else parts.flatMap (cutAt c)
  | regex r => if cs = [] then [] else parts.flatMap fun part => cutWhere r { text := part.toArray } (part.length + 2) 0

end Separator

namespace Machine

def failWith (reason : String) : Working α := throw (.fault reason)

/-- Ends the machine because it can do something not that is not told. -/
def fail : Working α := failWith ""

def slot (m : Machine) (name : String) : Slot :=
  match m.frame.find? fun f => f.1 = name with
  | some f => f.2
  | none => m.globals.getD name {}

def withSlot (m : Machine) (name : String) (s : Slot) : Machine :=
  if m.frame.any fun f => f.1 = name then
    { m with frame := m.frame.map fun f => if f.1 = name then (name, s) else f }
  else { m with globals := m.globals.insert name s }

/-- The value of a global variable. -/
def global (m : Machine) (name : String) : Value := (m.globals.getD name {}).value

def withGlobal (m : Machine) (name : String) (v : Value) : Machine :=
  { m with globals := m.globals.insert name { m.globals.getD name {} with value := v } }

def format (m : Machine) : List Char :=
  match m.global "CONVFMT" with
  | .text cs | .numeral cs _ => cs
  | _ => "%.6g".toList

/-- The text of a value. -/
def text (m : Machine) (v : Value) : List Char := v.toText m.format

def globalText (m : Machine) (name : String) : List Char := m.text (m.global name)

def runFault (reason : String) : Working α := do
  let m ← get
  let count (name : String) : String := name ++ "=" ++ String.ofList (m.globalText name)
  failWith ("run time error: " ++ reason ++ "\n\tFILENAME=\"" ++ String.ofList (m.globalText "FILENAME") ++ "\" " ++
    count "FNR" ++ " " ++ count "NR")

def tableOf (name : String) : Working Nat := do
  let m ← get
  let s := m.slot name
  match s.table with
  | some i => pure i
  | none => do
    let i := m.tables.size
    set ({ m with tables := m.tables.push {} }.withSlot name { s with table := some i })
    pure i

/-- The table of a number. -/
def table (i : Nat) : Working (Table Value) := do pure ((← get).tables.getD i {})

def setTable (i : Nat) (t : Table Value) : Working Unit :=
  modify fun m => { m with tables := m.tables.set! i t }

def cutRecord (m : Machine) (cs : List Char) : Working (Array Value) := do
  match Separator.ofText? (m.globalText "FS") with
  | some s => pure ((s.cut (m.globalText "RS" = []) cs).map Value.ofInput).toArray
  | none => fail

def setRecord (v : Value) : Working Unit := do
  let m ← get
  let fields ← cutRecord m (m.text v)
  set ({ m with record := v, fields }.withGlobal "NF" (.ofNat fields.size))

def rebuilt (m : Machine) : Machine :=
  let parts := m.fields.toList.map m.text
  { m with record := .ofInput ((m.globalText "OFS").intercalate parts) }.withGlobal "NF" (.ofNat m.fields.size)

def resized (fields : Array Value) (size : Nat) : Array Value :=
  fields.extract 0 size ++ Array.replicate (size - fields.size) (.text [])

def maxField : Int := 100000

def fieldNumber (v : Value) : Working Nat := do
  let n := Value.clamped v.toNumber
  if n < 0 then runFault ("negative field index $" ++ toString n)
  else if maxField < n then fail
  else pure n.toNat

/-- The value of a field. -/
def field (n : Nat) : Working Value := do
  let m ← get
  pure (if n = 0 then m.record else m.fields.getD (n - 1) .unset)

def setField (n : Nat) (v : Value) : Working Unit := do
  if n = 0 then setRecord v
  else
    let m ← get
    let fields := (resized m.fields (max n m.fields.size)).set! (n - 1) v
    set { m with fields }.rebuilt

def setVariable (name : String) (v : Value) : Working Unit := do
  let m ← get
  set (m.withSlot name { m.slot name with value := v })
  if name = "NF" ∧ !(m.frame.any fun f => f.1 = name) then
    let n ← fieldNumber v
    modify fun m => { m with fields := resized m.fields n }.rebuilt

/-- The first record of a text by what separates records, and the rest; none at its end. -/
def firstRecord? (separator : List Char) (cs : List Char) : Option (List Char × List Char) :=
  match separator with
  | [] =>
    match cs.dropWhile (· = '\n') with
    | [] => none
    | cs =>
      let (found, rest) := paragraph (cs.length + 1) cs
      some (found, rest.dropWhile (· = '\n'))
  | [c] =>
    if cs = [] then none
    else
      let found := cs.takeWhile (· ≠ c)
      some (found, cs.drop (found.length + 1))
  | _ =>
    if cs = [] then none
    else
      match Regex.read? .escaped separator with
      | some r =>
        let s : Regex.Subject := { text := cs.toArray }
        match r.searchFor s (fun i j => i < j) 0 with
        | some (first, last, _) => some (cs.take first, cs.drop last)
        | none => some (cs, [])
      | none => some (cs, [])
where
  /-- The text up to an empty line, and the rest. -/
  paragraph : (fuel : Nat) → List Char → List Char × List Char
    | 0, cs => (cs, [])
    | _, [] => ([], [])
    | _, ['\n'] => ([], [])
    | _, '\n' :: '\n' :: rest => ([], rest)
    | fuel + 1, c :: rest =>
      let (found, rest) := paragraph fuel rest
      (c :: found, rest)

def flush : Working Unit := modify fun m =>
  let bytes := m.waiting.reverse.flatten
  { m with world := m.world.emit bytes ((m.place.sink? 1).getD .lost), waiting := [] }

def flushAll : Working Unit := do
  flush
  modify fun m =>
    m.writers.foldl
      (fun m w =>
        match w.2 with
        | .file sink waiting =>
          { m with
            world := m.world.emit waiting sink
            writers := m.writers.map fun v => if v.1 = w.1 then (v.1, .file sink []) else v }
        | .command _ => m) m

def told : Ending → Nat
  | .exited code => code
  | .killed signal => 256 + signal

end Machine

end SbtWorkspace.Simulation.Records
