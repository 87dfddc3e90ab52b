import SbtWorkspace.Simulation.Records.Evaluation
import SbtWorkspace.Simulation.Records.Reader

/-! Carrying out statements, and applying rules to all records. A program of rules ends when its output is written and
the commands that it writes to have ended. -/

namespace SbtWorkspace.Simulation.Records

namespace Machine

def setWriter (name : String) (w : Writer) : Working Unit :=
  modify fun m => { m with writers := (name, w) :: m.writers.filter fun v => v.1 ≠ name }

/-- Writes to the output. -/
def put (bytes : Bytes) : Working Unit := modify fun m => { m with waiting := bytes :: m.waiting }

def putFile (name : String) (empties : Bool) (bytes : Bytes) : Working Unit := do
  let m ← get
  if name = "-" ∨ name = "/dev/stdout" then put bytes
  else if name = "/dev/stderr" then
    set { m with world := m.world.emit bytes ((m.place.sink? 2).getD .lost) }
  else
    match m.writers.find? fun w => w.1 = name with
    | some (_, .file sink waiting) => setWriter name (.file sink (waiting ++ bytes))
    | _ =>
      match m.world.openFile m.place name empties with
      | .ok (world, sink) => do
        set { m with world }
        setWriter name (.file sink bytes)
      | .error fault => failWith ("cannot open \"" ++ name ++ "\" for output (" ++ fault.wording ++ ")")

def putCommand (name : String) (bytes : Bytes) : Working Unit := do
  match (← get).writers.find? fun w => w.1 = name with
  | some (_, .command text) => setWriter name (.command (text ++ bytes))
  | _ => do
    flushAll
    setWriter name (.command bytes)

end Machine

namespace Engine

open Machine

/-- Writes octets where they go. -/
def write (e : Engine) (bytes : Bytes) : Direction → Working Unit
  | .output => put bytes
  | .over path => do putFile (Octets.toString (← e.text path)) true bytes
  | .behind path => do putFile (Octets.toString (← e.text path)) false bytes
  | .into command => do putCommand (Octets.toString (← e.text command)) bytes

def shown (m : Machine) (v : Value) : List Char :=
  v.toText (match m.global "OFMT" with
    | .text cs | .numeral cs _ => cs
    | _ => "%.6g".toList)

/-- Writes values, or the record, as a record. -/
def print (e : Engine) (items : List Expression) (d : Direction) : Working Unit := do
  let values ← items.mapM e.value
  let m ← get
  let parts := if items.isEmpty then [shown m m.record] else values.map (shown m)
  e.write (Octets.ofChars ((m.globalText "OFS").intercalate parts ++ m.globalText "ORS")) d

def printFormat (e : Engine) (items : List Expression) (d : Direction) : Working Unit := do
  match ← items.mapM e.value with
  | [] => fail
  | format :: values => do
    let m ← get
    let format := m.text format
    let (cs, isWhole) := formatted m.format (format.length + 1) format values
    e.write (Octets.ofChars cs) d
    if !isWhole then runFault ("not enough arguments passed to printf(\"" ++ String.ofList format ++ "\")")

/-- Carries out a statement in a loop; says whether the loop goes on. -/
def turn (x : Working Unit) : Working Bool := do
  match ← ExceptT.lift x.run with
  | .ok () | .error .turn => pure true
  | .error .loop => pure false
  | .error leave => throw leave

def repeatWhile (e : Engine) (condition : Expression) (step body : Statement) :
    (fuel : Nat) → (asks : Bool) → Working Unit
  | 0, _ => pure ()
  | fuel + 1, asks => do
    let goesOn ← if asks then (·.isTrue) <$> e.value condition else pure true
    if goesOn then
      if ← turn (e.carryOut body) then
        e.carryOut step
        e.repeatWhile condition step body fuel true

def maxTurns : Nat := 10000000

def repeatEach (e : Engine) (name : String) (body : Statement) : List String → Working Unit
  | [] => pure ()
  | k :: rest => do
    setVariable name (.text k.toList)
    if ← turn (e.carryOut body) then e.repeatEach name body rest

def carryOutAll (e : Engine) : List Statement → Working Unit
  | [] => pure ()
  | s :: rest => do
    e.carryOut s
    e.carryOutAll rest

def carryOutOne (e : Engine) : Statement → Working Unit
  | .nothing => pure ()
  | .evaluate a => do let _ ← e.value a
  | .print items d => e.print items d
  | .printFormat items d => e.printFormat items d
  | .sequence statements => e.carryOutAll statements
  | .conditional condition yes no => do
    if (← e.value condition).isTrue then e.carryOut yes else e.carryOut no
  | .loop bodyFirst condition step body => e.repeatWhile condition step body maxTurns (!bodyFirst)
  | .each name table body => do
    let i ← tableOf table
    let (keys, t) := (← Machine.table i).keys
    setTable i t
    e.repeatEach name body keys
  | .leave => throw .loop
  | .goOn => throw .turn
  | .next => throw .record
  | .nextFile => throw .file
  | .exit none => throw .rules
  | .exit (some a) => do
    let n := Value.clamped (← e.value a).toNumber
    modify fun m => { m with status := (n % 256).toNat }
    throw .rules
  | .return none => throw (.function .unset)
  | .return (some a) => do throw (.function (← e.value a))
  | .delete table indices => do
    let k ← e.key indices
    let i ← tableOf table
    setTable i ((← Machine.table i).erase k)
  | .clear table => do setTable (← tableOf table) {}

/-- Whether a rule is meant for the record; `number` is its place among the rules. -/
def isMeant (e : Engine) (number : Nat) : Occasion → Working Bool
  | .start | .finish => pure false
  | .always => pure true
  | .when condition => do pure (← e.value condition).isTrue
  | .range first last => do
    let begun ← if (← get).ranges.getD number false then pure true else (·.isTrue) <$> e.value first
    if begun then
      let ended := (← e.value last).isTrue
      modify fun m => { m with ranges := m.ranges.set! number (!ended) }
    pure begun

/-- Carries out the action of a rule. -/
def act (e : Engine) (r : Rule) : Working Unit :=
  match r.action with
  | some s => e.carryOut s
  | none => e.print [] .output

def applyAll (e : Engine) : List (Rule × Nat) → Working Unit
  | [] => pure ()
  | (r, number) :: rest => do
    if ← e.isMeant number r.occasion then e.act r
    e.applyAll rest

def applyToRecords (e : Engine) (rules : List (Rule × Nat)) : (fuel : Nat) → Working Unit
  | 0 => pure ()
  | fuel + 1 => do
    match ← nextText 10000 with
    | none => pure ()
    | some cs => do
      setRecord (.ofInput cs)
      match ← ExceptT.lift (e.applyAll rules).run with
      | .ok () | .error .record => pure ()
      | .error .file => modify fun m => { m with source := none }
      | .error leave => throw leave
      e.applyToRecords rules fuel

def maxRecords : Nat := 100000000

def isStart (r : Rule) : Bool := r.occasion matches .start

def isFinish (r : Rule) : Bool := r.occasion matches .finish

def actAll (e : Engine) : List Rule → Working Unit
  | [] => pure ()
  | r :: rest => do
    e.act r
    e.actAll rest

def complain (reason : String) : Working Unit := do
  if reason ≠ "" then
    modify fun m => { m with world := Utility.Call.complain m.place m.world reason }

/-- Applies rules from the start to the end; says whether nothing failed. -/
def applyRules (e : Engine) (rules : List Rule) : Working Bool := do
  let finish := rules.filter isFinish
  let records := (rules.zipIdx).filter fun r => !isStart r.1 && !isFinish r.1
  let last : Working Bool := do
    match ← ExceptT.lift (e.actAll finish).run with
    | .error (.fault reason) => do
      complain reason
      pure false
    | _ => pure true
  let first : Working Unit := do
    e.actAll (rules.filter isStart)
    if !records.isEmpty || !finish.isEmpty then e.applyToRecords records maxRecords
  match ← ExceptT.lift first.run with
  | .error (.fault reason) => do
    complain reason
    pure false
  | _ => last

end Engine

/-- An engine for expressions and statements that are nested no deeper than the fuel allows. -/
def engine (launch : Launching) : (fuel : Nat) → Engine
  | 0 => ⟨fun _ => Machine.fail, fun _ => Machine.fail, launch⟩
  | fuel + 1 =>
    let e := engine launch fuel
    ⟨fun a => Engine.valueOf ⟨e.value, e.carryOut, launch⟩ a,
      fun s => Engine.carryOutOne ⟨e.value, e.carryOut, launch⟩ s,
      launch⟩

/-- How deep expressions, statements and calls can be nested. -/
def maxDepth : Nat := 5000

/-- A machine as it begins. -/
def Machine.start (c : Call) (w : World) (rules : Rules) : Machine :=
  let ranges := Array.replicate rules.rules.length false
  let m : Machine := { world := w, place := c, functions := rules.functions, ranges }
  let texts := [("FS", " "), ("OFS", " "), ("ORS", "\n"), ("RS", "\n"), ("SUBSEP", "\x1c"), ("CONVFMT", "%.6g"),
    ("OFMT", "%.6g"), ("FILENAME", "")]
  let m := texts.foldl (fun m v => m.withGlobal v.1 (.text v.2.toList)) m
  let m := ["NR", "FNR", "NF", "RSTART"].foldl (fun m name => m.withGlobal name (.number 0)) m
  m.withGlobal "RLENGTH" (.number (-1))

/-- Applies rules to the files that are arguments. The first argument is the name of the program. -/
def apply (launch : Launching) (c : Call) (w : World) (rules : Rules) (separator : Option (List Char))
    (assignments : List (List Char)) (args : List String) : Utility.Outcome :=
  let prepared : Working Unit := do
    if let some cs := separator then Machine.setVariable "FS" (.text cs)
    for a in assignments do
      let _ ← Machine.assignArgument a
    let argv ← Machine.tableOf "ARGV"
    Machine.setTable argv (args.zipIdx.foldl
      (fun t (a, i) => t.insert (.number i) (.ofInput (Octets.ofString a))) {})
    Machine.setVariable "ARGC" (.ofNat args.length)
    let env ← Machine.tableOf "ENVIRON"
    Machine.setTable env (c.env.bindings.foldl
      (fun t v => t.insert (.word (String.ofList (Octets.ofString v.1))) (.ofInput (Octets.ofString v.2))) {})
  let work : Working Bool := do
    prepared
    let e := engine launch maxDepth
    let isWhole ← e.applyRules rules.rules
    Machine.closeAll launch 1000
    Machine.flush
    pure isWhole
  let (result, m) := work.run.run (Machine.start c w rules)
  { world := m.world
    status := match result with
      | .ok true => m.status
      | _ => 2 }

end SbtWorkspace.Simulation.Records

namespace SbtWorkspace.Simulation.Utility

/-- What the arguments of a program of rules tell: what separates fields, assignments, files with rules, and the
rest. -/
structure RuleArguments where
  separator : Option (List Char) := none
  assignments : List (List Char) := []
  files : List String := []
  operands : List String := []

/-- Reads the arguments of a program of rules, unless it cannot use them. -/
def ruleArguments : List String → RuleArguments → Except String RuleArguments
  | [], a => .ok a
  | arg :: rest, a =>
    let valued (c : Char) (value : String) : Except String RuleArguments :=
      let cs := Octets.ofString value
      if c = 'F' then
        let cs := match Records.Token.constant (2 * cs.length + 3)
            (cs.flatMap (fun d => if d = '"' then ['\\', '"'] else [d]) ++ ['"']) with
          | some (cs, _) => cs
          | none => cs
        .ok { a with separator := some cs }
      else if c = 'f' then .ok { a with files := a.files ++ [value] }
      else
        let name := cs.takeWhile fun d => d.isAlphanum || d = '_'
        if name ≠ [] ∧ !(name.head?.any Char.isDigit) ∧ (cs.drop name.length).head? = some '=' then
          .ok { a with assignments := a.assignments ++ [cs] }
        else .error ("improper assignment: -v " ++ value)
    match arg.toList with
    | ['-', '-'] => .ok { a with operands := rest }
    | ['-'] => .ok { a with operands := arg :: rest }
    | '-' :: c :: cs =>
      if c = 'F' ∨ c = 'f' ∨ c = 'v' then
        match cs, rest with
        | [], value :: rest => (valued c value).bind fun b => ruleArguments rest b
        | [], [] => .error ("option " ++ arg ++ " lacks argument")
        | cs, rest => (valued c (String.ofList cs)).bind fun b => ruleArguments rest b
      else .error ("not an option: " ++ arg)
    | _ => .ok { a with operands := arg :: rest }

/-- Applies rules to records. -/
def awk (launch : Launching) : Work := fun c w args =>
  let c := { c with name := FileChange.baseName c.name }
  if [["--version"], ["--help"], ["-W", "version"], ["-Wversion"]].contains args then { world := w }
  else if args = [] then { world := w }
  else
    match ruleArguments args {} with
    | .error reason => refused c w 2 reason
    | .ok a =>
      let read : Except String (List Char × List String) :=
        if a.files = [] then
          match a.operands with
          | source :: rest => .ok (Octets.ofString source, rest)
          | [] => .error "no program"
        else
          let texts : Except String (List (List Char)) := a.files.mapM fun path =>
            match if path = "-" then w.readInput else w.readFile c path with
            | .ok (_, bytes) => .ok (Octets.toChars bytes)
            | .error fault => .error ("cannot open \"" ++ path ++ "\" (" ++ fault.wording ++ ")")
          texts.map fun texts => (texts.flatMap (· ++ ['\n']), a.operands)
      match read with
      | .error reason => refused c w 2 reason
      | .ok (source, operands) =>
        match Records.Rules.read? source with
        | none => refused c w 2 "line 1: syntax error at or near end of line"
        | some rules => Records.apply launch c w rules a.separator a.assignments (c.name :: operands)

end SbtWorkspace.Simulation.Utility
