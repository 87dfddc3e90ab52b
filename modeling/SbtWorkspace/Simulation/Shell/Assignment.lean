import SbtWorkspace.Simulation.Shell.Declaration
import SbtWorkspace.Simulation.Shell.Engine
import SbtWorkspace.Simulation.Shell.Intake

/-! Assignments of scripts: to variables, to elements of arrays, and to arrays as a whole. -/

namespace SbtWorkspace.Simulation.Shell

namespace Engine

/-- The value that is put into a variable: what it adds to is worked out before. -/
def assignText (e : Engine) (a : Assignment) (w : Word) : Running Unit := do
  let value ← wordText e.substitute w
  match a.key with
  | some key => do
    let k ← wordKey e.substitute a.name key
    let s ← get
    let old := if a.appends then ((s.items a.name).find? fun i => i.1 = k).map (·.2) else none
    assignElement a.name k (added s old value)
  | none =>
    let s ← get
    assign a.name (if a.appends then added s (s.stored? a.name) value else value)
where
  /-- A value after another one: integers are added. -/
  added (s : Shell) (old : Option String) (value : String) : String :=
    match old with
    | some old => if s.integers.contains a.name then "(" ++ old ++ ")+(" ++ value ++ ")" else old ++ value
    | none => value

def keyedItem? (w : Word) : Option (Word × Bool × Word) :=
  match w with
  | .literal ['['] false :: rest =>
    match Script.keyPieces 0 rest with
    | some (key, .literal ['='] false :: value) => some (key, false, value)
    | some (key, .literal ['+'] false :: .literal ['='] false :: value) => some (key, true, value)
    | _ => none
  | _ => none

/-- The items that are written for an array: keys and values, or values alone. -/
def expandItems (e : Engine) : List Word → Running (List (Option (Word × Bool) × String))
  | [] => pure []
  | w :: rest => do
    let found ← match keyedItem? w with
      | some (key, appends, value) => do pure [(some (key, appends), ← wordText e.substitute value)]
      | none => do pure ((← wordFields e.substitute w).map fun f => (none, f))
    pure (found ++ (← e.expandItems rest))

/-- Puts items into an array. Those without a key follow the one before. -/
def putItems (e : Engine) (name : String) : (next : Nat) → List (Option (Word × Bool) × String) → Running Unit
  | _, [] => pure ()
  | next, (some (key, appends), value) :: rest => do
    let k ← wordKey e.substitute name key
    let s ← get
    let old := if appends then ((s.items name).find? fun i => i.1 = k).map (·.2) else none
    assignElement name k (old.getD "" ++ value)
    e.putItems name ((k.toNat?).getD next + 1) rest
  | next, (none, value) :: rest => do
    if (← get).tables.contains name then
      match rest with
      | (_, second) :: more => do
        assignElement name value second
        e.putItems name next more
      | [] => assignElement name value ""
    else
      assignElement name (toString next) value
      e.putItems name (next + 1) rest
termination_by _ items => items.length

def assignOne (e : Engine) (a : Assignment) : Running Unit := do
  match a.content with
  | .text w => e.assignText a w
  | .items ws => do
    if (← get).constants.contains a.name then
      discard (a.name ++ ": is read only") (a.name ++ ": readonly variable")
    let items ← e.expandItems ws
    if !a.appends then modify (emptied a.name) else modify (asArray false a.name)
    let keys := (((← get).elements a.name).map fun i => (i.1.toNat?).getD 0 + 1)
    e.putItems a.name (keys.foldl max 0) items

def assignAll (e : Engine) : List Assignment → Running Unit
  | [] => pure ()
  | a :: rest => do
    e.assignOne a
    e.assignAll rest

/-- Runs an operation with variables that have other values for its time, and are exported. A rich shell leaves out
those that are constants. -/
def withAssignments (e : Engine) (assignments : List Assignment) (x : Running Nat) : Running Nat := do
  let outer ← get
  if assignments = [] then x
  else
    let isFixed (a : Assignment) : Bool := outer.rich && outer.constants.contains a.name
    for a in assignments.filter isFixed do report (a.name ++ ": readonly variable")
    let assignments := assignments.filter (!isFixed ·)
    e.assignAll assignments
    let names := assignments.map (·.name)
    modify fun s => { s with exported := names ++ s.exported, temporary := names ++ s.temporary }
    andThen x fun s =>
      { restore (names.map outer.save) s with exported := outer.exported, temporary := outer.temporary }

end Engine

end SbtWorkspace.Simulation.Shell
