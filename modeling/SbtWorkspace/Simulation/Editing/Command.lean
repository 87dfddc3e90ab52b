import SbtWorkspace.Simulation.Regex.Reader

/-! Commands of an editor that goes through a text line by line. Each command is done for the lines that it selects;
blocks and jumps are places in the row of all commands. -/

namespace SbtWorkspace.Simulation.Editing

/-- An expression as it is searched for. None stands for the one that was searched for last. -/
structure Sought where
  expression : Option Regex
  folds : Bool := false
  isLined : Bool := false

inductive LinePlace where
  | number (n : Nat)
  | last
  | every (first step : Nat)
  | fits (s : Sought)

inductive RangeEnd where
  | place (p : LinePlace)
  | after (lines : Nat)
  | multiple (of : Nat)

/-- The lines for which a command is done. A range that begins before the first line is open there. -/
structure Selector where
  first : Option LinePlace := none
  last : Option RangeEnd := none
  isOpen : Bool := false
  negated : Bool := false

inductive CaseChange where
  | upper
  | lower
  | nextUpper
  | nextLower
  | none
  deriving DecidableEq, Repr

inductive Insert where
  | text (cs : List Char)
  | group (number : Nat)
  | case (change : CaseChange)
  deriving DecidableEq, Repr

/-- A replacement: what is sought, what is put in its place, and what follows. -/
structure Substitution where
  sought : Sought
  inserts : List Insert
  number : Nat := 1
  everywhere : Bool := false
  prints : Bool := false
  runs : Bool := false
  file : Option String := none

inductive Deed where
  | open (closing : Nat)
  | close
  | label
  | jump (target : Option Nat)
  | jumpIfReplaced (target : Option Nat)
  | jumpUnlessReplaced (target : Option Nat)
  | append (text : List Char)
  | insert (text : List Char)
  | change (text : List Char)
  | delete
  | deleteFirst
  | run (command : List Char)
  | name
  | get
  | getAppend
  | hold
  | holdAppend
  | exchange
  | list (width : Option Nat)
  | next
  | nextAppend
  | print
  | printFirst
  | quit (status : Nat) (silent : Bool)
  | readFile (path : String)
  | readLine (path : String)
  | substitute (s : Substitution)
  | write (path : String)
  | writeFirst (path : String)
  | translate (pairs : List (Char × Char))
  | number
  | clear

/-- A command: the lines it is done for, and what it does. -/
structure Command where
  selector : Selector
  deed : Deed

end SbtWorkspace.Simulation.Editing
